import Convoy.Decimal.Notation
import Convoy.Wire.Status

/-!
# Failures

Why a run, or a step of it, fails. Two of the causes are failures of a task; all others lie with the
master, the connection or the program itself.
-/
namespace Convoy

inductive LinkFailure where
  /-- The connection could not be made, or was lost. -/
  | connection (reason : String)
  | rejected (call : String) (status : UInt16) (message : String)
  | closed
deriving Repr, DecidableEq

def LinkFailure.message : LinkFailure → String
  | .connection reason => "connection failed: " ++ reason
  | .rejected call status message =>
    call ++ " call rejected with status " ++ Decimal.integerText status.toNat ++ ": " ++ message
  | .closed => "transport closed"

inductive Breach where
  /-- An event of a type that nothing handles. -/
  | unknownEvent
  /-- An event that needs a subscription came before one. -/
  | notSubscribed (kind : String)
  | unexpected (expected actual : String)
deriving Repr, DecidableEq

def Breach.message : Breach → String
  | .unknownEvent => "unrecognized event type"
  | .notSubscribed kind => kind ++ " event received before SUBSCRIBED"
  | .unexpected expected actual =>
    "unexpected response: expected " ++ expected ++ ", got " ++ actual

inductive Failure where
  /-- A task failed and is not to be relaunched. -/
  | terminal (task : TaskId) (state : TaskState) (message : String)
  /-- A task stopped after its group had used up its relaunches. -/
  | restartLimit (task : TaskId) (state : TaskState) (attempts : Nat)
  | link (cause : LinkFailure)
  | breach (cause : Breach)
  | invalidGroup (reason : String)
  | queueFull (queue : String)
  /-- One of the two loops of a run died. -/
  | crashed (loop : String) (message : String)
deriving Repr, DecidableEq

namespace Failure

def message : Failure → String
  | .terminal task state message =>
    "task " ++ task.text ++ " entered a terminal state " ++ state.name ++ " " ++ message
  | .restartLimit task state attempts =>
    "task " ++ task.text ++ " entered " ++ state.name ++ " after " ++
      Decimal.integerText attempts ++
      " restarts: restart limit reached"
  | .link cause => cause.message
  | .breach cause => cause.message
  | .invalidGroup reason => "invalid task group: " ++ reason
  | .queueFull queue => queue ++ " channel closed"
  | .crashed loop message => loop ++ " task failed: " ++ message

/-- Whether a task could not be kept alive. -/
def isTaskFailure : Failure → Bool
  | .terminal _ _ _ | .restartLimit _ _ _ => true
  | _ => false

end Failure
end Convoy
