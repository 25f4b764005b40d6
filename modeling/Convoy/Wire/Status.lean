import Convoy.Wire.Identifier

/-!
# Task states and status reports

A state is active, finished or failed. A lost agent may come back, so `unreachable` is active.
-/
namespace Convoy

open Data

inductive TaskState where
  | starting | staging | running | killing | finished | failed | killed | error | lost | dropped
  | unreachable | gone | goneByOperator | unknown
deriving Repr, DecidableEq

/-- What a state means for scheduling. -/
inductive Outcome where
  /-- The task may still make progress. -/
  | active
  /-- The task ended well. -/
  | finished
  /-- The task makes no progress without a relaunch. -/
  | failed
deriving Repr, DecidableEq

def Outcome.name : Outcome → String
  | .active => "Active"
  | .finished => "Finished"
  | .failed => "Failed"

namespace TaskState

def name : TaskState → String
  | .starting => "TASK_STARTING"
  | .staging => "TASK_STAGING"
  | .running => "TASK_RUNNING"
  | .killing => "TASK_KILLING"
  | .finished => "TASK_FINISHED"
  | .failed => "TASK_FAILED"
  | .killed => "TASK_KILLED"
  | .error => "TASK_ERROR"
  | .lost => "TASK_LOST"
  | .dropped => "TASK_DROPPED"
  | .unreachable => "TASK_UNREACHABLE"
  | .gone => "TASK_GONE"
  | .goneByOperator => "TASK_GONE_BY_OPERATOR"
  | .unknown => "TASK_UNKNOWN"

/-- All states, in the order of their wire positions. -/
def all : List TaskState :=
  [.starting, .staging, .running, .killing, .finished, .failed, .killed, .error, .lost, .dropped,
   .unreachable, .gone, .goneByOperator, .unknown]

def names : List (String × TaskState) :=
  all.map fun state => (state.name, state)

def outcome : TaskState → Outcome
  | .finished => .finished
  | .failed | .killed | .error | .lost | .dropped | .gone | .goneByOperator | .unknown => .failed
  | .starting | .staging | .running | .killing | .unreachable => .active

def isFailure (state : TaskState) : Bool :=
  state.outcome == .failed

def write (state : TaskState) : Datum := .text state.name

def read : Reader TaskState := readName names

end TaskState

/-- A report on one task. It asks for an acknowledgement where it has a `uuid` and an agent. -/
structure Status where
  task : TaskId
  state : TaskState
  message : Option String := none
  source : Option String := none
  reason : Option String := none
  agent : Option AgentId := none
  executor : Option ExecutorId := none
  uuid : Option String := none
  timestamp : Option Float := none

namespace Status

def messageText (status : Status) : String :=
  status.message.getD ""

def fieldNames : List String :=
  ["task_id", "state", "message", "source", "reason", "agent_id", "executor_id", "uuid",
   "timestamp"]

def write (status : Status) : Datum :=
  record
    [field "task_id" status.task.write,
     field "state" status.state.write,
     fieldIfSome "message" .text status.message,
     fieldIfSome "source" .text status.source,
     fieldIfSome "reason" .text status.reason,
     fieldIfSome "agent_id" Identifier.write status.agent,
     fieldIfSome "executor_id" Identifier.write status.executor,
     fieldIfSome "uuid" .text status.uuid,
     fieldIfSome "timestamp" .float status.timestamp]

def read : Reader Status :=
  readRecord fieldNames fun fields => do
    return { task := ← fields.required "task_id" Identifier.read
             state := ← fields.required "state" TaskState.read
             message := ← fields.optional "message" readText
             source := ← fields.optional "source" readText
             reason := ← fields.optional "reason" readText
             agent := ← fields.optional "agent_id" Identifier.read
             executor := ← fields.optional "executor_id" Identifier.read
             uuid := ← fields.optional "uuid" readText
             timestamp := ← fields.optional "timestamp" readFloat }

end Status
end Convoy
