import Convoy.Wire.Framework
import Convoy.Wire.Operation
import Convoy.Wire.Status

/-!
# Calls

What a framework sends to the master. A call may carry the framework's identity beside its body.
-/
namespace Convoy

open Data

/-- How long, in seconds, the master is to keep declined resources from the framework. -/
structure Filters where
  refuseSeconds : Float

namespace Filters

def write (filters : Filters) : Datum :=
  record [field "refuse_seconds" (.float filters.refuseSeconds)]

def read : Reader Filters :=
  readRecord ["refuse_seconds"] fun fields => do
    return { refuseSeconds := ← fields.required "refuse_seconds" readFloat }

end Filters

inductive CallBody where
  | subscribe (framework : Framework)
  | teardown
  | accept (offers : List OfferId) (operations : List Operation) (filters : Option Filters)
  | decline (offers : List OfferId) (filters : Option Filters)
  | revive
  | acknowledge (agent : AgentId) (task : TaskId) (uuid : String)

namespace CallBody

def kind : CallBody → String
  | .subscribe _ => "SUBSCRIBE"
  | .teardown => "TEARDOWN"
  | .accept _ _ _ => "ACCEPT"
  | .decline _ _ => "DECLINE"
  | .revive => "REVIVE"
  | .acknowledge _ _ _ => "ACKNOWLEDGE"

/-- The tags of the calls, by name and by position. -/
def names : List String :=
  ["SUBSCRIBE", "TEARDOWN", "ACCEPT", "DECLINE", "REVIVE", "ACKNOWLEDGE"]

def payload : CallBody → Entries
  | .subscribe framework =>
    field "subscribe" (record [field "framework_info" framework.write])
  | .accept offers operations filters =>
    field "accept"
      (record
        [field "offer_ids" (listOf Identifier.write offers),
         field "operations" (listOf Operation.write operations),
         fieldIfSome "filters" Filters.write filters])
  | .decline offers filters =>
    field "decline"
      (record
        [field "offer_ids" (listOf Identifier.write offers),
         fieldIfSome "filters" Filters.write filters])
  | .acknowledge agent task uuid =>
    field "acknowledge"
      (record
        [field "agent_id" agent.write, field "task_id" task.write, field "uuid" (.text uuid)])
  | .teardown | .revive => []

def readSubscribe : Reader CallBody :=
  readRecord ["framework_info"] fun fields => do
    return .subscribe (← fields.required "framework_info" Framework.read)

def readAccept : Reader CallBody :=
  readRecord ["offer_ids", "operations", "filters"] fun fields => do
    return .accept (← fields.required "offer_ids" (readList Identifier.read))
      (← fields.defaulted "operations" (readList Operation.read) (pure []))
      (← fields.optional "filters" Filters.read)

def readDecline : Reader CallBody :=
  readRecord ["offer_ids", "filters"] fun fields => do
    return .decline (← fields.required "offer_ids" (readList Identifier.read))
      (← fields.optional "filters" Filters.read)

def readAcknowledge : Reader CallBody :=
  readRecord ["agent_id", "task_id", "uuid"] fun fields => do
    return .acknowledge (← fields.required "agent_id" Identifier.read)
      (← fields.required "task_id" Identifier.read) (← fields.required "uuid" readText)

def read : Reader CallBody := fun datum => do
  let (tag, rest) ← readTagged datum
  match ← tag.resolve names with
  | some "SUBSCRIBE" => readPayload "subscribe" readSubscribe rest
  | some "TEARDOWN" => readNothing rest; return .teardown
  | some "ACCEPT" => readPayload "accept" readAccept rest
  | some "DECLINE" => readPayload "decline" readDecline rest
  | some "REVIVE" => readNothing rest; return .revive
  | some "ACKNOWLEDGE" => readPayload "acknowledge" readAcknowledge rest
  | _ => throw (.mismatch "call")

end CallBody

structure Call where
  framework : Option FrameworkId := none
  body : CallBody

namespace Call

/-- Subscribes; a framework that has an identity names it beside its description too. -/
def subscribe (framework : Framework) : Call where
  framework := framework.id
  body := .subscribe framework

def accept (offers : List OfferId) (operations : List Operation) (filters : Filters) : Call where
  body := .accept offers operations (some filters)

def decline (offers : List OfferId) (filters : Filters) : Call where
  body := .decline offers (some filters)

/-- Acknowledges a status, if it asks for it. -/
def acknowledge? (status : Status) : Option Call :=
  match status.uuid, status.agent with
  | some uuid, some agent => some { body := .acknowledge agent status.task uuid }
  | _, _ => none

def revive : Call where
  body := .revive

def teardown : Call where
  body := .teardown

/-- The call, made in the name of a framework. -/
def withFramework (framework : FrameworkId) (call : Call) : Call :=
  { call with framework := some framework }

def kind (call : Call) : String :=
  call.body.kind

def write (call : Call) : Datum :=
  record
    [fieldIfSome "framework_id" Identifier.write call.framework,
     field "type" (.text call.kind),
     call.body.payload]

def isFrameworkEntry (entry : Key × Datum) : Bool :=
  entry.1 == .text "framework_id"

/-- The framework's identity among the entries that name one: at most one does. -/
def readFramework : Entries → Decode (Option FrameworkId)
  | [] | [(_, .null)] => pure none
  | [(_, datum)] => return some (← Identifier.read datum)
  | _ => throw (.repeated "framework_id")

/-- Reads a call: its identity where it stands, its body held whole. -/
def read : Reader Call
  | .map entries => do
    let framework ← readFramework (entries.filter isFrameworkEntry)
    let rest := entries.filter fun entry => !isFrameworkEntry entry
    if Datum.entriesReadable rest then
      return { framework := framework, body := ← held CallBody.read (.map rest) }
    else throw .unreadable
  | _ => throw (.mismatch "call")

end Call
end Convoy
