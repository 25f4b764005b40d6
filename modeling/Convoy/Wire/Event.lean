import Convoy.Wire.Framework
import Convoy.Wire.Status

/-!
# Events

What the master sends to a subscribed framework. An event of a type that is not known here is kept
as `unknown`, so that whoever handles it can refuse it.
-/
namespace Convoy

open Data

structure Offer where
  id : OfferId
  framework : Option FrameworkId := none
  agent : AgentId
  hostname : String := ""
  resources : List Resource := []

namespace Offer

def fieldNames : List String := ["id", "framework_id", "agent_id", "hostname", "resources"]

def write (offer : Offer) : Datum :=
  record
    [field "id" offer.id.write,
     fieldIfSome "framework_id" Identifier.write offer.framework,
     field "agent_id" offer.agent.write,
     field "hostname" (.text offer.hostname),
     field "resources" (listOf Resource.write offer.resources)]

def read : Reader Offer :=
  readRecord fieldNames fun fields => do
    return { id := ← fields.required "id" Identifier.read
             framework := ← fields.optional "framework_id" Identifier.read
             agent := ← fields.required "agent_id" Identifier.read
             hostname := ← fields.defaulted "hostname" readText (pure "")
             resources := ← fields.defaulted "resources" (readList Resource.read) (pure []) }

end Offer

structure InverseOffer where
  id : InverseOfferId
  agent : Option AgentId := none
deriving Repr, DecidableEq

namespace InverseOffer

def write (offer : InverseOffer) : Datum :=
  record [field "id" offer.id.write, fieldIfSome "agent_id" Identifier.write offer.agent]

def read : Reader InverseOffer :=
  readRecord ["id", "agent_id"] fun fields => do
    return { id := ← fields.required "id" Identifier.read
             agent := ← fields.optional "agent_id" Identifier.read }

end InverseOffer

inductive Event where
  | subscribed (framework : FrameworkId) (interval : Option Float) (master : Option Master)
  | offers (offers : List Offer)
  | inverseOffers (offers : List InverseOffer)
  | rescind (offer : OfferId)
  | rescindInverseOffer (offer : InverseOfferId)
  | update (status : Status)
  | message (agent : AgentId) (executor : ExecutorId) (data : String)
  | failure (agent : Option AgentId) (executor : Option ExecutorId) (status : Option Int32)
  | error (message : String)
  | heartbeat
  | unknown

namespace Event

def kind : Event → String
  | .subscribed _ _ _ => "SUBSCRIBED"
  | .offers _ => "OFFERS"
  | .inverseOffers _ => "INVERSE_OFFERS"
  | .rescind _ => "RESCIND"
  | .rescindInverseOffer _ => "RESCIND_INVERSE_OFFER"
  | .update _ => "UPDATE"
  | .message _ _ _ => "MESSAGE"
  | .failure _ _ _ => "FAILURE"
  | .error _ => "ERROR"
  | .heartbeat => "HEARTBEAT"
  | .unknown => "UNKNOWN"

def names : List String :=
  ["SUBSCRIBED", "OFFERS", "INVERSE_OFFERS", "RESCIND", "RESCIND_INVERSE_OFFER", "UPDATE",
   "MESSAGE", "FAILURE", "ERROR", "HEARTBEAT"]

def payload : Event → Entries
  | .subscribed framework interval master =>
    field "subscribed"
      (record
        [field "framework_id" framework.write,
         fieldIfSome "heartbeat_interval_seconds" .float interval,
         fieldIfSome "master_info" Master.write master])
  | .offers items => field "offers" (record [field "offers" (listOf Offer.write items)])
  | .inverseOffers items =>
    field "inverse_offers" (record [field "inverse_offers" (listOf InverseOffer.write items)])
  | .rescind offer => field "rescind" (record [field "offer_id" offer.write])
  | .rescindInverseOffer offer =>
    field "rescind_inverse_offer" (record [field "inverse_offer_id" offer.write])
  | .update status => field "update" (record [field "status" status.write])
  | .message agent executor data =>
    field "message"
      (record
        [field "agent_id" agent.write, field "executor_id" executor.write,
         field "data" (.text data)])
  | .failure agent executor status =>
    field "failure"
      (record
        [fieldIfSome "agent_id" Identifier.write agent,
         fieldIfSome "executor_id" Identifier.write executor,
         fieldIfSome "status" (fun status : Int32 => .int status.toInt) status])
  | .error text => field "error" (record [field "message" (.text text)])
  | .heartbeat | .unknown => []

def write (event : Event) : Datum :=
  record [field "type" (.text event.kind), event.payload]

def readSubscribed : Reader Event :=
  readRecord ["framework_id", "heartbeat_interval_seconds", "master_info"] fun fields => do
    return .subscribed (← fields.required "framework_id" Identifier.read)
      (← fields.optional "heartbeat_interval_seconds" readFloat)
      (← fields.optional "master_info" Master.read)

def readOffers : Reader Event :=
  readRecord ["offers"] fun fields => do
    return .offers (← fields.defaulted "offers" (readList Offer.read) (pure []))

def readInverseOffers : Reader Event :=
  readRecord ["inverse_offers"] fun fields => do
    return .inverseOffers
      (← fields.defaulted "inverse_offers" (readList InverseOffer.read) (pure []))

def readRescind : Reader Event :=
  readRecord ["offer_id"] fun fields => do
    return .rescind (← fields.required "offer_id" Identifier.read)

def readRescindInverseOffer : Reader Event :=
  readRecord ["inverse_offer_id"] fun fields => do
    return .rescindInverseOffer (← fields.required "inverse_offer_id" Identifier.read)

def readUpdate : Reader Event :=
  readRecord ["status"] fun fields => do
    return .update (← fields.required "status" Status.read)

def readMessage : Reader Event :=
  readRecord ["agent_id", "executor_id", "data"] fun fields => do
    return .message (← fields.required "agent_id" Identifier.read)
      (← fields.required "executor_id" Identifier.read)
      (← fields.defaulted "data" readText (pure ""))

def readFailure : Reader Event :=
  readRecord ["agent_id", "executor_id", "status"] fun fields => do
    return .failure (← fields.optional "agent_id" Identifier.read)
      (← fields.optional "executor_id" Identifier.read) (← fields.optional "status" readInt32)

def readError : Reader Event :=
  readRecord ["message"] fun fields => do
    return .error (← fields.required "message" readText)

/-- Reads an event; any name that is not a known tag makes it `unknown`. -/
def read : Reader Event := fun datum => do
  let (tag, rest) ← readTagged datum
  match ← tag.resolve names with
  | some "SUBSCRIBED" => held (readPayload "subscribed" readSubscribed) rest
  | some "OFFERS" => held (readPayload "offers" readOffers) rest
  | some "INVERSE_OFFERS" => held (readPayload "inverse_offers" readInverseOffers) rest
  | some "RESCIND" => held (readPayload "rescind" readRescind) rest
  | some "RESCIND_INVERSE_OFFER" =>
    held (readPayload "rescind_inverse_offer" readRescindInverseOffer) rest
  | some "UPDATE" => held (readPayload "update" readUpdate) rest
  | some "MESSAGE" => held (readPayload "message" readMessage) rest
  | some "FAILURE" => held (readPayload "failure" readFailure) rest
  | some "ERROR" => held (readPayload "error" readError) rest
  | some "HEARTBEAT" => readNothing rest; return .heartbeat
  | _ => readNothing rest; return .unknown

end Event
end Convoy
