import Convoy.Failure
import Convoy.Wire.Call
import Convoy.Wire.Event

/-!
# The link to the master

A link carries calls to the master and brings events back. All subscriptions read from one inbox, so
what comes while nobody is subscribed waits for the next subscription.
-/
namespace Convoy

/-- What a subscription brings: an event, or its own end. -/
inductive Delivery where
  | event (event : Event)
  | disconnect (reason : String)

/-- A link, with what the master will do to it and the calls that reached the master. -/
structure Link where
  inbox : List Delivery := []
  /-- How many more subscriptions are refused. -/
  refusals : Nat := 0
  /-- What becomes of the next calls: why they fail, or nothing for one that passes. -/
  failures : List (Option LinkFailure) := []
  gone : Bool := false
  calls : List Call := []

namespace Link

/-- Brings a call to the master, unless the master is gone. -/
def carry (link : Link) (call : Call) : Link × Except LinkFailure Unit :=
  if link.gone then (link, .error .closed)
  else ({ link with calls := link.calls ++ [call] }, .ok ())

def call (link : Link) (call : Call) : Link × Except LinkFailure Unit :=
  match link.failures with
  | some failure :: rest => ({ link with failures := rest }, .error failure)
  | none :: rest => { link with failures := rest }.carry call
  | [] => link.carry call

/-- Subscribes. A subscription that is refused reaches the master too. -/
def subscribe (link : Link) (call : Call) : Link × Except LinkFailure Unit :=
  match link.carry call with
  | (link, .ok ()) =>
    match link.refusals with
    | 0 => (link, .ok ())
    | refusals + 1 =>
      ({ link with refusals := refusals },
        .error (.connection "mock master refused subscription"))
  | failed => failed

/-- The link with one more delivery; a master that is gone delivers nothing. -/
def deliver (link : Link) (delivery : Delivery) : Link :=
  if link.gone then link else { link with inbox := link.inbox ++ [delivery] }

/-- The link whose next call fails, after those that fail already. -/
def failNext (link : Link) (failure : LinkFailure) : Link :=
  { link with failures := link.failures ++ [some failure] }

def refuse (link : Link) (count : Nat) : Link :=
  { link with refusals := count }

end Link
end Convoy
