import Convoy.Refusal
import Convoy.Schedule.Offers
import Convoy.Schedule.Watch
import Convoy.Session.Link

/-!
# Routing events

The router handles the master's events one by one: it answers every offer with one acceptance,
acknowledges the reports that ask for it, and hands all reports to the schedule. Calls are made in
the name of the framework that the master last confirmed.
-/
namespace Convoy

/-- What passes through the router, for those who look on. -/
inductive Notice where
  | event (event : Event)
  | call (call : Call)

structure Router where
  schedule : Schedule
  link : Link := {}
  refusal : Refusal
  /-- The identity that the master gave the framework. -/
  framework : Option FrameworkId := none
  notices : List Notice := []

namespace Router

variable (router : Router)

def notice (notice : Notice) : Router :=
  { router with notices := router.notices ++ [notice] }

/-- The call, in the framework's name where it has one. -/
def sign (call : Call) : Call :=
  match router.framework with
  | some framework => call.withFramework framework
  | none => call

def call (call : Call) : Router × Except LinkFailure Unit :=
  let call := router.sign call
  let (link, result) := router.link.call call
  ({ router with link := link }.notice (.call call), result)

/-- Subscribes as a framework, under the identity it was given before. -/
def subscribe (framework : Framework) : Router × Except LinkFailure Unit :=
  let call := router.sign (.subscribe { framework with id := router.framework })
  let (link, result) := router.link.subscribe call
  ({ router with link := link }.notice (.call call), result)

/-- What is drawn on an occasion that goes by how much passed through before. -/
def drawn (draw : Nat → Draw) : Float :=
  router.schedule.draws (draw router.notices.length)

/-- The time for which leftovers are refused, drawn from the window. -/
def filters : Filters :=
  router.refusal.filters (router.drawn .refusal)

/-- Answers offers in order, each with one acceptance; the first failure ends it. -/
def answer (router : Router) (framework : FrameworkId) :
    List Offer → Router × Except Failure Unit
  | [] => (router, .ok ())
  | offer :: rest =>
    match router.schedule.matchOffer offer framework with
    | (schedule, .error failure) => ({ router with schedule := schedule }, .error failure)
    | (schedule, .ok found) =>
      let accept := Call.accept [offer.id] found.operations router.filters
      match { router with schedule := schedule }.call accept with
      | (router, .ok ()) => answer router framework rest
      | (router, .error failure) => (router, .error (.link failure))

def acknowledge (status : Status) : Router × Except LinkFailure Unit :=
  match Call.acknowledge? status with
  | some call => router.call call
  | none => (router, .ok ())

/-- Takes a report: it is acknowledged first, and reaches the schedule even if that failed. -/
def report (status : Status) : Router × Except Failure Unit :=
  let (router, acknowledged) := router.acknowledge status
  ({ router with schedule := router.schedule.update status }, acknowledged.mapError .link)

def handle (event : Event) : Router × Except Failure Unit :=
  let router := router.notice (.event event)
  match event with
  | .subscribed framework _ _ => ({ router with framework := some framework }, .ok ())
  | .offers offers =>
    match router.framework with
    | some framework => router.answer framework offers
    | none => (router, .error (.breach (.notSubscribed event.kind)))
  | .update status => router.report status
  | .unknown => (router, .error (.breach .unknownEvent))
  | _ => (router, .ok ())

end Router
end Convoy
