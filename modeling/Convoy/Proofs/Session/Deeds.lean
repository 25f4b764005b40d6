import Convoy.Proofs.Schedule.Account
import Convoy.Session.Router

/-!
# The calls that events lead to

What events ask of a router is a list of deeds, and so is all that happens to its schedule
meanwhile. The deeds are done in order up to the first that fails. So the calls of a router, their
signatures and the reports that reach the watch can be read off the events and the fates of the
calls.
-/
namespace Convoy

/-- What can happen to a router. Beside the events of the master, time passes, groups that come back
enter their queues, and the run is told to stop. -/
inductive Happening where
  | event (event : Event)
  | pass (milliseconds : Nat)
  | settle
  | stop

/-- One thing that is done because of what happens. -/
inductive Deed where
  | hear (event : Event)
  /-- An offer is matched and answered. -/
  | offer (framework : FrameworkId) (offer : Offer)
  /-- A report is acknowledged, if it asks for it, and handed to the watch. -/
  | report (status : Status)
  | breach (cause : Breach)
  | pass (milliseconds : Nat)
  | settle
  | stop

/-- The framework that an event confirms. -/
def Event.confirmed? : Event → Option FrameworkId
  | .subscribed framework _ _ => some framework
  | _ => none

/-- What an event asks for, besides being heard. -/
def Event.deeds (framework : Option FrameworkId) : Event → List Deed
  | .offers given =>
    match framework with
    | some framework => given.map (.offer framework)
    | none => [.breach (.notSubscribed "OFFERS")]
  | .update status => [.report status]
  | .unknown => [.breach .unknownEvent]
  | _ => []

/-- What is to be done because of what happens, as long as nothing fails. -/
def deedsOf (framework : Option FrameworkId) : List Happening → List Deed
  | [] => []
  | .event event :: rest =>
    let framework := event.confirmed?.or framework
    .hear event :: event.deeds framework ++ deedsOf framework rest
  | .pass milliseconds :: rest => .pass milliseconds :: deedsOf framework rest
  | .settle :: rest => .settle :: deedsOf framework rest
  | .stop :: rest => .stop :: deedsOf framework rest

/-- What a call says, less the launches and the filters of an acceptance. -/
inductive Gist where
  | accept (offers : List OfferId)
  | acknowledge (agent : AgentId) (task : TaskId) (uuid : String)
  | other (kind : String)
deriving DecidableEq

/-- A call in somebody's name. -/
structure Signed where
  framework : Option FrameworkId
  gist : Gist
deriving DecidableEq

def Call.signed (call : Call) : Signed where
  framework := call.framework
  gist :=
    match call.body with
    | .accept offers _ _ => .accept offers
    | .acknowledge agent task uuid => .acknowledge agent task uuid
    | body => .other body.kind

namespace Deed

/-- What a deed calls for. -/
def gist? : Deed → Option Gist
  | .offer _ given => some (.accept [given.id])
  | .report status =>
    match status.uuid, status.agent with
    | some uuid, some agent => some (.acknowledge agent status.task uuid)
    | _, _ => none
  | _ => none

def report? : Deed → Option Status
  | .report status => some status
  | _ => none

/-- The framework in whose name calls are made after a deed. -/
def framework (before : Option FrameworkId) : Deed → Option FrameworkId
  | .hear event => event.confirmed?.or before
  | _ => before

end Deed

/-- The calls of deeds, each in the name of the framework that was confirmed last. -/
def callsOf (framework : Option FrameworkId) : List Deed → List Signed
  | [] => []
  | deed :: rest =>
    (deed.gist?.map (Signed.mk framework)).toList ++ callsOf (deed.framework framework) rest

/-- How a deed ends where its call, if it makes one, has a certain fate. -/
def Deed.outcome (fate : Option LinkFailure) (deed : Deed) : Except Failure Unit :=
  match deed, deed.gist?, fate with
  | .breach cause, _, _ => .error (.breach cause)
  | _, some _, some failure => .error (.link failure)
  | _, _, _ => .ok ()

/-- The fates of the calls after a deed. -/
def Deed.later (fate : Nat → Option LinkFailure) (deed : Deed) : Nat → Option LinkFailure :=
  if deed.gist?.isSome then fun index => fate (index + 1) else fate

/-- The deeds up to the first that fails, and how they end. Every call has a fate, by its number. -/
def upToFailure (fate : Nat → Option LinkFailure) : List Deed → List Deed × Except Failure Unit
  | [] => ([], .ok ())
  | deed :: rest =>
    match deed.outcome (fate 0) with
    | .ok () =>
      let (done, result) := upToFailure (deed.later fate) rest
      (deed :: done, result)
    | .error failure => ([deed], .error failure)

/-- Why the call with a number, counted from now, fails. -/
def Link.fate (link : Link) (index : Nat) : Option LinkFailure :=
  (link.failures[index]?).join.or (if link.gone then some .closed else none)

namespace Schedule

/-- The schedule after a deed. -/
def after (schedule : Schedule) : Deed → Schedule
  | .offer framework offer => (schedule.matchOffer offer framework).1
  | .report status => schedule.update status
  | .pass milliseconds => schedule.advance milliseconds
  | .settle => schedule.settle
  | .stop => schedule.stop
  | _ => schedule

def follow (schedule : Schedule) (deeds : List Deed) : Schedule :=
  deeds.foldl after schedule

end Schedule

theorem Event.deaf_deeds (framework : Option FrameworkId) (event : Event) :
    ∀ deed ∈ event.deeds framework, ∀ heard, deed ≠ .hear heard := by
  cases event with
  | offers given => cases framework <;> simp [Event.deeds]
  | _ => simp [Event.deeds]

namespace Router

/-- The calls so far. -/
def signed (router : Router) : List Signed :=
  router.notices.filterMap fun
    | .call call => some call.signed
    | .event _ => none

def meet (router : Router) : Happening → Router × Except Failure Unit
  | .event event => router.handle event
  | .pass milliseconds =>
    ({ router with schedule := router.schedule.advance milliseconds }, .ok ())
  | .settle => ({ router with schedule := router.schedule.settle }, .ok ())
  | .stop => ({ router with schedule := router.schedule.stop }, .ok ())

/-- Meets what happens, up to the first event that fails. -/
def meetAll (router : Router) : List Happening → Router × Except Failure Unit
  | [] => (router, .ok ())
  | happening :: rest =>
    match router.meet happening with
    | (router, .ok ()) => meetAll router rest
    | failed => failed

/-- Does a deed by itself. -/
def perform (router : Router) : Deed → Router × Except Failure Unit
  | .hear event =>
    ({ router.notice (.event event) with framework := event.confirmed?.or router.framework }, .ok ())
  | .offer framework offer => router.answer framework [offer]
  | .report status => router.report status
  | .breach cause => (router, .error (.breach cause))
  | .pass milliseconds =>
    ({ router with schedule := router.schedule.advance milliseconds }, .ok ())
  | .settle => ({ router with schedule := router.schedule.settle }, .ok ())
  | .stop => ({ router with schedule := router.schedule.stop }, .ok ())

def performAll (router : Router) : List Deed → Router × Except Failure Unit
  | [] => (router, .ok ())
  | deed :: rest =>
    match router.perform deed with
    | (router, .ok ()) => performAll router rest
    | failed => failed

variable {router : Router}

theorem performAll_singleton (deed : Deed) : router.performAll [deed] = router.perform deed := by
  simp only [performAll]
  cases router.perform deed with
  | mk next result => cases result <;> rfl

theorem performAll_append (first second : List Deed) :
    router.performAll (first ++ second) =
      match router.performAll first with
      | (router, .ok ()) => router.performAll second
      | failed => failed := by
  induction first generalizing router with
  | nil => rfl
  | cons deed rest ih =>
    simp only [List.cons_append, performAll]
    cases done : router.perform deed with
    | mk next result =>
      cases result with
      | ok done => exact ih
      | error failure => rfl

theorem answer_eq_performAll (framework : FrameworkId) (offers : List Offer) :
    router.answer framework offers = router.performAll (offers.map (.offer framework)) := by
  induction offers generalizing router with
  | nil => rfl
  | cons offer rest ih =>
    simp only [List.map_cons, performAll, perform, answer]
    cases matched : router.schedule.matchOffer offer framework with
    | mk schedule found =>
      cases found with
      | error failure => rfl
      | ok found =>
        dsimp only
        split
        · exact ih
        · rfl

theorem framework_answer (framework : FrameworkId) (offers : List Offer) :
    (router.answer framework offers).1.framework = router.framework := by
  induction offers generalizing router with
  | nil => rfl
  | cons offer rest ih =>
    simp only [answer]
    cases matched : router.schedule.matchOffer offer framework with
    | mk schedule found =>
      cases found with
      | error failure => rfl
      | ok found =>
        dsimp only
        split
        · rename_i next called
          rw [ih]
          exact (congrArg (fun answer => answer.1.framework) called).symm
        · rename_i next failure called
          exact (congrArg (fun answer => answer.1.framework) called).symm

theorem framework_report (status : Status) :
    (router.report status).1.framework = router.framework := by
  simp only [report, acknowledge]
  split <;> rfl

theorem handle_eq_performAll (event : Event) :
    router.handle event =
      router.performAll
        (.hear event :: event.deeds (event.confirmed?.or router.framework)) := by
  cases event with
  | offers given =>
    cases known : router.framework with
    | none => simp [handle, notice, known, performAll, perform, Event.deeds, Event.confirmed?,
        Event.kind]
    | some framework =>
      simp [handle, notice, known, performAll, perform, Event.deeds, Event.confirmed?,
        answer_eq_performAll]
  | update status =>
    change _ = (router.perform (.hear (.update status))).1.performAll [.report status]
    rw [performAll_singleton]
    rfl
  | unknown => rfl
  | _ => rfl

theorem framework_performAll (deeds : List Deed)
    (deaf : ∀ deed ∈ deeds, ∀ event, deed ≠ .hear event) :
    (router.performAll deeds).1.framework = router.framework := by
  induction deeds generalizing router with
  | nil => rfl
  | cons deed rest ih =>
    have first : (router.perform deed).1.framework = router.framework := by
      cases deed with
      | hear event => exact absurd rfl (deaf _ List.mem_cons_self event)
      | offer framework offer => exact framework_answer framework [offer]
      | report status => exact framework_report status
      | _ => rfl
    simp only [performAll]
    cases done : router.perform deed with
    | mk next result =>
      rw [done] at first
      cases result with
      | ok done =>
        exact (ih fun later member => deaf later (List.mem_cons_of_mem deed member)).trans first
      | error failure => exact first

theorem meetAll_eq_performAll (happenings : List Happening) :
    router.meetAll happenings = router.performAll (deedsOf router.framework happenings) := by
  induction happenings generalizing router with
  | nil => rfl
  | cons happening rest ih =>
    cases happening with
    | event event =>
      simp only [meetAll, meet, deedsOf]
      rw [handle_eq_performAll, performAll_append]
      have named : (router.performAll
          (.hear event :: event.deeds (event.confirmed?.or router.framework))).1.framework =
            event.confirmed?.or router.framework :=
        framework_performAll _ (Event.deaf_deeds _ event)
      cases done : router.performAll
          (.hear event :: event.deeds (event.confirmed?.or router.framework)) with
      | mk next result =>
        rw [done] at named
        cases result with
        | ok done => exact ih.trans (by rw [named])
        | error failure => rfl
    | _ => exact ih

theorem fate_call (link : Link) (call : Call) :
    (link.call call).2 =
        (match link.fate 0 with | none => .ok () | some failure => .error failure) ∧
      (link.call call).1.fate = fun index => link.fate (index + 1) := by
  constructor
  · cases known : link.failures with
    | nil => cases gone : link.gone <;> simp [Link.call, Link.carry, Link.fate, known, gone]
    | cons failure rest =>
      cases failure <;> cases gone : link.gone <;>
        simp [Link.call, Link.carry, Link.fate, known, gone]
  · funext index
    cases known : link.failures with
    | nil => cases gone : link.gone <;> simp [Link.call, Link.carry, Link.fate, known, gone]
    | cons failure rest =>
      cases failure <;> cases gone : link.gone <;>
        simp [Link.call, Link.carry, Link.fate, known, gone]

/-- What a deed does that is not stuck. -/
structure Does (router : Router) (deed : Deed) (answer : Router × Except Failure Unit) : Prop where
  schedule : answer.1.schedule = router.schedule.after deed
  framework : answer.1.framework = deed.framework router.framework
  signed : answer.1.signed =
    router.signed ++ (deed.gist?.map (Signed.mk router.framework)).toList
  fate : answer.1.link.fate = deed.later router.link.fate
  result : answer.2 = deed.outcome (router.link.fate 0)

/-- What a call leaves of a router. -/
structure Calls (router : Router) (gist : Gist) (answer : Router × Except LinkFailure Unit) :
    Prop where
  schedule : answer.1.schedule = router.schedule
  framework : answer.1.framework = router.framework
  signed : answer.1.signed = router.signed ++ [⟨router.framework, gist⟩]
  fate : answer.1.link.fate = fun index => router.link.fate (index + 1)
  result : answer.2 =
    match router.link.fate 0 with | none => .ok () | some failure => .error failure

theorem calls_call {call : Call} (unsigned : call.framework = none) :
    Calls router call.signed.gist (router.call call) where
  schedule := rfl
  framework := rfl
  signed := by
    cases known : router.framework <;>
      simp [Router.call, notice, Router.signed, sign, known, Call.signed, Call.withFramework,
        unsigned]
  fate := (fate_call router.link (router.sign call)).2
  result := (fate_call router.link (router.sign call)).1

theorem perform_offer {framework : FrameworkId} {offer : Offer} {found : Match}
    (accepted : (router.schedule.matchOffer offer framework).2 = .ok found) :
    router.perform (.offer framework offer) =
      let answer := { router with
          schedule := (router.schedule.matchOffer offer framework).1 }.call
        (Call.accept [offer.id] found.operations router.filters)
      (answer.1, answer.2.mapError .link) := by
  simp only [perform, answer]
  cases matched : router.schedule.matchOffer offer framework with
  | mk schedule result =>
    rw [matched] at accepted
    subst accepted
    dsimp only
    cases called : { router with schedule := schedule }.call
        (Call.accept [offer.id] found.operations router.filters) with
    | mk next result => cases result <;> rfl

theorem gist?_report (status : Status) :
    (Deed.report status).gist? = (Call.acknowledge? status).map (·.signed.gist) := by
  simp only [Deed.gist?, Call.acknowledge?]
  cases status.uuid with
  | none => rfl
  | some uuid => cases status.agent <;> rfl

theorem unsigned_acknowledge {status : Status} {call : Call}
    (asks : Call.acknowledge? status = some call) : call.framework = none := by
  simp only [Call.acknowledge?] at asks
  split at asks
  · cases asks
    rfl
  · cases asks

theorem does_perform (deed : Deed) (found : ∀ framework offer, deed = .offer framework offer →
    ∃ found, (router.schedule.matchOffer offer framework).2 = .ok found) :
    Does router deed (router.perform deed) := by
  cases deed with
  | hear event =>
    refine ⟨rfl, rfl, ?_, rfl, rfl⟩
    simp [perform, notice, signed, Deed.gist?]
  | offer framework offer =>
    obtain ⟨found, accepted⟩ := found framework offer rfl
    have unsigned : (Call.accept [offer.id] found.operations router.filters).framework = none := rfl
    let matched : Router :=
      { router with schedule := (router.schedule.matchOffer offer framework).1 }
    have calls : Calls matched _ _ := calls_call unsigned
    rw [perform_offer accepted]
    refine ⟨calls.schedule, calls.framework, calls.signed, calls.fate, ?_⟩
    dsimp only
    rw [calls.result]
    change Except.mapError _ (match router.link.fate 0 with | none => _ | some failure => _) = _
    cases fate : router.link.fate 0 <;> rfl
  | report status =>
    have said := gist?_report status
    simp only [perform, report, acknowledge]
    cases asks : Call.acknowledge? status with
    | none =>
      rw [asks, Option.map_none] at said
      refine ⟨rfl, rfl, ?_, ?_, ?_⟩
      · rw [said]
        exact (List.append_nil _).symm
      · rw [Deed.later, said]
        rfl
      · have ends : (Deed.report status).outcome (router.link.fate 0) = .ok () := by
          simp [Deed.outcome, said]
        exact ends.symm
    | some call =>
      rw [asks, Option.map_some] at said
      have calls : Calls router _ _ := calls_call (unsigned_acknowledge asks)
      refine ⟨congrArg (·.update status) calls.schedule, calls.framework, ?_, ?_, ?_⟩
      · rw [said]
        exact calls.signed
      · rw [Deed.later, said]
        exact calls.fate
      · dsimp only
        rw [calls.result]
        cases fate : router.link.fate 0 <;> simp [Deed.outcome, said, Except.mapError]
  | breach cause => exact ⟨rfl, rfl, by simp [perform, Deed.gist?], rfl, rfl⟩
  | _ => exact ⟨rfl, rfl, by simp [perform, Deed.gist?, signed], rfl, rfl⟩

/-- What comes of deeds: all are done up to the first that fails, or the last of those done is an
offer that cannot be matched. -/
structure Comes (router : Router) (deeds performed : List Deed)
    (answer : Router × Except Failure Unit) : Prop where
  schedule : answer.1.schedule = router.schedule.follow performed
  ends :
    ((performed, answer.2) = upToFailure router.link.fate deeds ∧
      answer.1.signed = router.signed ++ callsOf router.framework performed) ∨
    ∃ before framework offer rest failure, performed = before ++ [.offer framework offer] ∧
      (upToFailure router.link.fate deeds).1 = performed ++ rest ∧
      answer.1.signed = router.signed ++ callsOf router.framework before ∧
      answer.2 = .error failure ∧
      ((router.schedule.follow before).matchOffer offer framework).2 = .error failure

theorem perform_stuck {framework : FrameworkId} {offer : Offer} {failure : Failure}
    (failed : (router.schedule.matchOffer offer framework).2 = .error failure) :
    router.perform (.offer framework offer) =
      ({ router with schedule := (router.schedule.matchOffer offer framework).1 },
        .error failure) := by
  simp only [perform, answer]
  cases matched : router.schedule.matchOffer offer framework with
  | mk schedule result =>
    rw [matched] at failed
    subst failed
    rfl

theorem comes_performAll (deeds : List Deed) :
    ∃ performed, Comes router deeds performed (router.performAll deeds) := by
  induction deeds generalizing router with
  | nil => exact ⟨[], rfl, .inl ⟨rfl, (List.append_nil _).symm⟩⟩
  | cons deed rest ih =>
    by_cases found : ∀ framework offer, deed = .offer framework offer →
        ∃ found, (router.schedule.matchOffer offer framework).2 = .ok found
    · have does := does_perform deed found
      simp only [performAll]
      cases done : router.perform deed with
      | mk next result =>
        rw [done] at does
        cases result with
        | error failure =>
          have ends : deed.outcome (router.link.fate 0) = .error failure := does.result.symm
          refine ⟨[deed], does.schedule, .inl ⟨?_, ?_⟩⟩
          · simp only [upToFailure, ends]
          · rw [does.signed, callsOf, callsOf, List.append_nil]
        | ok passed =>
          have ends : deed.outcome (router.link.fate 0) = .ok () := does.result.symm
          obtain ⟨performed, schedule, comes⟩ : ∃ performed,
            Comes next rest performed (next.performAll rest) := ih
          have follows : (next.performAll rest).1.schedule =
              router.schedule.follow (deed :: performed) := by
            rw [schedule, does.schedule]
            rfl
          have calls (before : List Deed) : next.signed ++ callsOf next.framework before =
              router.signed ++ callsOf router.framework (deed :: before) := by
            rw [does.signed, does.framework, callsOf, List.append_assoc]
          rw [does.fate, calls] at comes
          refine ⟨deed :: performed, follows, ?_⟩
          rcases comes with ⟨whole, signed⟩ |
            ⟨before, framework, offer, last, failure, same, within, signed, result, stuck⟩
          · refine .inl ⟨?_, signed⟩
            simp only [upToFailure, ends, ← whole]
          · refine .inr ⟨deed :: before, framework, offer, last, failure, by rw [same]; rfl, ?_,
              signed.trans (calls before), result, ?_⟩
            · simp only [upToFailure, ends, within]
              rfl
            · rw [does.schedule] at stuck
              exact stuck
    · push Not at found
      obtain ⟨framework, offer, rfl, stuck⟩ := found
      cases failed : (router.schedule.matchOffer offer framework).2 with
      | ok found => exact absurd failed (stuck found)
      | error failure =>
        simp only [performAll, perform_stuck failed]
        refine ⟨[.offer framework offer], rfl, .inr ⟨[], framework, offer, ?_⟩⟩
        cases ends : (Deed.offer framework offer).outcome (router.link.fate 0) with
        | ok passed =>
          exact ⟨_, failure, rfl, by simp only [upToFailure, ends]; rfl,
            (List.append_nil _).symm, rfl, failed⟩
        | error cause =>
          exact ⟨[], failure, rfl, by simp only [upToFailure, ends]; rfl,
            (List.append_nil _).symm, rfl, failed⟩

end Router
end Convoy
