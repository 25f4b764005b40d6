import Convoy.Proofs.Session.Deeds
import Convoy.Proofs.Session.Turns

/-!
# In whose name calls are made

Every call is made in the name of the framework that the master confirmed last, a subscription names
it twice, and before it is confirmed there are no calls but subscriptions. The framework is torn down
by the last call of a run, if it is to be and was ever confirmed, and not before. All of this is seen
in the notices of a router, where events and calls stand in the order in which they came.
-/
namespace Convoy

/-- The framework that a notice confirms. -/
def Notice.confirmed? : Notice → Option FrameworkId
  | .event heard => heard.confirmed?
  | .call _ => none

/-- The framework that was confirmed last. -/
def lastConfirmed (notices : List Notice) : Option FrameworkId :=
  (notices.filterMap Notice.confirmed?).getLast?

/-- The call is made in the name of a framework. A subscription describes this framework too, and all
other calls need one. -/
def Call.NamedFor (framework : Option FrameworkId) (call : Call) : Prop :=
  call.framework = framework ∧
    match call.body with
    | .subscribe described => described.id = framework
    | _ => framework.isSome = true

/-- Every call of a trace is made in the name of the framework that was confirmed last before it. -/
def Named (notices : List Notice) : Prop :=
  ∀ before call after, notices = before ++ .call call :: after →
    call.NamedFor (lastConfirmed before)

def Notice.isTeardown : Notice → Bool
  | .call { body := .teardown, .. } => true
  | _ => false

/-- Nothing was torn down. -/
def Standing (notices : List Notice) : Prop :=
  ∀ notice ∈ notices, notice.isTeardown = false

/-- The framework was torn down by the last call if it was to be and was ever confirmed, and not
otherwise. -/
def Settled (teardown : Bool) (notices : List Notice) : Prop :=
  if teardown && (lastConfirmed notices).isSome then
    ∃ before last, notices = before ++ [last] ∧ Standing before ∧ last.isTeardown = true
  else Standing notices

section
variable {notices : List Notice} {notice : Notice}

/-- What stands in a longer list is the last entry, or stood in the shorter one. -/
theorem last_or_earlier {α : Type} {all before after : List α} {last entry : α}
    (split : all ++ [last] = before ++ entry :: after) :
    (all = before ∧ last = entry ∧ after = []) ∨ ∃ rest, all = before ++ entry :: rest := by
  rcases List.eq_nil_or_concat after with rfl | ⟨rest, final, rfl⟩
  · obtain ⟨earlier, here⟩ := List.append_inj' split rfl
    exact .inl ⟨earlier, (List.cons.inj here).1, rfl⟩
  · rw [List.concat_eq_append, ← List.cons_append, ← List.append_assoc] at split
    exact .inr ⟨rest, (List.append_inj' split rfl).1⟩

theorem lastConfirmed_append (notices : List Notice) (notice : Notice) :
    lastConfirmed (notices ++ [notice]) = notice.confirmed?.or (lastConfirmed notices) := by
  unfold lastConfirmed
  rw [List.filterMap_append]
  cases confirmed : notice.confirmed? <;> simp [confirmed]

theorem Named.append (named : Named notices)
    (right : ∀ call, notice = .call call → call.NamedFor (lastConfirmed notices)) :
    Named (notices ++ [notice]) := by
  intro before call after split
  rcases last_or_earlier split with ⟨rfl, here, -⟩ | ⟨rest, earlier⟩
  · exact right call here
  · exact named before call rest earlier

theorem Standing.append (standing : Standing notices) (quiet : notice.isTeardown = false) :
    Standing (notices ++ [notice]) := by
  intro other member
  rcases List.mem_append.mp member with before | last
  · exact standing other before
  · rwa [List.mem_singleton.mp last]

end

namespace Router

variable {router : Router}

/-- Calls are made in the name of the framework that was confirmed last, and so were those before. -/
structure InName (router : Router) : Prop where
  framework : router.framework = lastConfirmed router.notices
  named : Named router.notices

/-- Events and calls since the framework was last seen in place. -/
theorem InName.hear (inName : router.InName) (event : Event) :
    { router.notice (.event event) with
      framework := event.confirmed?.or router.framework }.InName where
  framework := by
    show _ = lastConfirmed (router.notices ++ [.event event])
    rw [lastConfirmed_append, inName.framework]
    rfl
  named := inName.named.append nofun

theorem InName.hear_other (inName : router.InName) {event : Event}
    (other : event.confirmed? = none) : (router.notice (.event event)).InName := by
  have heard := inName.hear event
  rwa [other] at heard

/-- Calls other than subscriptions, of a framework that was confirmed. -/
theorem InName.call (inName : router.InName) {call : Call}
    (confirmed : router.framework.isSome = true)
    (other : ∀ described, call.body ≠ .subscribe described) : (router.call call).1.InName := by
  obtain ⟨framework, known⟩ := Option.isSome_iff_exists.mp confirmed
  constructor
  case framework =>
    show _ = lastConfirmed (router.notices ++ [.call (router.sign call)])
    rw [lastConfirmed_append]
    exact inName.framework
  case named =>
    refine inName.named.append ?_
    rintro signed ⟨⟩
    rw [← inName.framework]
    refine ⟨by simp [sign, known, Call.withFramework], ?_⟩
    have body : (router.sign call).body = call.body := by simp [sign, known, Call.withFramework]
    rw [body]
    split
    · exact absurd ‹_› (other _)
    · exact confirmed

theorem InName.subscribe (inName : router.InName) (identity : Framework) :
    (router.subscribe identity).1.InName := by
  constructor
  case framework =>
    show _ = lastConfirmed (router.notices ++ [.call _])
    rw [lastConfirmed_append]
    exact inName.framework
  case named =>
    refine inName.named.append ?_
    rintro signed ⟨⟩
    rw [← inName.framework]
    cases known : router.framework with
    | none => exact ⟨by simp [sign, known, Call.subscribe], by simp [sign, known, Call.subscribe]⟩
    | some framework =>
        exact ⟨by simp [sign, known, Call.withFramework],
          by simp [sign, known, Call.withFramework, Call.subscribe]⟩

theorem isTeardown_sign (router : Router) (call : Call) :
    (Notice.call (router.sign call)).isTeardown = (Notice.call call).isTeardown := by
  obtain ⟨framework, body⟩ := call
  unfold sign
  split <;> cases body <;> rfl

theorem standing_call {call : Call} (standing : Standing router.notices)
    (other : (Notice.call call).isTeardown = false) :
    Standing (router.call call).1.notices :=
  standing.append ((router.isTeardown_sign call).trans other)

/-- What an acknowledgement leaves of a router whose framework was confirmed. -/
theorem InName.acknowledge (inName : router.InName) (confirmed : router.framework.isSome = true)
    (standing : Standing router.notices) (status : Status) :
    (router.acknowledge status).1.InName ∧
      (router.acknowledge status).1.framework.isSome = true ∧
      Standing (router.acknowledge status).1.notices := by
  unfold Router.acknowledge Call.acknowledge?
  cases status.uuid with
  | none => exact ⟨inName, confirmed, standing⟩
  | some uuid =>
      cases status.agent with
      | none => exact ⟨inName, confirmed, standing⟩
      | some agent => exact ⟨inName.call confirmed nofun, confirmed, standing_call standing rfl⟩

end Router

/-- What a state of the event loop says of the trace so far. Offers and reports are handled only
after a framework was confirmed, and nothing is torn down before the loop closes. -/
def Server.Allows (server : Server) (router : Router) (teardown : Bool) : Prop :=
  match server with
  | .looking | .subscribing | .listening false | .pausing _ | .closing _ => Standing router.notices
  | .listening true | .answering _ _ | .acknowledging _ | .acknowledged _ _ | .handing _ =>
    router.framework.isSome = true ∧ Standing router.notices
  | .accepting _ accept _ =>
    router.framework.isSome = true ∧ Standing router.notices ∧
      ∃ offers operations filters, accept = Call.accept offers operations filters
  | .ending _ | .left _ => Settled teardown router.notices
  | .died _ => Standing router.notices ∨ Settled teardown router.notices

namespace Loops

variable {loops after : Loops} {teardown : Bool}

/-- Calls are made in the right name, and the event loop stands where it may. -/
structure Naming (teardown : Bool) (loops : Loops) : Prop where
  inName : loops.router.InName
  allows : loops.server.Allows loops.router teardown
  fixed : loops.teardown = teardown

/-- Nothing is called. -/
theorem Naming.of_same (naming : loops.Naming teardown)
    (framework : after.router.framework = loops.router.framework)
    (notices : after.router.notices = loops.router.notices) (server : after.server = loops.server)
    (fixed : after.teardown = loops.teardown) : after.Naming teardown where
  inName := ⟨by rw [framework, notices]; exact naming.inName.framework,
    by rw [notices]; exact naming.inName.named⟩
  allows := by
    have allows := naming.allows
    rw [server]
    unfold Server.Allows at *
    rw [framework, notices]
    exact allows
  fixed := fixed.trans naming.fixed

/-- Calls are made in the right name, and nothing is torn down. -/
structure AtWork (teardown : Bool) (loops : Loops) : Prop where
  inName : loops.router.InName
  standing : Standing loops.router.notices
  fixed : loops.teardown = teardown

theorem naming_lose (atWork : loops.AtWork teardown) : loops.lose.Naming teardown := by
  unfold lose
  dsimp only
  split
  · exact ⟨atWork.inName, atWork.standing, atWork.fixed⟩
  · exact ⟨⟨atWork.inName.framework, atWork.inName.named⟩, atWork.standing, atWork.fixed⟩

theorem naming_follow (fixed : loops.teardown = teardown)
    {answer : Router × Except LinkFailure Unit}
    {next : Server} (inName : answer.1.InName) (standing : Standing answer.1.notices)
    (allows : next.Allows answer.1 teardown) : (loops.follow answer next).Naming teardown := by
  obtain ⟨router, result⟩ := answer
  cases result with
  | ok done => exact ⟨inName, allows, fixed⟩
  | error failure => exact ⟨inName, standing, fixed⟩

theorem naming_hear (atWork : loops.AtWork teardown) {confirmed : Bool}
    (known : confirmed = true → loops.router.framework.isSome = true) (event : Event) :
    (loops.hear confirmed event).Naming teardown := by
  obtain ⟨inName, standing, fixed⟩ := atWork
  have noticed : Standing (loops.router.notice (.event event)).notices := standing.append rfl
  unfold hear
  split
  · rename_i heard
    cases event with
    | subscribed framework interval master =>
        exact ⟨inName.hear (.subscribed framework interval master), ⟨rfl, noticed⟩, fixed⟩
    | offers given =>
        have confirmed : confirmed = true := by simpa [Run.confirms] using heard
        obtain ⟨framework, named⟩ := Option.isSome_iff_exists.mp (known confirmed)
        simp only [named]
        exact ⟨inName.hear_other rfl, ⟨known confirmed, noticed⟩, fixed⟩
    | update status =>
        have confirmed : confirmed = true := by simpa [Run.confirms] using heard
        exact ⟨inName.hear_other rfl, ⟨known confirmed, noticed⟩, fixed⟩
    | unknown => exact ⟨inName.hear_other rfl, noticed, fixed⟩
    | _ =>
        have confirmed : confirmed = true := by simpa [Run.confirms] using heard
        exact ⟨inName.hear_other rfl, ⟨known confirmed, noticed⟩, fixed⟩
  · exact ⟨inName, standing, fixed⟩

theorem naming_listen (atWork : loops.AtWork teardown) {confirmed : Bool}
    (known : confirmed = true → loops.router.framework.isSome = true)
    (moved : loops.listen confirmed = some after) : after.Naming teardown := by
  have received (inbox : List Delivery) : { loops with
      router := { loops.router with link := { loops.router.link with inbox := inbox } } }.AtWork
        teardown :=
    ⟨⟨atWork.inName.framework, atWork.inName.named⟩, atWork.standing, atWork.fixed⟩
  unfold listen at moved
  cases inbox : loops.router.link.inbox with
  | nil =>
      simp only [inbox] at moved
      split at moved
      · cases moved
        exact naming_lose atWork
      · contradiction
  | cons delivery rest =>
      simp only [inbox] at moved
      cases delivery with
      | event event =>
          cases moved
          exact naming_hear (received rest) known event
      | disconnect reason =>
          cases moved
          exact naming_lose (received rest)

theorem naming_answer (atWork : loops.AtWork teardown)
    (known : loops.router.framework.isSome = true) (framework : FrameworkId)
    (offers : List Offer) : (loops.answer framework offers).Naming teardown := by
  obtain ⟨inName, standing, fixed⟩ := atWork
  cases offers with
  | nil => exact ⟨inName, ⟨known, standing⟩, fixed⟩
  | cons offer rest =>
      simp only [answer]
      split
      · exact ⟨⟨inName.framework, inName.named⟩, standing, fixed⟩
      · exact ⟨⟨inName.framework, inName.named⟩, ⟨known, standing, _, _, _, rfl⟩, fixed⟩

/-- The loop closes: the last call tears the framework down, or there is no more call. -/
theorem naming_close (atWork : loops.AtWork teardown) (result : Except Failure Unit) :
    { loops with
      router :=
        if loops.teardown && loops.router.framework.isSome then (loops.router.call .teardown).1
        else loops.router
      server := .ending result }.Naming teardown := by
  obtain ⟨inName, standing, rfl⟩ := atWork
  by_cases torn : (loops.teardown && loops.router.framework.isSome) = true
  · have known := (Bool.and_eq_true_iff.mp torn).2
    simp only [torn, if_true]
    have called : (loops.router.call .teardown).1.InName :=
      inName.call known (by simp [Call.teardown])
    refine ⟨called, ?_, rfl⟩
    show Settled _ _
    have last : (Notice.call (loops.router.sign .teardown)).isTeardown = true :=
      loops.router.isTeardown_sign .teardown
    have still : (loops.teardown && (loops.router.call .teardown).1.framework.isSome) = true := torn
    rw [Settled, ← called.framework, if_pos still]
    exact ⟨_, _, rfl, standing, last⟩
  · simp only [torn, Bool.false_eq_true, if_false]
    refine ⟨inName, ?_, rfl⟩
    show Settled _ _
    rw [Settled, ← inName.framework, if_neg torn]
    exact standing

theorem naming_serve (naming : loops.Naming teardown) (moved : loops.serve = some after) :
    after.Naming teardown := by
  obtain ⟨inName, allows, fixed⟩ := naming
  unfold serve at moved
  cases stands : loops.server with
  | looking =>
      simp only [stands, Server.Allows] at moved allows
      cases moved
      refine ⟨inName, ?_, fixed⟩
      dsimp only
      split <;> exact allows
  | subscribing =>
      simp only [stands, Server.Allows] at moved allows
      have called := inName.subscribe loops.identity
      have quiet : Standing (loops.router.subscribe loops.identity).1.notices :=
        allows.append (loops.router.isTeardown_sign _)
      split at moved <;> rename_i answer <;> rw [answer] at called quiet <;> cases moved
      · exact ⟨called, quiet, fixed⟩
      · exact naming_lose ⟨called, quiet, fixed⟩
  | listening confirmed =>
      rw [stands] at allows
      simp only [stands] at moved
      cases confirmed with
      | false =>
          have unknown : false = true → loops.router.framework.isSome = true := nofun
          exact naming_listen ⟨inName, allows, fixed⟩ unknown moved
      | true => exact naming_listen ⟨inName, allows.2, fixed⟩ (fun _ => allows.1) moved
  | answering framework offers =>
      simp only [stands, Server.Allows] at moved allows
      cases moved
      exact naming_answer ⟨inName, allows.2, fixed⟩ allows.1 framework offers
  | accepting framework accept offers =>
      simp only [stands, Server.Allows] at moved allows
      cases moved
      obtain ⟨known, standing, ids, operations, filters, rfl⟩ := allows
      have called : (loops.router.call (.accept ids operations filters)).1.InName :=
        inName.call known nofun
      have quiet : Standing (loops.router.call (.accept ids operations filters)).1.notices :=
        Router.standing_call standing rfl
      exact naming_follow fixed called quiet ⟨known, quiet⟩
  | acknowledging status =>
      simp only [stands, Server.Allows] at moved allows
      cases moved
      obtain ⟨called, known, quiet⟩ := inName.acknowledge allows.1 allows.2 status
      exact ⟨called, ⟨known, quiet⟩, fixed⟩
  | acknowledged status result =>
      simp only [stands, Server.Allows] at moved allows
      cases moved
      exact ⟨inName, allows, fixed⟩
  | handing acknowledged =>
      simp only [stands, Server.Allows] at moved allows
      split at moved
      · cases moved
        refine naming_follow ?_ ?_ ?_ ?_
        · exact fixed
        · exact inName
        · exact allows.2
        · exact allows
      · contradiction
  | pausing due =>
      simp only [stands, Server.Allows] at moved allows
      split at moved
      · cases moved
        exact ⟨inName, allows, fixed⟩
      · contradiction
  | closing result =>
      simp only [stands, Server.Allows] at moved allows
      cases moved
      exact naming_close ⟨inName, allows, fixed⟩ result
  | ending result =>
      simp only [stands, Server.Allows] at moved allows
      cases moved
      exact ⟨⟨inName.framework, inName.named⟩, allows, fixed⟩
  | left result => simp [stands] at moved
  | died message => simp [stands] at moved

end Loops

theorem Server.Allows.standing {server : Server} {router : Router} {teardown : Bool}
    (allows : server.Allows router teardown) (isOpen : server.isOpen = true) :
    Standing router.notices := by
  cases server with
  | listening confirmed =>
      cases confirmed with
      | false => exact allows
      | true => exact allows.2
  | looking => exact allows
  | subscribing => exact allows
  | pausing due => exact allows
  | accepting framework accept offers => exact allows.2.1
  | answering framework offers => exact allows.2
  | acknowledging status => exact allows.2
  | acknowledged status result => exact allows.2
  | handing acknowledged => exact allows.2
  | _ => contradiction

theorem Server.Allows.standing_or_settled {server : Server} {router : Router} {teardown : Bool}
    (allows : server.Allows router teardown) :
    Standing router.notices ∨ Settled teardown router.notices := by
  cases server with
  | closing result => exact .inl allows
  | ending result => exact .inr allows
  | left result => exact .inr allows
  | died message => exact allows
  | _ => exact .inl (allows.standing rfl)

namespace Loops

variable {loops after : Loops} {teardown : Bool}

theorem Naming.turns (naming : loops.Naming teardown) (turns : Turns loops after) :
    after.Naming teardown := by
  cases turns with
  | works moved works => exact naming_serve naming moved
  | aside policy attempt fixed server framework notices stirs =>
      exact naming.of_same framework notices server fixed
  | closes closed cause =>
      refine ⟨naming.inName, ?_, naming.fixed⟩
      obtain ⟨isOpen, result, rfl⟩ | ⟨message, rfl⟩ := cause
      · exact naming.allows.standing isOpen
      · exact naming.allows.standing_or_settled

theorem naming_playTurns (naming : loops.Naming teardown) (turns : List Turn) :
    (loops.playTurns turns).Naming teardown := by
  induction turns generalizing loops with
  | nil => exact naming
  | cons turn rest ih => exact ih (naming.turns (loops.turns_turn turn))

/-- The loops at their start. -/
def opening (schedule : Schedule) (link : Link) (refusal : Refusal) (identity : Framework)
    (reconnect : Backoff) (teardown : Bool) : Loops where
  router := { schedule := schedule, link := link, refusal := refusal }
  identity := identity
  reconnect := reconnect
  teardown := teardown

/-- Every call so far is made in the right name. Nothing is torn down while the event loop is at
work; once it has left, the framework was torn down by the last call, if it was to be and was ever
confirmed. In no state is there a teardown otherwise, or a call after it. -/
structure Orderly (teardown : Bool) (server : Server) (notices : List Notice) : Prop where
  named : Named notices
  standing : server.isOpen = true → Standing notices
  settled : ∀ result, server = .left result → Settled teardown notices
  always : Standing notices ∨ Settled teardown notices

theorem Naming.orderly {loops : Loops} {teardown : Bool} (naming : loops.Naming teardown) :
    Orderly teardown loops.server loops.router.notices where
  named := naming.inName.named
  standing isOpen := naming.allows.standing isOpen
  settled result left := by
    have allows := naming.allows
    rwa [left] at allows
  always := naming.allows.standing_or_settled

theorem naming_opening (schedule : Schedule) (link : Link) (refusal : Refusal) (identity : Framework)
    (reconnect : Backoff) (teardown : Bool) :
    (opening schedule link refusal identity reconnect teardown).Naming teardown where
  inName := ⟨rfl, fun before call after none => by cases before <;> cases none⟩
  allows := fun _ member => by contradiction
  fixed := rfl

/-- However the loops move, whatever the master does and whenever the run is told to stop, calls are
made in the right name and the framework is torn down in the end. So it is for a run, which makes the
moves in one of the possible ways. -/
theorem orderly_playTurns (schedule : Schedule) (link : Link) (refusal : Refusal)
    (identity : Framework) (reconnect : Backoff) (teardown : Bool) :
    (∀ turns,
      let loops := (opening schedule link refusal identity reconnect teardown).playTurns turns
      Orderly teardown loops.server loops.router.notices) ∧
    ∀ profile groups mint draws incidents,
      let run := (Run.start profile groups mint draws).undergoAll incidents
      Orderly profile.teardown run.phase.server run.router.notices := by
  constructor
  · intro turns
    exact (naming_playTurns (naming_opening _ _ _ _ _ _) turns).orderly
  · intro profile groups mint draws incidents
    obtain ⟨turns, taken, met⟩ := playTurns_undergoAll profile groups mint draws incidents
    have first : (start profile groups mint draws).Naming profile.teardown :=
      naming_opening _ {} profile.refusal profile.framework profile.reconnectBackoff profile.teardown
    have last := naming_playTurns first turns
    rw [met] at last
    exact last.orderly

end Loops
end Convoy
