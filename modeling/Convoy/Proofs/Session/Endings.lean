import Convoy.Proofs.Session.Naming

/-!
# The steps of a run, and its last one

Every step of a run is one of a few. The last one makes one call at most, which tears the framework
down, and tells the watch to stop. After it the run is at rest: whatever happens, it makes no call and
hears no event.
-/
namespace Convoy

/-- No notices, or just one that tears the framework down. -/
def Parting (notices : List Notice) : Prop :=
  notices.length ≤ 1 ∧ ∀ notice ∈ notices, notice.isTeardown = true

/-- What a call leaves of a link as it was. -/
structure Link.Carries (before after : Link) : Prop where
  inbox : after.inbox = before.inbox
  refusals : after.refusals = before.refusals
  gone : after.gone = before.gone

namespace Link

theorem Carries.refl (link : Link) : Carries link link :=
  ⟨rfl, rfl, rfl⟩

theorem Carries.trans {link middle last : Link} (first : Carries link middle)
    (second : Carries middle last) : Carries link last :=
  ⟨second.inbox.trans first.inbox, second.refusals.trans first.refusals,
    second.gone.trans first.gone⟩

theorem carries_carry (link : Link) (call : Call) : Carries link (link.carry call).1 := by
  unfold carry
  split <;> exact ⟨rfl, rfl, rfl⟩

theorem carries_call (link : Link) (call : Call) : Carries link (link.call call).1 := by
  unfold Link.call
  split
  · exact ⟨rfl, rfl, rfl⟩
  · rename_i rest found
    have carried := carries_carry { link with failures := rest } call
    exact ⟨carried.inbox, carried.refusals, carried.gone⟩
  · exact link.carries_carry call

end Link

namespace Schedule

variable {schedule : Schedule}

/-- What the passing of time leaves alone. -/
structure Waits (before after : Schedule) : Prop where
  monitor : after.monitor = before.monitor
  stopping : after.stopping = before.stopping
  roster : after.roster = before.roster

theorem Waits.refl (schedule : Schedule) : Waits schedule schedule :=
  ⟨rfl, rfl, rfl⟩

theorem Waits.trans {middle last : Schedule} (first : Waits schedule middle)
    (second : Waits middle last) : Waits schedule last :=
  ⟨second.monitor.trans first.monitor, second.stopping.trans first.stopping,
    second.roster.trans first.roster⟩

theorem waits_arrive (schedule : Schedule) (group : TaskGroup) :
    Waits schedule (schedule.arrive group) := by
  unfold arrive
  split <;> exact ⟨rfl, rfl, rfl⟩

theorem waits_foldl_arrive (schedule : Schedule) (delayed : List Delayed) :
    Waits schedule
      (delayed.foldl (fun schedule delayed => schedule.arrive delayed.group) schedule) := by
  induction delayed generalizing schedule with
  | nil => exact .refl schedule
  | cons first rest ih => exact (schedule.waits_arrive first.group).trans (ih _)

/-- A watch at work that is told to stop does so, and nothing else changes. -/
theorem stop_of_watching (watching : schedule.monitor = .watching) :
    schedule.stop = { schedule with monitor := .stopped (.ok ()), stopping := true } := by
  simp [stop, check, watching, stopWith]

end Schedule

namespace Run

variable {run next : Run} {result : Except Failure Unit}

/-- The run after it took a delivery; an inbox is left. -/
def receive (run : Run) (inbox : List Delivery) : Run :=
  { run with router := { run.router with link := { run.router.link with inbox := inbox } } }

/-- The run that goes on after an event. -/
def goOn (run : Run) (confirmed : Bool) (router : Router) : Run :=
  { run with
    router := router
    attempt := if confirmed then run.attempt else 0
    phase := .listening true }

/-- What a step of a run can be. -/
inductive Steps (run : Run) : Run → Prop where
  | told (runs : ∀ result, run.phase ≠ .ended result)
      (stopping : run.router.schedule.stopping = true) :
      Steps run (run.finish (.ok ()))
  | subscribed {router : Router} (phase : run.phase = .subscribing)
      (quiet : run.router.schedule.stopping = false)
      (answer : run.router.subscribe run.identity = (router, .ok ())) :
      Steps run { run with router := router, phase := .listening false }
  | refused {router : Router} {cause : LinkFailure} (phase : run.phase = .subscribing)
      (quiet : run.router.schedule.stopping = false)
      (answer : run.router.subscribe run.identity = (router, .error cause)) :
      Steps run { run with router := router }.lose
  | heard {confirmed : Bool} {event : Event} {inbox : List Delivery} {router : Router}
      (phase : run.phase = .listening confirmed)
      (quiet : run.router.schedule.stopping = false)
      (found : run.router.link.inbox = .event event :: inbox)
      (allowed : (confirmed || confirms event) = true)
      (answer : (run.receive inbox).router.handle event = (router, .ok ())) :
      Steps run (run.goOn confirmed router)
  | failed {confirmed : Bool} {event : Event} {inbox : List Delivery} {router : Router}
      {failure : Failure} (phase : run.phase = .listening confirmed)
      (quiet : run.router.schedule.stopping = false)
      (found : run.router.link.inbox = .event event :: inbox)
      (allowed : (confirmed || confirms event) = true)
      (answer : (run.receive inbox).router.handle event = (router, .error failure)) :
      Steps run ((run.goOn confirmed router).finish (.error failure))
  | barred {event : Event} {inbox : List Delivery} (phase : run.phase = .listening false)
      (quiet : run.router.schedule.stopping = false)
      (found : run.router.link.inbox = .event event :: inbox) (stranger : confirms event = false) :
      Steps run
        ((run.receive inbox).finish (.error (.breach (.unexpected "SUBSCRIBED" event.kind))))
  | disconnected {confirmed : Bool} {reason : String} {inbox : List Delivery}
      (phase : run.phase = .listening confirmed)
      (quiet : run.router.schedule.stopping = false)
      (found : run.router.link.inbox = .disconnect reason :: inbox) :
      Steps run (run.receive inbox).lose
  | lost {confirmed : Bool} (phase : run.phase = .listening confirmed)
      (quiet : run.router.schedule.stopping = false) (empty : run.router.link.inbox = [])
      (gone : run.router.link.gone = true) :
      Steps run run.lose

theorem steps_of_listen {confirmed : Bool} (phase : run.phase = .listening confirmed)
    (quiet : run.router.schedule.stopping = false) (moved : run.listen confirmed = some next) :
    Steps run next := by
  unfold listen at moved
  cases found : run.router.link.inbox with
  | nil =>
      simp only [found] at moved
      split at moved
      · rename_i gone
        cases moved
        exact .lost phase quiet found gone
      · contradiction
  | cons delivery inbox =>
      simp only [found] at moved
      cases delivery with
      | disconnect reason =>
          cases moved
          exact .disconnected phase quiet found
      | event event =>
          cases moved
          change Steps run ((run.receive inbox).handle confirmed event)
          unfold handle
          split
          · rename_i allowed
            dsimp only
            cases answer : (run.receive inbox).router.handle event with
            | mk router result =>
                cases result with
                | ok done => exact .heard phase quiet found allowed answer
                | error failure => exact .failed phase quiet found allowed answer
          · rename_i stranger
            simp only [Bool.or_eq_true, not_or, Bool.not_eq_true] at stranger
            obtain ⟨rfl, stranger⟩ := stranger
            exact .barred phase quiet found stranger

theorem steps_of_step (moved : run.step = some next) : Steps run next := by
  unfold step at moved
  by_cases stopping : run.router.schedule.stopping = true
  · have ends : (∀ result, run.phase ≠ .ended result) ∧ next = run.finish (.ok ()) := by
      cases phase : run.phase <;> simp_all
    rw [ends.2]
    exact .told ends.1 stopping
  · have quiet : run.router.schedule.stopping = false := by simpa using stopping
    cases phase : run.phase with
    | ended result => simp [phase] at moved
    | pausing due serial => simp [phase, quiet] at moved
    | listening confirmed =>
        simp only [phase, quiet, Bool.false_eq_true, if_false] at moved
        exact steps_of_listen phase quiet moved
    | subscribing =>
        simp only [phase, quiet, Bool.false_eq_true, if_false, Option.some.injEq] at moved
        subst moved
        unfold subscribe
        cases answer : run.router.subscribe run.identity with
        | mk router result =>
            cases result with
            | ok done => exact .subscribed phase quiet answer
            | error cause => exact .refused phase quiet answer

/-- What ending the event loop changes. -/
structure Finishes (run : Run) (result : Except Failure Unit) (after : Run) : Prop where
  phase : after.phase = .ended result
  schedule : after.router.schedule = run.router.schedule.stop
  framework : after.router.framework = run.router.framework
  link : run.router.link.Carries after.router.link
  notices : ∃ last, after.router.notices = run.router.notices ++ last ∧ Parting last

theorem finishes_finish (run : Run) (result : Except Failure Unit) :
    Finishes run result (run.finish result) := by
  unfold finish
  dsimp only
  split
  · have torn : (Notice.call (run.router.sign .teardown)).isTeardown = true :=
      run.router.isTeardown_sign .teardown
    exact ⟨rfl, rfl, rfl, run.router.link.carries_call _, _, rfl, by simp [Parting, torn]⟩
  · exact ⟨rfl, rfl, rfl, .refl _, [], (List.append_nil _).symm, by simp [Parting]⟩

/-- What may become of a run before it goes to work again: at most, a pause is over. -/
structure Elapses (run next : Run) : Prop where
  phase : next.phase = run.phase ∨
    ∃ due serial, run.phase = .pausing due serial ∧ next.phase = .subscribing
  notices : next.router.notices = run.router.notices
  framework : next.router.framework = run.router.framework
  schedule : run.router.schedule.Waits next.router.schedule

theorem elapses_advance (run : Run) (milliseconds : Nat) :
    ∃ next, run.advance milliseconds = next.work ∧ Elapses run next ∧
      next.router.link = run.router.link ∧ ∀ due serial,
        run.phase = .pausing due serial → due ≤ run.router.schedule.now + milliseconds →
          next.phase = .subscribing := by
  let passed := run.router.schedule.pass milliseconds
  have dropped : run.router.schedule.Waits passed.dropDue := ⟨rfl, rfl, rfl⟩
  have returned (delayed : List Delayed) := dropped.trans (passed.dropDue.waits_foldl_arrive delayed)
  unfold advance
  dsimp only
  split
  · rename_i time serial phase
    split
    · -- The queues settle between what was due before the end of the pause and what is due after it.
      let isEarlier (delayed : Delayed) : Bool :=
        decide (delayed.due < time ∨ delayed.due = time ∧ delayed.serial < serial)
      let middle : Schedule := (passed.due.filter isEarlier).foldl
        (fun schedule delayed => schedule.arrive delayed.group) passed.dropDue
      have rest := middle.settle.waits_foldl_arrive (passed.due.filter (!isEarlier ·))
      have onward : middle.Waits _ := ⟨rest.monitor, rest.stopping, rest.roster⟩
      have all := (returned (passed.due.filter isEarlier)).trans onward
      exact ⟨_, rfl, ⟨.inr ⟨time, serial, phase, rfl⟩, rfl, rfl, all⟩, rfl, fun _ _ _ _ => rfl⟩
    · rename_i pending
      refine ⟨_, rfl, ⟨.inl rfl, rfl, rfl, returned _⟩, rfl, fun due other same reached => ?_⟩
      rw [phase] at same
      cases same
      exact absurd reached pending
  · rename_i other
    exact ⟨_, rfl, ⟨.inl rfl, rfl, rfl, returned _⟩, rfl,
      fun due serial pauses => absurd pauses (other due serial)⟩

/-- What does not change any more once the event loop has ended. -/
structure Rests (before after : Run) : Prop where
  phase : after.phase = before.phase
  notices : after.router.notices = before.router.notices
  framework : after.router.framework = before.router.framework
  schedule : before.router.schedule.Waits after.router.schedule

theorem Rests.trans {last : Run} (first : Rests run next) (second : Rests next last) :
    Rests run last where
  phase := second.phase.trans first.phase
  notices := second.notices.trans first.notices
  framework := second.framework.trans first.framework
  schedule := first.schedule.trans second.schedule

theorem rests_work (ended : run.phase = .ended result) : Rests run run.work := by
  have still (fuel : Nat) : run.workFor fuel = run := by
    cases fuel with
    | zero => rfl
    | succ fuel => simp [workFor, step, ended]
  unfold work
  rw [still]
  exact ⟨rfl, rfl, rfl, rfl, rfl, rfl⟩

theorem rests_undergo (ended : run.phase = .ended result) (incident : Incident) :
    Rests run (run.undergo incident) := by
  cases incident with
  | link change =>
      let changed : Run :=
        { run with router := { run.router with link := change run.router.link } }
      have same : Rests run changed := ⟨rfl, rfl, rfl, .refl _⟩
      exact same.trans (@rests_work changed _ ended)
  | advance milliseconds =>
      obtain ⟨middle, advanced, elapses, -⟩ := run.elapses_advance milliseconds
      show Rests run (run.advance milliseconds)
      rw [advanced]
      have phase : middle.phase = run.phase := by
        rcases elapses.phase with same | ⟨due, serial, pauses, -⟩
        · exact same
        · rw [ended] at pauses
          contradiction
      have same : Rests run middle := ⟨phase, elapses.notices, elapses.framework, elapses.schedule⟩
      exact same.trans (rests_work (phase.trans ended))

theorem rests_undergoAll (ended : run.phase = .ended result) (incidents : List Incident) :
    Rests run (run.undergoAll incidents) := by
  induction incidents generalizing run with
  | nil => exact ⟨rfl, rfl, rfl, .refl _⟩
  | cons incident rest ih =>
      have here := rests_undergo ended incident
      exact here.trans (ih (here.phase.trans ended))

end Run
end Convoy
