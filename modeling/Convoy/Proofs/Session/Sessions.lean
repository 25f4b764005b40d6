import Convoy.Proofs.Session.Relay

/-!
# Sessions

Events wait in the inbox while a session is lost or refused, and are handed on in the next one. So a
run hands on all that is sent, each event once and in order, for as long as nothing ends it; and if it
only waits long enough, nothing is left in the inbox.
-/
namespace Convoy

namespace Run

variable {run next : Run} {sent taken extra : List Delivery} {granted refused : Nat}
  {barred : Option Event}

theorem Bars.elapse {event : Event} (bars : run.Bars event) (elapses : Elapses run next)
    (same : next.phase = run.phase) : next.Bars event where
  stranger := bars.stranger
  phase := same.trans bars.phase
  result := by
    unfold Run.result?
    rw [same, elapses.schedule.monitor]
    exact bars.result
  notices := by
    rw [elapses.notices]
    exact bars.notices

theorem Stands.elapse {lost : Nat} (stands : run.Stands taken lost barred)
    (elapses : Elapses run next) : next.Stands taken lost barred := by
  have guarded (now : run.router.schedule.Guarded) := now.waits elapses.schedule
  have count : next.subscriptions = run.subscriptions := by
    rw [subscriptions, subscriptions, elapses.notices]
  rcases elapses.phase with same | ⟨due, serial, pauses, woken⟩
  · cases phase : run.phase with
    | ended result =>
        simp only [Stands, phase, same] at stands ⊢
        obtain ⟨sessions, ends, well, fatal⟩ := stands
        rw [count, elapses.schedule.roster, elapses.schedule.monitor]
        refine ⟨sessions, ?_, well, ?_⟩
        · exact fun event is => (ends event is).imp_right fun bars => bars.elapse elapses same
        · exact fun failure is => (fatal failure is).imp_right fun fails =>
            fails.mono (elapses.notices ▸ List.prefix_rfl)
    | listening confirmed =>
        cases confirmed with
        | false =>
            simp only [Stands, phase, same] at stands ⊢
            rw [count, elapses.notices]
            exact stands.imp_left guarded
        | true =>
            simp only [Stands, phase, same] at stands ⊢
            rw [count]
            exact stands.imp_left guarded
    | _ =>
        simp only [Stands, phase, same] at stands ⊢
        rw [count]
        exact stands.imp_left guarded
  · simp only [Stands, pauses, woken] at stands ⊢
    rw [count]
    exact stands.imp_left guarded

theorem Relays.elapse {all : List Delivery} {allowed : Nat}
    (relays : Relays sent granted run taken refused barred) (elapses : Elapses run next)
    (tape : all = taken ++ barred.toList.map Delivery.event ++ next.router.link.inbox)
    (allows : allowed = refused + next.router.link.refusals)
    (present : next.router.link.gone = false) :
    Relays all allowed next taken refused barred where
  tape := tape
  granted := allows
  present := present
  handed := by rw [Run.handed, elapses.notices]; exact relays.handed
  confirmed := relays.confirmed
  passed before event after same := by
    have grown : run.router.notices <+: next.router.notices := elapses.notices ▸ List.prefix_rfl
    rcases relays.passed before event after same with well | ⟨none, failure, ended, failed⟩
    · exact .inl (well.mono grown)
    · refine .inr ⟨none, failure, ?_, failed.mono grown⟩
      rcases elapses.phase with still | ⟨due, serial, pauses, -⟩
      · exact still.trans ended
      · rw [ended] at pauses
        contradiction
  stands := relays.stands.elapse elapses

theorem Relays.elapse_same (relays : Relays sent granted run taken refused barred)
    (elapses : Elapses run next) (same : next.router.link = run.router.link) :
    Relays sent granted next taken refused barred := by
  refine relays.elapse elapses ?_ ?_ ?_ <;> rw [same]
  · exact relays.tape
  · exact relays.granted
  · exact relays.present

theorem Relays.work (relays : Relays sent granted run taken refused barred) :
    ∃ taken refused barred, Relays sent granted run.work taken refused barred := by
  obtain ⟨_, _, _, worked⟩ := relays.workFor run.workload
  have settles : Elapses (run.workFor run.workload) run.work := ⟨.inl rfl, rfl, rfl, rfl, rfl, rfl⟩
  exact ⟨_, _, _, worked.elapse_same settles rfl⟩

/-- How many steps at most come before the next delivery is taken. -/
def rank : Phase → Nat
  | .ended _ => 0
  | .listening _ | .pausing _ _ => 1
  | .subscribing => 2

/-- How often something can still be taken from the link. -/
def stock (run : Run) : Nat :=
  run.router.link.inbox.length + run.router.link.refusals

/-- How much there is to do at most. -/
def load (run : Run) : Nat :=
  2 * run.stock + rank run.phase

theorem rank_le (phase : Phase) : rank phase ≤ 2 := by
  cases phase <;> simp [rank]

/-- What a step brings nearer to the end. -/
structure Advances (run next : Run) : Prop where
  present : next.router.link.gone = false
  load : next.load < run.load
  stock : next.stock ≤ run.stock
  pauses : ∀ due serial, next.phase = .pausing due serial → next.stock < run.stock

theorem rank_pos (running : ∀ result, run.phase ≠ .ended result) : 0 < rank run.phase := by
  cases phase : run.phase with
  | ended result => exact absurd phase (running result)
  | _ => simp [rank]

/-- Something was taken from the link. -/
theorem Advances.of_taken (running : ∀ result, run.phase ≠ .ended result)
    (present : next.router.link.gone = false) (fewer : next.stock < run.stock) :
    Advances run next := by
  refine ⟨present, ?_, Nat.le_of_lt fewer, fun _ _ _ => fewer⟩
  have before := rank_pos running
  have after := rank_le next.phase
  unfold Run.load
  omega

theorem stock_finish (run : Run) (result : Except Failure Unit) :
    (run.finish result).stock = run.stock := by
  have finishes := run.finishes_finish result
  rw [stock, stock, finishes.link.inbox, finishes.link.refusals]

theorem stock_receive {delivery : Delivery} {inbox : List Delivery}
    (found : run.router.link.inbox = delivery :: inbox) :
    (run.receive inbox).stock < run.stock := by
  simp only [stock, receive, found, List.length_cons]
  omega

theorem stock_goOn {delivery : Delivery} {inbox : List Delivery}
    (found : run.router.link.inbox = delivery :: inbox) (confirmed : Bool) (event : Event) :
    (run.goOn confirmed ((run.receive inbox).router.handle event).1).stock < run.stock := by
  have handles : (run.receive inbox).router.Handles [event] _ := Router.handles_handle event
  have same : (run.goOn confirmed ((run.receive inbox).router.handle event).1).stock =
      (run.receive inbox).stock := by
    show List.length ((run.receive inbox).router.handle event).1.link.inbox +
      ((run.receive inbox).router.handle event).1.link.refusals = _
    rw [handles.link.inbox, handles.link.refusals]
    rfl
  rw [same]
  exact stock_receive found

theorem advances_of_steps (present : run.router.link.gone = false) (steps : Steps run next) :
    Advances run next := by
  have listening {confirmed : Bool} (phase : run.phase = .listening confirmed) :
      ∀ result, run.phase ≠ .ended result := by simp [phase]
  cases steps with
  | told running stopping =>
      have finishes := run.finishes_finish (.ok ())
      have same := run.stock_finish (.ok ())
      refine ⟨finishes.link.gone.trans present, ?_, Nat.le_of_eq same, ?_⟩
      · have before := rank_pos running
        rw [load, load, same, finishes.phase]
        exact Nat.add_lt_add_left before _
      · intro due serial pauses
        rw [finishes.phase] at pauses
        contradiction
  | @subscribed router phase quiet answer =>
      have asks := Router.asks_subscribe present run.identity
      rw [answer] at asks
      have same : ({ run with router := router, phase := .listening false } : Run).stock =
          run.stock := by
        have refusals : run.router.link.refusals = router.link.refusals := asks.refusals
        have inbox : router.link.inbox = run.router.link.inbox := asks.inbox
        simp only [stock, refusals, inbox]
      refine ⟨asks.present, ?_, Nat.le_of_eq same, nofun⟩
      rw [load, load, same, phase]
      exact Nat.lt_succ_self _
  | @refused router cause phase quiet answer =>
      have asks := Router.asks_subscribe present run.identity
      rw [answer] at asks
      have loses := loses_lose { run with router := router }
      refine .of_taken (by simp [phase]) ((congrArg Link.gone loses.link).trans asks.present) ?_
      have refusals : run.router.link.refusals = router.link.refusals + 1 := asks.refusals
      have inbox : router.link.inbox = run.router.link.inbox := asks.inbox
      simp only [stock, loses.link, refusals, inbox]
      omega
  | @heard confirmed event inbox router phase quiet found allowed answer =>
      have fewer := stock_goOn found confirmed event
      have handles : (run.receive inbox).router.Handles [event] _ := Router.handles_handle event
      rw [answer] at fewer handles
      exact .of_taken (listening phase) (handles.link.gone.trans present) fewer
  | @failed confirmed event inbox router failure phase quiet found allowed answer =>
      have fewer := stock_goOn found confirmed event
      have handles : (run.receive inbox).router.Handles [event] _ := Router.handles_handle event
      rw [answer] at fewer handles
      have finishes := (run.goOn confirmed router).finishes_finish (.error failure)
      have gone := finishes.link.gone.trans (handles.link.gone.trans present)
      exact .of_taken (listening phase) gone (by rw [stock_finish]; exact fewer)
  | @barred event inbox phase quiet found stranger =>
      have finishes := (run.receive inbox).finishes_finish
        (.error (.breach (.unexpected "SUBSCRIBED" event.kind)))
      exact .of_taken (listening phase) (finishes.link.gone.trans present)
        (by rw [stock_finish]; exact stock_receive found)
  | @disconnected confirmed reason inbox phase quiet found =>
      have loses := (run.receive inbox).loses_lose
      refine .of_taken (listening phase) ((congrArg Link.gone loses.link).trans present) ?_
      have same : (run.receive inbox).lose.stock = (run.receive inbox).stock := by
        rw [stock, stock, loses.link]
      rw [same]
      exact stock_receive found
  | lost phase quiet empty gone => simp [present] at gone

/-- The event loop has ended, or it waits: for a pause to end, or for something to come. -/
inductive Idle (run : Run) : Prop where
  | ended {result : Except Failure Unit} (phase : run.phase = .ended result)
  | pausing {due serial : Nat} (phase : run.phase = .pausing due serial)
  | listening {confirmed : Bool} (phase : run.phase = .listening confirmed)
      (empty : run.router.link.inbox = [])

theorem idle_of_step (still : run.step = none) : Idle run := by
  unfold step at still
  cases phase : run.phase with
  | ended result => exact .ended phase
  | pausing due serial => exact .pausing phase
  | subscribing =>
      simp only [phase] at still
      split at still <;> contradiction
  | listening confirmed =>
      simp only [phase] at still
      split at still
      · contradiction
      · unfold listen at still
        cases inbox : run.router.link.inbox with
        | nil => exact .listening phase inbox
        | cons delivery rest =>
            simp only [inbox] at still
            cases delivery <;> contradiction

/-- What comes of going to work. -/
structure Worked (run next : Run) : Prop where
  present : next.router.link.gone = false
  idle : Idle next
  stock : next.stock ≤ run.stock
  pauses : (∀ due serial, run.phase ≠ .pausing due serial) →
    ∀ due serial, next.phase = .pausing due serial → next.stock < run.stock

theorem worked_workFor (present : run.router.link.gone = false) {fuel : Nat}
    (enough : run.load ≤ fuel) : Worked run (run.workFor fuel) := by
  induction fuel generalizing run with
  | zero =>
      have nothing : rank run.phase = 0 := by
        unfold load at enough
        omega
      cases phase : run.phase with
      | ended result => exact ⟨present, .ended phase, Nat.le_refl _, by simp [workFor, phase]⟩
      | _ => simp [phase, rank] at nothing
  | succ fuel ih =>
      unfold workFor
      cases moved : run.step with
      | none =>
          exact ⟨present, idle_of_step moved, Nat.le_refl _,
            fun awake due serial pauses => absurd pauses (awake due serial)⟩
      | some next =>
          have advances := advances_of_steps present (steps_of_step moved)
          have load := advances.load
          have worked := ih advances.present (by omega)
          refine ⟨worked.present, worked.idle, Nat.le_trans worked.stock advances.stock, ?_⟩
          intro _ due serial pauses
          by_cases asleep : ∃ due serial, next.phase = .pausing due serial
          · obtain ⟨early, first, rests⟩ := asleep
            exact Nat.lt_of_le_of_lt worked.stock (advances.pauses early first rests)
          · push Not at asleep
            exact Nat.lt_of_lt_of_le (worked.pauses asleep due serial pauses) advances.stock

theorem worked_work (present : run.router.link.gone = false) : Worked run run.work := by
  have enough : run.load ≤ run.workload := by
    have rank := rank_le run.phase
    unfold load workload stock
    omega
  have worked := worked_workFor present enough
  refine ⟨worked.present, ?_, worked.stock, worked.pauses⟩
  cases worked.idle with
  | ended phase => exact .ended phase
  | pausing phase => exact .pausing phase
  | listening phase empty => exact .listening phase empty

/-- A run that waits long enough ends, or empties its inbox. -/
theorem empties (idle : Idle run) (present : run.router.link.gone = false) :
    ∃ waits : List Nat, let last := run.undergoAll (waits.map .advance)
      last.router.link.inbox = [] ∨ ∃ result, last.phase = .ended result := by
  induction bound : run.stock using Nat.strongRecOn generalizing run with
  | ind count ih =>
      cases idle with
      | ended phase => exact ⟨[], .inr ⟨_, phase⟩⟩
      | listening phase empty => exact ⟨[], .inl empty⟩
      | @pausing due serial phase =>
          let rest := due - run.router.schedule.now
          obtain ⟨woken, advanced, elapses, same, wakes⟩ := run.elapses_advance rest
          have subscribing : woken.phase = .subscribing := wakes due serial phase (by omega)
          have here : woken.router.link.gone = false := (congrArg Link.gone same).trans present
          have worked := worked_work here
          have stock : woken.stock = count := by rw [← bound, Run.stock, Run.stock, same]
          have later : ∃ waits : List Nat, let last := woken.work.undergoAll (waits.map .advance)
              last.router.link.inbox = [] ∨ ∃ result, last.phase = .ended result := by
            cases worked.idle with
            | ended phase => exact ⟨[], .inr ⟨_, phase⟩⟩
            | listening phase empty => exact ⟨[], .inl empty⟩
            | pausing again =>
                have fewer := worked.pauses (by simp [subscribing]) _ _ again
                exact ih _ (stock ▸ fewer) worked.idle worked.present rfl
          obtain ⟨waits, ends⟩ := later
          refine ⟨rest :: waits, ?_⟩
          rw [← advanced] at ends
          exact ends

/-- A run before its first step, with what the master has in store for it. -/
def opening (profile : Profile) (groups : List TaskGroup) (mint : Mint) (draws : Draws)
    (link : Link) : Run where
  router :=
    { schedule := Schedule.watch
        { Schedule.start (groups.map (·.inRole profile.registration.role)) profile.rules mint with
          draws := draws }
      link := link
      refusal := profile.refusal }
  identity := profile.framework
  reconnect := profile.reconnectBackoff
  teardown := profile.teardown

/-- A run starts so on a link with nothing in store. -/
theorem start_eq_work (profile : Profile) (groups : List TaskGroup) (mint : Mint) (draws : Draws) :
    Run.start profile groups mint draws = (opening profile groups mint draws {}).work :=
  rfl

theorem relays_opening (profile : Profile) (groups : List TaskGroup) (mint : Mint) (draws : Draws)
    {link : Link} (present : link.gone = false) :
    Relays link.inbox link.refusals (opening profile groups mint draws link) [] 0 none where
  tape := rfl
  granted := (Nat.zero_add _).symm
  present := present
  handed := rfl
  confirmed before event after none := by simp at none
  passed before event after none := by simp at none
  stands := ⟨Schedule.guarded_watch _ _ _ _, rfl, .inl rfl, rfl⟩

end Run

/-- What the master does to the link, and the passing of time. -/
inductive Supply where
  | deliver (delivery : Delivery)
  /-- The next subscriptions are refused, a number of them. -/
  | refuse (count : Nat)
  /-- The next call fails, after those that fail already. -/
  | fail (failure : LinkFailure)
  | wait (milliseconds : Nat)

namespace Supply

def delivered : Supply → List Delivery
  | .deliver delivery => [delivery]
  | _ => []

def change : Supply → Link → Link
  | .deliver delivery, link => link.deliver delivery
  | .refuse count, link => link.refuse count
  | .fail failure, link => link.failNext failure
  | .wait _, link => link

def incident : Supply → Incident
  | .wait milliseconds => .advance milliseconds
  | supply => .link supply.change

end Supply

/-- A run, with all that was sent to it and the number of subscriptions that were refused. -/
structure Hosted where
  run : Run
  sent : List Delivery
  refused : Nat

namespace Hosted

/-- A run whose master has sent something before it starts. Subscriptions were refused where fewer are
left to be refused than before. -/
def start (profile : Profile) (groups : List TaskGroup) (mint : Mint) (draws : Draws)
    (inbox : List Delivery) (refusals : Nat) (failures : List (Option LinkFailure)) : Hosted :=
  let link : Link := { inbox := inbox, refusals := refusals, failures := failures }
  let run := (Run.opening profile groups mint draws link).work
  { run := run, sent := inbox, refused := refusals - run.router.link.refusals }

def supply (hosted : Hosted) (supply : Supply) : Hosted :=
  let given := supply.change hosted.run.router.link
  let run := hosted.run.undergo supply.incident
  { run := run
    sent := hosted.sent ++ supply.delivered
    refused := hosted.refused + given.refusals - run.router.link.refusals }

def supplyAll (hosted : Hosted) (supplies : List Supply) : Hosted :=
  supplies.foldl supply hosted

variable {hosted : Hosted}

/-- What was sent is accounted for, and the run has nothing to do at the moment. -/
structure Settled (hosted : Hosted) : Prop where
  idle : Run.Idle hosted.run
  relays : ∃ taken barred, Run.Relays hosted.sent
    (hosted.refused + hosted.run.router.link.refusals) hosted.run taken hosted.refused barred

theorem settled_of_work {run : Run} {sent taken : List Delivery} {granted refused : Nat}
    {barred : Option Event} (relays : Run.Relays sent granted run taken refused barred) :
    Settled ⟨run.work, sent, granted - run.work.router.link.refusals⟩ := by
  refine ⟨(Run.worked_work relays.present).idle, ?_⟩
  obtain ⟨taken, count, barred, worked⟩ := relays.work
  have known : granted - run.work.router.link.refusals = count := by
    have granted := worked.granted
    omega
  dsimp only
  rw [known, ← worked.granted]
  exact ⟨taken, barred, worked⟩

theorem settled_start (profile : Profile) (groups : List TaskGroup) (mint : Mint) (draws : Draws)
    (inbox : List Delivery) (refusals : Nat) (failures : List (Option LinkFailure)) :
    (start profile groups mint draws inbox refusals failures).Settled := by
  let link : Link := { inbox := inbox, refusals := refusals, failures := failures }
  have present : link.gone = false := rfl
  exact settled_of_work (Run.relays_opening profile groups mint draws present)

theorem inbox_change (supply : Supply) {link : Link} (present : link.gone = false) :
    (supply.change link).inbox = link.inbox ++ supply.delivered ∧
      (supply.change link).gone = false := by
  cases supply with
  | deliver delivery => simp [Supply.change, Link.deliver, Supply.delivered, present]
  | _ => exact ⟨(List.append_nil _).symm, present⟩

theorem Settled.supply (settled : hosted.Settled) (supply : Supply) :
    (hosted.supply supply).Settled := by
  obtain ⟨taken, barred, relays⟩ := settled.relays
  obtain ⟨inbox, present⟩ := inbox_change supply relays.present
  have tape {next : Run} (same : next.router.link = supply.change hosted.run.router.link) :
      hosted.sent ++ supply.delivered =
        taken ++ barred.toList.map Delivery.event ++ next.router.link.inbox := by
    rw [same, inbox, relays.tape, List.append_assoc _ _ supply.delivered]
  let changed : Run := { hosted.run with
    router := { hosted.run.router with link := supply.change hosted.run.router.link } }
  have elapses : Run.Elapses hosted.run changed := ⟨.inl rfl, rfl, rfl, .refl _⟩
  have linked := relays.elapse elapses (@tape changed rfl) rfl present
  cases supply with
  | wait milliseconds =>
      obtain ⟨woken, advanced, elapses, same, -⟩ := hosted.run.elapses_advance milliseconds
      have passed := relays.elapse elapses (tape same) rfl (same ▸ present)
      have settled := settled_of_work passed
      rw [← advanced, same] at settled
      exact settled
  | _ => exact settled_of_work linked

theorem Settled.supplyAll (settled : hosted.Settled) (supplies : List Supply) :
    (hosted.supplyAll supplies).Settled := by
  induction supplies generalizing hosted with
  | nil => exact settled
  | cons supply rest ih => exact ih (settled.supply supply)

theorem run_supplyAll_wait (waits : List Nat) :
    (hosted.supplyAll (waits.map .wait)).run = hosted.run.undergoAll (waits.map .advance) := by
  induction waits generalizing hosted with
  | nil => rfl
  | cons milliseconds rest ih => exact ih

end Hosted

namespace Run

/-- What a run made of all that was sent. Something of it was taken: its events were handed on, each
once and in order, and the first of every session confirmed it. An event that did not was barred, and
nothing was taken after it or after an event that failed; without either, only the watch ends a run.
Every session but the one that stands, or that the end found, was refused or lost by a disconnect. -/
structure Serves (run : Run) (sent : List Delivery) (refused : Nat) (taken : List Delivery)
    (barred : Option Event) : Prop where
  tape : sent = taken ++ barred.toList.map Delivery.event ++ run.router.link.inbox
  handed : run.handed = taken.filterMap Delivery.event?
  confirmed : ∀ before event after, taken = before ++ .event event :: after → Between before →
    confirms event = true
  stranger : ∀ event, barred = some event → Between taken ∧ run.Bars event
  passed : ∀ before event after, taken = before ++ .event event :: after →
    run.Handled before event (.ok ()) ∨
      after = [] ∧ ∃ failure, run.phase = .ended (.error failure) ∧
        run.Handled before event (.error failure)
  fatal : ∀ failure, run.phase = .ended (.error failure) → barred.isSome ∨ run.Fails taken failure
  sessions : run.subscriptions = refused + taken.countP Delivery.isDisconnect ∨
    run.subscriptions = refused + taken.countP Delivery.isDisconnect + 1
  standing : ∀ confirmed, run.phase = .listening confirmed →
    run.subscriptions = refused + taken.countP Delivery.isDisconnect + 1
  lost : ∀ due serial, run.phase = .pausing due serial →
    run.subscriptions = refused + taken.countP Delivery.isDisconnect
  told : run.phase = .ended (.ok ()) → run.router.schedule.roster.finished = true ∨
    ∃ failure, run.router.schedule.monitor = .stopped (.error failure)
  rests : ∀ result, run.phase = .ended result → ∀ incidents, Rests run (run.undergoAll incidents)

variable {run : Run} {sent taken : List Delivery} {granted refused : Nat} {barred : Option Event}

theorem Relays.serves (relays : Relays sent granted run taken refused barred) :
    run.Serves sent refused taken barred := by
  have stands := relays.stands
  unfold Stands at stands
  constructor
  case tape => exact relays.tape
  case handed => exact relays.handed
  case confirmed => exact relays.confirmed
  case stranger =>
    rintro event rfl
    by_cases running : ∀ result, run.phase ≠ .ended result
    · exact absurd (relays.runs running).1 nofun
    · push Not at running
      obtain ⟨result, ended⟩ := running
      simp only [ended] at stands
      exact stands.2.1 event rfl
  case passed => exact relays.passed
  case fatal =>
    intro failure phase
    simp only [phase] at stands
    exact stands.2.2.2 failure rfl
  case sessions =>
    by_cases running : ∀ result, run.phase ≠ .ended result
    · exact (relays.runs running).2.subscriptions
    · push Not at running
      obtain ⟨result, ended⟩ := running
      simp only [ended] at stands
      exact stands.1
  case standing =>
    intro confirmed phase
    cases confirmed with
    | false =>
        simp only [phase] at stands
        exact stands.2.2.2.1
    | true =>
        simp only [phase] at stands
        exact stands.2.2.2
  case lost =>
    intro due serial phase
    simp only [phase] at stands
    exact stands.2.2.2
  case told =>
    intro phase
    simp only [phase] at stands
    exact stands.2.2.1 trivial
  case rests => exact fun _ ended => rests_undergoAll ended

/-- However many sessions are refused or lost, and whenever things are sent: a run hands on what is
sent, each event once and in order, until it ends, and if it waits long enough it takes all. The first
event of a session that does not confirm it is not handed on, and ends the run. -/
theorem serves_supplyAll (profile : Profile) (groups : List TaskGroup) (mint : Mint) (draws : Draws)
    (inbox : List Delivery) (refusals : Nat) (failures : List (Option LinkFailure))
    (supplies : List Supply) :
    let hosted := (Hosted.start profile groups mint draws inbox refusals failures).supplyAll supplies
    (∃ taken barred, hosted.run.Serves hosted.sent hosted.refused taken barred) ∧
      ∃ waits : List Nat, let last := (hosted.supplyAll (waits.map .wait)).run
        last.router.link.inbox = [] ∨ ∃ result, last.phase = .ended result := by
  intro hosted
  have settled : hosted.Settled :=
    (Hosted.settled_start profile groups mint draws inbox refusals failures).supplyAll supplies
  obtain ⟨taken, barred, relays⟩ := settled.relays
  refine ⟨⟨taken, barred, relays.serves⟩, ?_⟩
  obtain ⟨waits, ends⟩ := empties settled.idle relays.present
  refine ⟨waits, ?_⟩
  rw [Hosted.run_supplyAll_wait]
  exact ends

end Run
end Convoy
