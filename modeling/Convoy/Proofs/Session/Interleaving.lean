import Convoy.Proofs.Session.Verdict

/-!
# A run is one of the interleavings

A run lets its event loop do all it can, and lets the watch answer at once. This is one of the ways
in which the two loops can make their moves, so what holds of all of them holds of a run.
-/
namespace Convoy

/-- Where the event loop stands between the steps of a run. -/
def Phase.server : Phase → Server
  | .subscribing => .looking
  | .listening confirmed => .listening confirmed
  | .pausing due _ => .pausing due
  | .ended result => .left result

/-- Where the watch stands between the steps of a run. One that has not begun takes no reports, as
one that has ended. -/
def Monitor.watcher : Monitor → Watcher
  | .idle => .left (.ok ())
  | .watching => .waiting
  | .stopped result => .left result

namespace Run

/-- The two loops of a run, the event loop standing somewhere. -/
def loopsAt (run : Run) (server : Server) (taken : List (Router × Status)) : Loops where
  router := run.router
  identity := run.identity
  reconnect := run.reconnect
  teardown := run.teardown
  attempt := run.attempt
  server := server
  watcher := run.router.schedule.monitor.watcher
  taken := taken

/-- The two loops between the steps of a run. -/
def loops (run : Run) (taken : List (Router × Status)) : Loops :=
  run.loopsAt run.phase.server taken

/-- Goes on after an event, unless it failed. -/
def conclude (run : Run) : Router × Except Failure Unit → Run
  | (router, .ok ()) => { run with router := router, phase := .listening true }
  | (router, .error failure) => { run with router := router }.finish (.error failure)

theorem conclude_with_router (run : Run) (router : Router)
    (answer : Router × Except Failure Unit) :
    { run with router := router }.conclude answer = run.conclude answer := by
  obtain ⟨next, result⟩ := answer
  cases result <;> rfl

end Run

namespace Router

variable {router next : Router} {framework : FrameworkId} {offer : Offer} {rest : List Offer}
  {schedule : Schedule}

theorem answer_of_error {failure : Failure}
    (matched : router.schedule.matchOffer offer framework = (schedule, .error failure)) :
    router.answer framework (offer :: rest) =
      ({ router with schedule := schedule }, .error failure) := by
  simp only [answer, matched]

theorem answer_of_accepted {found : Match}
    (matched : router.schedule.matchOffer offer framework = (schedule, .ok found))
    (called : { router with schedule := schedule }.call
      (.accept [offer.id] found.operations router.filters) = (next, .ok ())) :
    router.answer framework (offer :: rest) = next.answer framework rest := by
  simp only [answer, matched, called]

theorem answer_of_refused {found : Match} {failure : LinkFailure}
    (matched : router.schedule.matchOffer offer framework = (schedule, .ok found))
    (called : { router with schedule := schedule }.call
      (.accept [offer.id] found.operations router.filters) = (next, .error failure)) :
    router.answer framework (offer :: rest) = (next, .error (.link failure)) := by
  simp only [answer, matched, called]

end Router

namespace Loops

open Schedule

/-- By some moves the loops come to stand where a run does. -/
def Meets (loops : Loops) (run : Run) : Prop :=
  ∃ moves taken, loops.play moves = run.loops taken

variable {loops : Loops} {run next : Run} {taken : List (Router × Status)}

theorem meets_loops (run : Run) (taken : List (Router × Status)) : (run.loops taken).Meets run :=
  ⟨[], taken, rfl⟩

theorem Meets.after (moves : List Move) (meets : (loops.play moves).Meets run) :
    loops.Meets run := by
  obtain ⟨later, taken, ends⟩ := meets
  exact ⟨moves ++ later, taken, (loops.play_append moves later).trans ends⟩

theorem Meets.serve {after : Loops} (moved : loops.serve = some after) (meets : after.Meets run) :
    loops.Meets run := by
  refine Meets.after [.serve] ?_
  simpa only [play, List.foldl, move, moved, Option.getD_some] using meets

theorem Meets.trans (meets : loops.Meets run) (goesOn : ∀ taken, (run.loops taken).Meets next) :
    loops.Meets next := by
  obtain ⟨moves, taken, ends⟩ := meets
  exact Meets.after moves (ends ▸ goesOn taken)

/-- The watch has a look and stops, or waits again. -/
theorem play_check (loops : Loops) (looks : loops.watcher = .looking)
    (watches : loops.schedule.monitor = .watching) :
    loops.play [.watch, .watch] =
      { loops.withSchedule loops.schedule.check with
        watcher := loops.schedule.check.monitor.watcher } := by
  by_cases stops : (loops.schedule.roster.finished || loops.stopping) = true
  · have checked : loops.schedule.check = loops.schedule.stopWith (.ok ()) := by
      simp only [check, watches]
      exact if_pos stops
    simp only [play, List.foldl, move, watch, looks, stops, if_true, Option.getD_some, checked]
    rfl
  · have checked : loops.schedule.check = loops.schedule := by
      simp only [check, watches]
      exact if_neg stops
    simp only [play, List.foldl, move, watch, looks, stops, Bool.false_eq_true, if_false,
      Option.getD_some, Option.getD_none, checked, watches]
    rfl

/-- The watch sees the flag. -/
theorem play_stop (loops : Loops)
    (stands : loops.watcher = loops.schedule.monitor.watcher) :
    loops.raise.play [.wake, .watch, .watch] =
      { loops.withSchedule loops.schedule.stop with
        watcher := loops.schedule.stop.monitor.watcher } := by
  cases monitor : loops.schedule.monitor with
  | watching =>
    have waits : loops.watcher = .waiting := by rw [stands, monitor]; rfl
    let woken : Loops := { loops.raise with watcher := .looking }
    have wakes : loops.raise.play [.wake] = woken := by
      simp only [play, List.foldl, move, raise, withSchedule, waits]
      rfl
    show (loops.raise.play [.wake]).play [.watch, .watch] = _
    rw [wakes, play_check woken rfl monitor]
    rfl
  | _ =>
    have left : loops.raise.play [.wake, .watch, .watch] = loops.raise := by
      simp only [play, List.foldl, move, watch, raise, withSchedule, stands, monitor,
        Monitor.watcher, Option.getD_none]
    have stopped : loops.schedule.stop = { loops.schedule with stopping := true } := by
      simp only [stop, check, monitor]
    rw [left, stopped, ← stands]
    rfl

/-- The watch takes a report, and answers at once. -/
theorem play_take (loops : Loops) {status : Status}
    (stands : loops.watcher = loops.schedule.monitor.watcher) (given : loops.box = some status) :
    ∃ box taken, loops.play [.settle, .take, .watch, .watch] =
      { loops.withSchedule (loops.schedule.update status) with
        watcher := (loops.schedule.update status).monitor.watcher
        box := box
        taken := taken } ∧
      (box.isNone || (loops.schedule.update status).monitor.watcher.hasEnded) = true := by
  let settled : Loops := loops.withSchedule loops.schedule.settle
  have given : settled.box = some status := given
  change ∃ box taken, settled.play [.take, .watch, .watch] = _ ∧ _
  cases monitor : loops.schedule.monitor with
  | watching =>
    have waits : settled.watcher = .waiting := by
      show loops.watcher = _
      rw [stands, monitor]
      rfl
    have watches : loops.schedule.settle.monitor = .watching := monitor
    have takes : settled.play [.take, .watch, .watch] =
        (settled.take status).play [.watch, .watch] := by
      simp only [play, List.foldl, move, waits, given]
    cases applied : loops.schedule.settle.apply status with
    | mk schedule result =>
      have flags := (flags_apply loops.schedule.settle status).1
      rw [applied] at flags
      have taken : settled.schedule.apply status = (schedule, result) := applied
      cases result with
      | ok done =>
        have updated : loops.schedule.update status = schedule.check := by
          simp only [update, watches, applied]
        let looks : Loops :=
          { settled.withSchedule schedule with
            watcher := .looking, box := none
            taken := settled.taken ++ [(settled.router, status)] }
        have took : settled.take status = looks := by
          simp only [Loops.take, taken, looks]
        rw [takes, took, updated, play_check looks rfl (flags.trans watches)]
        exact ⟨none, _, rfl, rfl⟩
      | error failure =>
        have updated : loops.schedule.update status = schedule.stopWith (.error failure) := by
          simp only [update, watches, applied]
        have took : settled.take status =
            { settled.withSchedule schedule with
              watcher := .leaving (.error failure), box := none
              taken := settled.taken ++ [(settled.router, status)] } := by
          simp only [Loops.take, taken]
        rw [takes, took, updated]
        exact ⟨none, _, rfl, rfl⟩
  | _ =>
    -- A watch that has ended takes nothing, and the event loop need not wait for it.
    have updated : loops.schedule.update status = loops.schedule.settle := by
      have idle : loops.schedule.settle.monitor = _ := monitor
      simp only [update, idle]
    have ends : settled.play [.take, .watch, .watch] = settled := by
      have left : settled.watcher = _ := stands.trans (congrArg Monitor.watcher monitor)
      simp only [play, List.foldl, move, watch, left, Monitor.watcher, Option.getD_none]
    have same : loops.schedule.settle.monitor.watcher = loops.watcher := stands.symm
    rw [ends, updated, same]
    refine ⟨settled.box, settled.taken, rfl, ?_⟩
    rw [stands, monitor, given]
    rfl

theorem meets_finish (run : Run) (taken : List (Router × Status)) (result : Except Failure Unit) :
    (run.loopsAt (.closing result) taken).Meets (run.finish result) := by
  let closed : Loops :=
    { run.loops taken with
      router :=
        if run.teardown && run.router.framework.isSome then (run.router.call .teardown).1
        else run.router
      server := .left result }
  have same : closed.schedule = run.router.schedule := by
    show Router.schedule (if _ then _ else _) = _
    split <;> rfl
  have stands : closed.watcher = closed.schedule.monitor.watcher := by
    rw [same]
    rfl
  refine Meets.after [.serve, .serve] ⟨[.wake, .watch, .watch], taken, ?_⟩
  refine (play_stop closed stands).trans ?_
  rfl

theorem loopsAt_router (run : Run) (taken : List (Router × Status)) (router : Router)
    (server next : Server) (same : router.schedule.monitor = run.router.schedule.monitor) :
    { run.loopsAt server taken with router := router, server := next } =
      { run with router := router }.loopsAt next taken := by
  simp only [Run.loopsAt, same]

theorem lose_loopsAt (run : Run) (taken : List (Router × Status)) (server : Server) :
    (run.loopsAt server taken).lose = run.lose.loops taken := by
  by_cases none : run.reconnect.delay run.attempt (run.router.drawn .pause) = 0
  · simp only [lose, Run.lose, Run.loopsAt, none, if_true]
    rfl
  · simp only [lose, Run.lose, Run.loopsAt, none, if_false]
    rfl

theorem answer_of_error {framework : FrameworkId} {offer : Offer} {rest : List Offer}
    {schedule : Schedule} {failure : Failure}
    (matched : loops.schedule.matchOffer offer framework = (schedule, .error failure)) :
    loops.answer framework (offer :: rest) = (loops.withSchedule schedule).fail failure := by
  simp only [answer, matched]

theorem answer_of_ok {framework : FrameworkId} {offer : Offer} {rest : List Offer}
    {schedule : Schedule} {found : Match}
    (matched : loops.schedule.matchOffer offer framework = (schedule, .ok found)) :
    loops.answer framework (offer :: rest) =
      { loops.withSchedule schedule with
        server := .accepting framework
          (.accept [offer.id] found.operations loops.router.filters) rest } := by
  simp only [answer, matched]

theorem meets_answer (run : Run) (taken : List (Router × Status)) (framework : FrameworkId)
    (offers : List Offer) :
    (run.loopsAt (.answering framework offers) taken).Meets
      (run.conclude (run.router.answer framework offers)) := by
  -- The run answers all offers in one step. The event loop takes two moves for each of them.
  induction offers generalizing run with
  | nil => exact ⟨[.serve], taken, rfl⟩
  | cons offer rest ih =>
    let asking := run.loopsAt (.answering framework (offer :: rest)) taken
    refine Meets.after [.serve] ?_
    change (asking.answer framework (offer :: rest)).Meets _
    have monitor := (flags_matchOffer run.router.schedule offer framework).1
    cases matched : run.router.schedule.matchOffer offer framework with
    | mk schedule found =>
      have here : asking.schedule.matchOffer offer framework = (schedule, found) := matched
      rw [matched] at monitor
      let matching : Run := { run with router := { run.router with schedule := schedule } }
      cases found with
      | error failure =>
        have failed : (asking.withSchedule schedule).fail failure =
            matching.loopsAt (.closing (.error failure)) taken :=
          loopsAt_router run taken matching.router (.answering framework (offer :: rest)) _ monitor
        rw [answer_of_error here, failed, Router.answer_of_error matched]
        exact meets_finish matching taken (.error failure)
      | ok found =>
        let accept := Call.accept [offer.id] found.operations run.router.filters
        have accepts : { asking.withSchedule schedule with
              server := .accepting framework accept rest } =
            matching.loopsAt (.accepting framework accept rest) taken :=
          loopsAt_router run taken matching.router (.answering framework (offer :: rest)) _ monitor
        cases called : matching.router.call accept with
        | mk router result =>
          have same : router.schedule.monitor = matching.router.schedule.monitor :=
            (congrArg (·.1.schedule.monitor) called).symm
          rw [answer_of_ok here]
          refine Meets.after [.serve] ?_
          change (Loops.follow { asking.withSchedule schedule with
              server := .accepting framework accept rest }
            (matching.router.call accept) (.answering framework rest)).Meets _
          rw [accepts, called]
          let calling : Run := { matching with router := router }
          cases result with
          | ok done =>
            have goesOn : (matching.loopsAt (.accepting framework accept rest) taken).follow
                (router, .ok ()) (.answering framework rest) =
                  calling.loopsAt (.answering framework rest) taken :=
              loopsAt_router matching taken router (.accepting framework accept rest) _ same
            rw [goesOn, Router.answer_of_accepted matched called, ← run.conclude_with_router router]
            exact ih calling
          | error failure =>
            have fails : (matching.loopsAt (.accepting framework accept rest) taken).follow
                (router, .error failure) (.answering framework rest) =
                  calling.loopsAt (.closing (.error (.link failure))) taken :=
              loopsAt_router matching taken router (.accepting framework accept rest) _ same
            rw [fails, Router.answer_of_refused matched called]
            exact meets_finish calling taken (.error (.link failure))

theorem play_handing (loops : Loops) {acknowledged : Except LinkFailure Unit}
    (stands : loops.server = .handing acknowledged)
    (ready : (loops.box.isNone || loops.watcher.hasEnded) = true) :
    loops.play [.serve] =
      { loops with box := none }.follow (loops.router, acknowledged) (.listening true) := by
  simp only [play, List.foldl, move, serve, stands, ready, if_true, Option.getD_some]

theorem meets_report (run : Run) (taken : List (Router × Status)) (status : Status) :
    (run.loopsAt (.acknowledging status) taken).Meets
      (run.conclude (run.router.report status)) := by
  cases acknowledged : run.router.acknowledge status with
  | mk router result =>
    have same : router.schedule = run.router.schedule := by
      have same : (run.router.acknowledge status).1.schedule = run.router.schedule := by
        unfold Router.acknowledge
        split <;> rfl
      rwa [acknowledged] at same
    let updated : Router := { router with schedule := router.schedule.update status }
    have reported : run.router.report status = (updated, result.mapError .link) := by
      simp only [Router.report, acknowledged, updated]
    let handing : Loops :=
      { run.loopsAt (.handing result) taken with router := router, box := some status }
    have hands : (run.loopsAt (.acknowledging status) taken).play [.serve, .serve] = handing := by
      simp only [play, List.foldl, move, serve, Run.loopsAt, acknowledged, Option.getD_some]
      rfl
    have stands : handing.watcher = handing.schedule.monitor.watcher := by
      show _ = router.schedule.monitor.watcher
      rw [same]
      rfl
    obtain ⟨box, later, takes, ready⟩ := play_take handing stands rfl
    let handed : Loops :=
      { { run with router := updated }.loopsAt (.handing result) later with box := box }
    have serves : handed.play [.serve] =
        { handed with box := none }.follow (updated, result) (.listening true) :=
      play_handing handed rfl ready
    refine Meets.after [.serve, .serve] ?_
    rw [hands, reported]
    refine Meets.after [.settle, .take, .watch, .watch] ?_
    rw [takes]
    refine Meets.after [.serve] ?_
    change (handed.play [.serve]).Meets _
    rw [serves]
    cases result with
    | ok done => exact meets_loops { run with router := updated, phase := .listening true } later
    | error failure =>
      exact meets_finish { run with router := updated } later (.error (.link failure))

theorem meets_hear (run : Run) (taken : List (Router × Status)) (confirmed : Bool) (event : Event) :
    ((run.loopsAt (.listening confirmed) taken).hear confirmed event).Meets
      (run.handle confirmed event) := by
  by_cases confirms : (confirmed || Run.confirms event) = true
  · let counted : Run := { run with attempt := if confirmed then run.attempt else 0 }
    have handled : run.handle confirmed event = counted.conclude (run.router.handle event) := by
      simp only [Run.handle, confirms, if_true]
      cases answer : run.router.handle event with
      | mk router result => cases result <;> rfl
    let noticed : Run := { counted with router := run.router.notice (.event event) }
    rw [handled, ← counted.conclude_with_router noticed.router]
    simp only [hear, confirms, if_true]
    cases event with
    | offers given =>
      cases framework : run.router.framework with
      | some named =>
        have answers : run.router.handle (.offers given) = noticed.router.answer named given := by
          simp only [Router.handle, Router.notice, framework, noticed]
        rw [answers]
        simp only [Run.loopsAt, framework]
        exact meets_answer noticed taken named given
      | none =>
        have fails : run.router.handle (.offers given) =
            (noticed.router, .error (.breach (.notSubscribed "OFFERS"))) := by
          simp only [Router.handle, Router.notice, framework, noticed]
          rfl
        simp only [Run.loopsAt, framework, fails]
        exact meets_finish noticed taken _
    | update status => exact meets_report noticed taken status
    | unknown => exact meets_finish noticed taken _
    | _ => exact ⟨[], taken, rfl⟩
  · have unconfirmed : run.handle confirmed event =
        run.finish (.error (.breach (.unexpected "SUBSCRIBED" event.kind))) := by
      simp only [Run.handle, confirms, Bool.false_eq_true, if_false]
    simp only [hear, confirms, Bool.false_eq_true, if_false, unconfirmed]
    exact meets_finish run taken _

theorem meets_listen {confirmed : Bool} (moved : run.listen confirmed = some next)
    (taken : List (Router × Status)) :
    (run.loopsAt (.listening confirmed) taken).Meets next := by
  unfold Run.listen at moved
  cases inbox : run.router.link.inbox with
  | nil =>
    simp only [inbox] at moved
    split at moved
    · rename_i gone
      cases moved
      have loses : (run.loopsAt (.listening confirmed) taken).listen confirmed =
          some (run.loopsAt (.listening confirmed) taken).lose := by
        simp only [listen, Run.loopsAt, inbox, gone, if_true]
      refine Meets.serve loses ?_
      rw [lose_loopsAt]
      exact meets_loops _ taken
    · contradiction
  | cons delivery rest =>
    let reading : Run :=
      { run with router := { run.router with link := { run.router.link with inbox := rest } } }
    simp only [inbox] at moved
    cases delivery with
    | event event =>
      cases moved
      have hears : (run.loopsAt (.listening confirmed) taken).listen confirmed =
          some ((reading.loopsAt (.listening confirmed) taken).hear confirmed event) := by
        simp only [listen, Run.loopsAt, inbox]
        rfl
      exact Meets.serve hears (meets_hear reading taken confirmed event)
    | disconnect reason =>
      cases moved
      have loses : (run.loopsAt (.listening confirmed) taken).listen confirmed =
          some (reading.loopsAt (.listening confirmed) taken).lose := by
        simp only [listen, Run.loopsAt, inbox]
        rfl
      refine Meets.serve loses ?_
      rw [lose_loopsAt]
      exact meets_loops _ taken

theorem meets_subscribe (run : Run) (taken : List (Router × Status)) :
    (run.loopsAt .subscribing taken).Meets run.subscribe := by
  cases answer : run.router.subscribe run.identity with
  | mk router result =>
    have same : router.schedule.monitor = run.router.schedule.monitor :=
      (congrArg (·.1.schedule.monitor) answer).symm
    let asked : Run := { run with router := router }
    cases result with
    | ok done =>
      have subscribed : run.subscribe = { asked with phase := .listening false } := by
        simp only [Run.subscribe, answer, asked]
      have serves : (run.loopsAt .subscribing taken).serve =
          some (asked.loopsAt (.listening false) taken) := by
        simp only [serve, Run.loopsAt, answer, asked, same]
      rw [subscribed]
      exact Meets.serve serves (meets_loops { asked with phase := .listening false } taken)
    | error failure =>
      have refused : run.subscribe = asked.lose := by
        simp only [Run.subscribe, answer, asked]
      have serves : (run.loopsAt .subscribing taken).serve =
          some (asked.loopsAt .subscribing taken).lose := by
        simp only [serve, Run.loopsAt, answer, asked, same]
      rw [refused]
      refine Meets.serve serves ?_
      rw [lose_loopsAt]
      exact meets_loops _ taken

theorem meets_cancel (run : Run) (taken : List (Router × Status)) (server : Server)
    (isOpen : server.isOpen = true) (told : run.router.schedule.stopping = true) :
    (run.loopsAt server taken).Meets (run.finish (.ok ())) := by
  refine Meets.after [.cancel] ?_
  have closes : (run.loopsAt server taken).play [.cancel] =
      run.loopsAt (.closing (.ok ())) taken := by
    have told : (run.loopsAt server taken).stopping = true := told
    have isOpen : (run.loopsAt server taken).server.isOpen = true := isOpen
    simp only [play, List.foldl, move, isOpen, told, Bool.and_self, if_true]
    rfl
  rw [closes]
  exact meets_finish run taken (.ok ())

theorem meets_step (moved : run.step = some next) (taken : List (Router × Status)) :
    (run.loops taken).Meets next := by
  unfold Run.step at moved
  cases phase : run.phase with
  | ended result => simp [phase] at moved
  | subscribing =>
    have stands : run.loops taken = run.loopsAt .looking taken := by
      rw [Run.loops, phase]
      rfl
    simp only [phase] at moved
    split at moved
    · rename_i told
      cases moved
      rw [stands]
      exact meets_cancel run taken .looking rfl told
    · rename_i quiet
      cases moved
      rw [stands]
      have goesOn : (run.loopsAt .looking taken).serve = some (run.loopsAt .subscribing taken) :=
        congrArg (fun server => some (run.loopsAt server taken)) (if_neg quiet)
      exact Meets.serve goesOn (meets_subscribe run taken)
  | listening confirmed =>
    have stands : run.loops taken = run.loopsAt (.listening confirmed) taken := by
      rw [Run.loops, phase]
      rfl
    simp only [phase] at moved
    rw [stands]
    split at moved
    · rename_i told
      cases moved
      exact meets_cancel run taken _ rfl told
    · exact meets_listen moved taken
  | pausing due serial =>
    have stands : run.loops taken = run.loopsAt (.pausing due) taken := by
      rw [Run.loops, phase]
      rfl
    simp only [phase] at moved
    rw [stands]
    split at moved
    · rename_i told
      cases moved
      exact meets_cancel run taken _ rfl told
    · contradiction

theorem meets_workFor (run : Run) (fuel : Nat) (taken : List (Router × Status)) :
    (run.loops taken).Meets (run.workFor fuel) := by
  induction fuel generalizing run taken with
  | zero => exact meets_loops run taken
  | succ fuel ih =>
    unfold Run.workFor
    cases moved : run.step with
    | none => exact meets_loops run taken
    | some next => exact (meets_step moved taken).trans fun taken => ih next taken

theorem meets_work (run : Run) (taken : List (Router × Status)) :
    (run.loops taken).Meets run.work :=
  (meets_workFor run run.workload taken).trans fun taken => ⟨[.settle], taken, rfl⟩

theorem meets_onLink (run : Run) (change : Link → Link) (taken : List (Router × Status)) :
    (run.loops taken).Meets (run.onLink change) :=
  Meets.after [.link change]
    (meets_work { run with router := { run.router with link := change run.router.link } } taken)

theorem meets_start (profile : Profile) (groups : List TaskGroup) (mint : Mint) (draws : Draws) :
    (start profile groups mint draws).Meets (Run.start profile groups mint draws) := by
  refine Meets.after [.watch, .watch] ?_
  rw [play_check _ rfl rfl]
  let schedule := Schedule.start (groups.map (·.inRole profile.registration.role)) profile.rules mint
  exact meets_work
    { router :=
        { schedule := { schedule with draws := draws }.watch
          refusal := profile.refusal }
      identity := profile.framework
      reconnect := profile.reconnectBackoff
      teardown := profile.teardown } []

theorem play_comeBack (loops : Loops) (positions : List Nat) :
    loops.play (positions.map .comeBack) =
      loops.withSchedule (positions.foldl Schedule.comeBack loops.schedule) := by
  induction positions generalizing loops with
  | nil => rfl
  | cons position rest ih => exact ih (loops.withSchedule (loops.schedule.comeBack position))

theorem monitor_foldl_comeBack (schedule : Schedule) (positions : List Nat) :
    (positions.foldl Schedule.comeBack schedule).monitor = schedule.monitor := by
  induction positions generalizing schedule with
  | nil => rfl
  | cons position rest ih => exact (ih _).trans (flags_comeBack schedule position).1

theorem withSchedule_loopsAt (run : Run) (server : Server) (taken : List (Router × Status))
    {schedule : Schedule} (same : schedule.monitor = run.router.schedule.monitor) :
    (run.loopsAt server taken).withSchedule schedule =
      { run with router := { run.router with schedule := schedule } }.loopsAt server taken :=
  loopsAt_router run taken { run.router with schedule := schedule } server server same

/-- The run after everything that has become due came back at once. -/
theorem meets_arriveAll (run : Run) (milliseconds : Nat) (taken : List (Router × Status)) :
    let passed := run.router.schedule.pass milliseconds
    (run.loops taken).Meets
      ({ run with router := { run.router with schedule := passed.dropDue } }.arriveAll
        passed.due) := by
  intro passed
  obtain ⟨positions, arrived⟩ := comeBack_of_perm (due_perm passed)
  rw [← dropDue_eq] at arrived
  refine Meets.after (.pass milliseconds :: positions.map .comeBack) ⟨[], taken, ?_⟩
  show ((run.loops taken).withSchedule passed).play (positions.map .comeBack) = _
  rw [play_comeBack]
  have same : (positions.foldl Schedule.comeBack passed).monitor = run.router.schedule.monitor :=
    monitor_foldl_comeBack passed positions
  refine (withSchedule_loopsAt run run.phase.server taken same).trans ?_
  rw [arrived]
  rfl

theorem meets_advance (run : Run) (milliseconds : Nat) (taken : List (Router × Status)) :
    (run.loops taken).Meets (run.advance milliseconds) := by
  let passed := run.router.schedule.pass milliseconds
  have whole := (meets_arriveAll run milliseconds taken).trans fun taken => meets_work _ taken
  cases phase : run.phase with
  | pausing time serial =>
    by_cases due : time ≤ passed.now
    · -- What was due before the pause ended comes back and settles first, and the rest after it.
      let isEarlier (delayed : Delayed) : Bool :=
        decide (delayed.due < time ∨ delayed.due = time ∧ delayed.serial < serial)
      obtain ⟨first, second, arrived⟩ := passed.comeBack_in_parts isEarlier
      let returned := second.foldl Schedule.comeBack (first.foldl Schedule.comeBack passed).settle
      let waking : Run :=
        { run with router := { run.router with schedule := passed }, phase := .subscribing }
      let woken : Run := { waking with router := { run.router with schedule := returned } }
      have advanced : run.advance milliseconds = woken.work := by
        simp only [Run.advance, phase]
        rw [if_pos due]
        simp only [woken, returned, arrived]
        rfl
      have stands : run.loops taken = run.loopsAt (.pausing time) taken := by
        rw [Run.loops, phase]
        rfl
      have serves : ((run.loopsAt (.pausing time) taken).withSchedule passed).serve =
          some (waking.loops taken) := if_pos due
      have same : returned.monitor = passed.monitor := by
        refine (monitor_foldl_comeBack _ second).trans ?_
        exact monitor_foldl_comeBack passed first
      have returns : (waking.loops taken).play
          (first.map .comeBack ++ (.settle :: second.map .comeBack)) = woken.loops taken := by
        rw [play_append, play_comeBack]
        show ((waking.loops taken).withSchedule (first.foldl Schedule.comeBack passed).settle).play
          (second.map .comeBack) = _
        rw [play_comeBack]
        exact withSchedule_loopsAt waking .looking taken same
      rw [stands, advanced]
      refine Meets.after [.pass milliseconds] (Meets.serve serves ?_)
      refine Meets.after (first.map .comeBack ++ (.settle :: second.map .comeBack)) ?_
      rw [returns]
      exact meets_work woken taken
    · have advanced : run.advance milliseconds =
          ({ run with router := { run.router with schedule := passed.dropDue } }.arriveAll
            passed.due).work := by
        simp only [Run.advance, phase]
        exact if_neg due
      rw [advanced]
      exact whole
  | _ =>
    have advanced : run.advance milliseconds =
        ({ run with router := { run.router with schedule := passed.dropDue } }.arriveAll
          passed.due).work := by
      simp only [Run.advance, phase, passed]
    rw [advanced]
    exact whole

end Loops

/-- What happens to a run from outside. -/
inductive Incident where
  | link (change : Link → Link)
  | advance (milliseconds : Nat)

namespace Run

def undergo (run : Run) : Incident → Run
  | .link change => run.onLink change
  | .advance milliseconds => run.advance milliseconds

def undergoAll (run : Run) (incidents : List Incident) : Run :=
  incidents.foldl undergo run

end Run

namespace Loops

theorem meets_undergo (run : Run) (incident : Incident) (taken : List (Router × Status)) :
    (run.loops taken).Meets (run.undergo incident) := by
  cases incident with
  | link change => exact meets_onLink run change taken
  | advance milliseconds => exact meets_advance run milliseconds taken

theorem meets_undergoAll (run : Run) (incidents : List Incident) (taken : List (Router × Status)) :
    (run.loops taken).Meets (run.undergoAll incidents) := by
  induction incidents generalizing run taken with
  | nil => exact meets_loops run taken
  | cons incident rest ih => exact (meets_undergo run incident taken).trans fun taken => ih _ taken

theorem result_joined {run : Run} {result : Except Failure Unit} (taken : List (Router × Status))
    (ends : run.result? = some result) :
    ((run.loops taken).play [.joinServer, .joinWatcher]).result? = some result := by
  unfold Run.result? at ends
  split at ends
  · rename_i watch events monitor phase
    cases ends
    have served : (run.loops taken).server = .left events := congrArg Phase.server phase
    have watched : (run.loops taken).watcher = .left watch := congrArg Monitor.watcher monitor
    generalize run.loops taken = loops at served watched
    obtain ⟨router, identity, reconnect, teardown, attempt, server, watcher, box⟩ := loops
    subst served watched
    rfl
  · contradiction

/-- However the two loops make their moves, a run succeeds only if all tasks had finished when its
watch stopped. If the watch stopped because of a task, this is the result of the run, and the run
comes to it. A run makes the moves in one of the possible ways. -/
theorem verdict_play (profile : Profile) (groups : List TaskGroup) (mint : Mint) (draws : Draws) :
    (∀ moves later,
      let stopped := (start profile groups mint draws).play moves
      let last := stopped.play later
      (stopped.watcher.result?.isSome = true → last.result? = some (.ok ()) →
        stopped.Finished (groups.map (·.inRole profile.registration.role))) ∧
      ∀ failure, stopped.watcher = .left (.error failure) → failure.isTaskFailure = true →
        (∀ result, last.result? = some result → result = .error failure) ∧
          (last.play leave).result? = some (.error failure)) ∧
    ∀ incidents, ∃ moves,
      let run := (Run.start profile groups mint draws).undergoAll incidents
      let last := (start profile groups mint draws).play moves
      last.router = run.router ∧ ∀ result, run.result? = some result →
        (last.play [.joinServer, .joinWatcher]).result? = some result := by
  constructor
  · intro moves later stopped last
    have sound : Sound (groups.map (·.inRole profile.registration.role)) stopped :=
      sound_play (sound_start profile groups mint draws) moves
    refine ⟨sound.finished_of_success, fun failure left taskFailed => ?_⟩
    have stays : last.watcher = .left (.error failure) := left_play left later
    refine ⟨fun result => result_of_failure stays taskFailed, ?_⟩
    obtain ⟨events, ended⟩ := result_leave stays
    rw [ended, verdict_of_failure taskFailed]
  · intro incidents
    obtain ⟨moves, taken, met⟩ := (meets_start profile groups mint draws).trans
      (meets_undergoAll (Run.start profile groups mint draws) incidents)
    refine ⟨moves, ?_⟩
    rw [met]
    exact ⟨rfl, fun result ends => result_joined taken ends⟩

/-- A task is launched and finishes, or it is launched and fails. -/
theorem verdict_web :
    let group : TaskGroup :=
      { tasks := [{ name := "web", id := .stamped 0, resources := [.ranges "ports" [⟨80, 80⟩]] }]
        networks := []
        executor := { id := .stamped 1 }
        hasTask := by simp }
    let offer : Offer :=
      { id := ⟨"offer", by decide⟩
        agent := ⟨"agent", by decide⟩
        resources := [.ranges "ports" [⟨80, 90⟩]] }
    let moves (state : TaskState) : List Move :=
      [.watch, .link fun link => { link with inbox :=
        [.event (.subscribed ⟨"framework", by decide⟩ none none), .event (.offers [offer]),
          .event (.update { task := .stamped 3, state := state })] },
        .serve, .serve, .serve, .serve, .serve, .serve, .serve, .serve, .serve, .serve, .take,
        .watch, .watch]
    let profile : Profile := {}
    let finished := (start profile [group] ⟨2⟩ .middle).play (moves .finished)
    let failed := (start profile [group] ⟨2⟩ .middle).play (moves .failed)
    (finished.play leave).result? = some (.ok ()) ∧
      finished.Finished [group.inRole profile.registration.role] ∧ finished.Fair ∧
      ((failed.play [.serve]).play leave).result? =
        some (.error (.terminal (.stamped 3) .failed "")) := by
  refine ⟨by decide +kernel, ?_, by decide +kernel, ?_⟩
  · exact ((verdict_play {} [_] ⟨2⟩ .middle).1 _ leave).1 (by decide +kernel) (by decide +kernel)
  · exact (((verdict_play {} [_] ⟨2⟩ .middle).1 _ [.serve]).2 _ (by decide +kernel) rfl).2

/-- A run that succeeds while a relaunch is queued. The task that is to be launched again was reported
as finished, under an identity that the master was never given. -/
theorem success_while_queued :
    let group : TaskGroup :=
      { tasks := [{ name := "web", id := .stamped 0, resources := [.ranges "ports" [⟨80, 80⟩]] }]
        networks := []
        executor := { id := .stamped 1 }
        hasTask := by simp }
    let offer : Offer :=
      { id := ⟨"offer", by decide⟩
        agent := ⟨"agent", by decide⟩
        resources := [.ranges "ports" [⟨80, 90⟩]] }
    let inbox : List Event :=
      [.subscribed ⟨"framework", by decide⟩ none none, .offers [offer],
        .update { task := .stamped 3, state := .failed },
        .update { task := .stamped 5, state := .finished }]
    let moves : List Move :=
      [.watch, .link fun link => { link with inbox := inbox.map .event }] ++
        List.replicate 10 .serve ++ [.take, .watch] ++ List.replicate 4 .serve ++
        [.take, .watch, .watch]
    let stopped := (start { restart := .onFailure } [group] ⟨2⟩ .middle).play moves
    (stopped.play leave).result? = some (.ok ()) ∧ stopped.watcher.result? = some (.ok ()) ∧
      stopped.schedule.roster.finished = true ∧
      stopped.schedule.queued.map (·.taskIds) = [[.stamped 5]] := by
  decide +kernel

end Loops
end Convoy
