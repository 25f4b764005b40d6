import Convoy.Proofs.Schedule.Doubles
import Convoy.Proofs.Schedule.Strays

/-!
# When the watch returns

A watch that nothing tells to stop returns with the report by which all tasks are known to have
finished, and neither before nor without it, unless a report ended it with a failure. Where groups
are started again whatever became of them, it never returns like this. As long as no report finishes
or restarts a group that waits to be launched, none waits any more when it does.
-/
namespace Convoy

namespace Schedule

variable {schedule : Schedule}

/-- Between reports, a watch that nothing tells to stop returns if all tasks finished. -/
theorem monitor_check (watching : schedule.monitor = .watching)
    (calm : schedule.stopping = false) :
    schedule.check.monitor =
      if schedule.check.roster.finished then .stopped (.ok ()) else .watching := by
  by_cases finished : schedule.roster.finished = true
  · simp [check, watching, finished, stopWith]
  · simp [check, watching, finished, calm]

end Schedule

namespace Course

open Schedule

variable {course first : Course} {groups : List TaskGroup}

/-- Every task of every group's present attempt last reported that it finished. -/
def Completed (course : Course) : Prop :=
  ∀ tracked ∈ course.schedule.roster.tracked, ∀ task ∈ tracked.group.taskIds,
    lastHeard course.heard task = some .finished

/-- The course after some acts under a watch that nothing tells to stop. -/
def attend (course : Course) (acts : List Act) : Course :=
  course.proceedAll (acts.map .act)

theorem attend_append (before after : List Act) :
    course.attend (before ++ after) = (course.attend before).attend after := by
  rw [attend, List.map_append, proceedAll_append]
  rfl

theorem schedule_heed (course : Course) (answer : Except Failure Unit) :
    (course.heed answer).schedule = match answer with
      | .ok () => course.schedule.check
      | .error failure => course.schedule.stopWith (.error failure) := by
  cases answer <;> rfl

/-- The watch does with a report what it does in a schedule. -/
theorem inform_settle (course : Course) (status : Status) :
    ((course.perform .settle).inform status course.schedule.pause).schedule =
      course.schedule.update status := by
  by_cases watching : (course.perform .settle).schedule.monitor = .watching
  · have settled : course.schedule.settle.monitor = .watching := watching
    rw [inform_watching watching, schedule_heed]
    simp only [update, settled]
    show (match (course.schedule.settle.apply status).2 with
      | .ok () => (course.schedule.settle.apply status).1.check
      | .error failure => (course.schedule.settle.apply status).1.stopWith (.error failure)) = _
    rcases course.schedule.settle.apply status with ⟨after, result⟩
    cases result <;> rfl
  · rw [inform_ended watching]
    unfold update
    dsimp only
    split
    · contradiction
    · rfl

/-- The watch is at work or has ended, and it has returned if and only if all tasks finished. -/
structure Prompt (groups : List TaskGroup) (course : Course) : Prop where
  known : course.Known groups
  alert : course.Alert
  awake : course.schedule.monitor ≠ .idle
  exact : course.schedule.monitor = .stopped (.ok ()) ↔ course.schedule.roster.finished = true

/-- A report that is answered by a failure finishes nothing: a relaunch for which there is no room
came before the failure, and its tasks are starting. -/
theorem Known.unfinished_of_error (known : course.Known groups) {status : Status}
    {pause : Nat → Nat} {failure : Failure}
    (failed : course.answer (.report status pause) = .error failure)
    (unfinished : course.schedule.roster.finished = false) :
    (course.perform (.report status pause)).schedule.roster.finished = false := by
  have later := known_perform known (.report status pause)
  have applies := applies_applyWith course.schedule pause status
  unfold Course.answer at failed
  unfold perform at later ⊢
  dsimp only at failed later ⊢
  generalize course.schedule.applyWith pause status = answer at applies failed later
  cases applies with
  | spent | fatal => exact unfinished
  | @relaunched index tracked owner found restarts allowed _ requeues =>
      obtain ⟨roster, -⟩ := roster_requeues requeues
      have member := List.mem_of_getElem? (tracked_requeues found requeues)
      rw [← Bool.not_eq_true, Roster.finished_iff later.coherent]
      intro all
      refine Roster.not_done_of_starting (fun task present => ?_) (all _ member)
      show answer.1.roster.state? task = some .starting
      rw [roster, renewed, Roster.state?_relaunch, if_pos present]
  | _ => contradiction

theorem monitor_watched (groups : List TaskGroup) (rules : Rules) (mint : Mint) :
    (watched groups rules mint).schedule.monitor =
      if (watched groups rules mint).schedule.roster.finished then .stopped (.ok ())
      else .watching :=
  monitor_check rfl rfl

theorem watched_sound (groups : List TaskGroup) (rules : Rules) (mint : Mint) (failure : Failure) :
    (watched groups rules mint).schedule.monitor ≠ .stopped (.error failure) := by
  rw [monitor_watched]
  split <;> nofun

theorem decided_of_monitor {schedule : Schedule}
    (monitor : schedule.monitor =
      if schedule.roster.finished then .stopped (.ok ()) else .watching) :
    schedule.monitor ≠ .idle ∧
      (schedule.monitor = .stopped (.ok ()) ↔ schedule.roster.finished = true) := by
  rw [monitor]
  split
  · rename_i finished
    exact ⟨nofun, iff_of_true rfl finished⟩
  · rename_i unfinished
    exact ⟨nofun, iff_of_false nofun unfinished⟩

theorem prompt_watched (groups : List TaskGroup) (rules : Rules) (mint : Mint) :
    (watched groups rules mint).Prompt groups :=
  have decided := decided_of_monitor (monitor_watched groups rules mint)
  ⟨known_watched groups rules mint, alert_watched groups rules mint, decided.1, decided.2⟩

namespace Prompt

theorem quiet {act : Act} (prompt : course.Prompt groups) (quiet : act.IsQuiet) :
    (course.perform act).Prompt groups := by
  obtain ⟨monitor, -⟩ := course.flags_perform act
  have roster := (course.quiet_perform act quiet.ne_report).roster
  refine ⟨known_perform prompt.known act, prompt.alert.quiet quiet, ?_, ?_⟩
  · rw [monitor]
    exact prompt.awake
  · rw [monitor, roster]
    exact prompt.exact

theorem inform (prompt : course.Prompt groups) (status : Status) (pause : Nat → Nat) :
    (course.inform status pause).Prompt groups := by
  have known := known_proceed prompt.known (.act (.report status pause))
  have alert := prompt.alert.inform status pause
  suffices decided : (course.inform status pause).schedule.monitor ≠ .idle ∧
      ((course.inform status pause).schedule.monitor = .stopped (.ok ()) ↔
        (course.inform status pause).schedule.roster.finished = true) from
    ⟨known, alert, decided.1, decided.2⟩
  by_cases watching : course.schedule.monitor = .watching
  · rw [inform_watching watching]
    obtain ⟨unfinished, calm⟩ := prompt.alert watching
    obtain ⟨monitor, stopping⟩ := course.flags_perform (.report status pause)
    cases answer : course.answer (.report status pause) with
    | ok done =>
        exact decided_of_monitor (monitor_check (monitor.trans watching) (stopping.trans calm))
    | error failure =>
        have still := prompt.known.unfinished_of_error answer unfinished
        exact ⟨nofun, iff_of_false nofun (by simpa [heed, stopWith] using still)⟩
  · rw [inform_ended watching]
    exact ⟨prompt.awake, prompt.exact⟩

theorem proceed (prompt : course.Prompt groups) (act : Act) :
    (course.proceed (.act act)).Prompt groups := by
  rcases act.report_or_quiet with ⟨status, pause, rfl⟩ | quiet
  · exact prompt.inform status pause
  · rw [proceed_quiet quiet]
    exact prompt.quiet quiet

theorem attend (prompt : course.Prompt groups) (acts : List Act) :
    (course.attend acts).Prompt groups := by
  induction acts generalizing course with
  | nil => exact prompt
  | cons act rest ih => exact ih (prompt.proceed act)

theorem returned_iff (prompt : course.Prompt groups) :
    course.schedule.monitor = .stopped (.ok ()) ↔ course.Completed :=
  prompt.exact.trans prompt.known.exact.finished

end Prompt
/-- What does not hold at first and holds in the end came about by one of the acts. -/
theorem switched {motive : Course → Prop} {acts : List Act} (ends : motive (course.attend acts))
    (begins : ¬ motive course) :
    ∃ before act later, acts = before ++ act :: later ∧ ¬ motive (course.attend before) ∧
      motive ((course.attend before).proceed (.act act)) := by
  induction acts generalizing course with
  | nil => contradiction
  | cons act rest ih =>
      by_cases now : motive (course.proceed (.act act))
      · exact ⟨[], act, rest, rfl, begins, now⟩
      · obtain ⟨before, other, later, rfl, still, switches⟩ := ih ends now
        exact ⟨act :: before, other, later, rfl, still, switches⟩

theorem completed_quiet {act : Act} (quiet : act.IsQuiet) :
    (course.perform act).Completed ↔ course.Completed := by
  have same := course.quiet_perform act quiet.ne_report
  rw [Completed, same.roster, same.heard, Completed]

theorem inform_failed {status : Status} {pause : Nat → Nat} {failure : Failure}
    (before : course.schedule.monitor ≠ .stopped (.error failure))
    (failed : (course.inform status pause).schedule.monitor = .stopped (.error failure)) :
    course.schedule.monitor = .watching ∧
      course.answer (.report status pause) = .error failure := by
  by_cases watching : course.schedule.monitor = .watching
  · refine ⟨watching, ?_⟩
    rw [inform_watching watching, schedule_heed] at failed
    cases answer : course.answer (.report status pause) with
    | error other =>
        rw [answer] at failed
        cases failed
        rfl
    | ok done =>
        simp only [answer, check, (flags_perform course _).1, watching] at failed
        split at failed
        · exact absurd failed nofun
        · rw [(flags_perform course _).1, watching] at failed
          contradiction
  · rw [inform_ended watching] at failed
    contradiction

namespace Prompt

variable {acts : List Act}

theorem stays (prompt : course.Prompt groups) (completed : course.Completed) (later : List Act) :
    (course.attend later).Completed := by
  induction later generalizing course with
  | nil => exact completed
  | cons act rest ih =>
      refine ih (prompt.proceed act) ?_
      rcases act.report_or_quiet with ⟨status, pause, rfl⟩ | quiet
      · have returned := prompt.returned_iff.mpr completed
        have ended : course.schedule.monitor ≠ .watching := by
          rw [returned]
          nofun
        show (course.inform status pause).Completed
        rw [inform_ended ended]
        exact completed
      · rw [proceed_quiet quiet]
        exact (completed_quiet quiet).mpr completed

/-- Only a report completes a run. -/
theorem completed_by_report (incomplete : ¬ course.Completed)
    (completed : (course.attend acts).Completed) :
    ∃ before status pause later, acts = before ++ .report status pause :: later ∧
      ¬ (course.attend before).Completed ∧
      (course.attend (before ++ [.report status pause])).Completed := by
  obtain ⟨before, act, later, rfl, still, now⟩ := switched completed incomplete
  rcases act.report_or_quiet with ⟨status, pause, rfl⟩ | quiet
  · refine ⟨before, status, pause, later, rfl, still, ?_⟩
    rw [attend_append]
    exact now
  · rw [proceed_quiet quiet] at now
    exact absurd ((completed_quiet quiet).mp now) still

/-- The watch ends with a failure only where a report that it takes in is answered by it. -/
theorem failed_by_report {failure : Failure}
    (sound : course.schedule.monitor ≠ .stopped (.error failure))
    (failed : (course.attend acts).schedule.monitor = .stopped (.error failure)) :
    ∃ before status pause later, acts = before ++ .report status pause :: later ∧
      (course.attend before).schedule.monitor = .watching ∧
      (course.attend before).answer (.report status pause) = .error failure := by
  obtain ⟨before, act, later, rfl, still, now⟩ := switched
    (motive := fun course => course.schedule.monitor = .stopped (.error failure)) failed sound
  rcases act.report_or_quiet with ⟨status, pause, rfl⟩ | quiet
  · exact ⟨before, status, pause, later, rfl, inform_failed still now⟩
  · rw [proceed_quiet quiet, (flags_perform _ act).1] at now
    contradiction

end Prompt

/-- Every act keeps a rule at the time at which it comes, under a watch. -/
def ObeysWatched (rule : Course → Act → Prop) : Course → List Act → Prop
  | _, [] => True
  | course, act :: rest =>
    rule course act ∧ ObeysWatched rule (course.proceed (.act act)) rest

variable {motive : Course → Prop} {fair : Course → Status → Prop}

theorem KeptAside.attend (kept : KeptAside motive fair) (now : motive course)
    {rule : Course → Act → Prop} {acts : List Act} (obeys : course.ObeysWatched rule acts)
    (fairly : ∀ course status pause, motive course → rule course (.report status pause) →
      fair course status) : motive (course.attend acts) := by
  induction acts generalizing course with
  | nil => exact now
  | cons act rest ih =>
      refine ih (kept.proceed now (.act act) ?_) obeys.2
      rintro status pause ⟨⟩
      exact fairly course status pause now obeys.1

/-- Finishing is final, under certain rules. -/
structure FinalUnder (rules : Rules) (course : Course) : Prop where
  final : course.Final
  rules : course.schedule.rules = rules

theorem finalUnder_kept (rules : Rules) : KeptAside (FinalUnder rules) fun _ _ => True where
  quiet course act under _ :=
    ⟨final_perform under.final act, (course.fixed_perform act).rules.trans under.rules⟩
  report course _ _ under _ :=
    ⟨final_perform under.final _, (course.fixed_perform _).rules.trans under.rules⟩
  aside _ _ _ _ _ under := ⟨under.final, under.rules⟩

theorem obeysWatched_trivial (course : Course) (acts : List Act) :
    course.ObeysWatched (fun _ _ => True) acts := by
  induction acts generalizing course with
  | nil => trivial
  | cons act rest ih => exact ⟨trivial, ih _⟩

/-- Where groups are started again whatever became of them, a run of some groups never completes. -/
theorem FinalUnder.incomplete {rules : Rules} (under : course.FinalUnder rules)
    (known : course.Known groups) (always : rules.restart = .always) (some : groups ≠ []) :
    ¬ course.Completed := by
  intro completed
  obtain ⟨tracked, member⟩ : ∃ tracked, tracked ∈ course.schedule.roster.tracked := by
    refine List.exists_mem_of_length_pos ?_
    rw [known.tracks.size]
    exact List.length_pos_iff.mpr some
  obtain ⟨task, present⟩ := List.exists_mem_of_ne_nil _ tracked.group.taskIds_ne_nil
  have done := (known.done_iff member).mpr (completed tracked member)
  have final := under.final task (done task present)
  rw [under.rules, always] at final
  contradiction

/-- No report says of a group that waits that one of its tasks finished, or starts it again. Other
reports may name any task. -/
def Heedful (course : Course) : Act → Prop
  | .report status _ =>
    status.state = .finished ∨
        course.schedule.rules.restart.restarts status.state.outcome = true →
      course.Spares status
  | _ => True

/-- Every group is in one place, and no task of a group that waits is known to have finished. -/
structure Unfinished (groups : List TaskGroup) (course : Course) : Prop where
  owned : course.Owned groups
  waiting : ∀ group ∈ course.waiting, ∀ task ∈ group.taskIds,
    course.schedule.roster.state? task ≠ some .finished

theorem Unfinished.report (unfinished : course.Unfinished groups) {status : Status}
    {pause : Nat → Nat} (heedful : course.Heedful (.report status pause)) :
    (course.perform (.report status pause)).Unfinished groups := by
  have owned := unfinished.owned
  have restrained : course.Restrained (.report status pause) := fun again => heedful (.inr again)
  refine ⟨owned.perform_restrained restrained, ?_⟩
  have performs := course.performs_perform (.report status pause)
  generalize course.perform (.report status pause) = after at performs
  cases performs with
  | nothing => exact unfinished.waiting
  | reported applies =>
      cases applies with
      | recorded owner final sound =>
          intro group waits task present
          show (course.schedule.roster.report status.task status.state).state? task ≠ _
          rw [Roster.state?_report]
          split
          · rename_i same
            subst same
            exact fun finished => heedful (.inl (Option.some.inj finished)) group waits present
          · exact unfinished.waiting group waits task present
      | relaunched owner found restarts allowed requeues =>
          intro group waits task present
          have fair := owned.fair_of_restrained restrained restarts
          rcases owned.state?_relaunched fair owner found requeues waits present with
            starting | ⟨before, same⟩
          · exact fun finished => nomatch starting.symm.trans finished
          · exact fun finished =>
              unfinished.waiting group before task present (same.symm.trans finished)
      | _ => exact unfinished.waiting

theorem unfinished_kept (groups : List TaskGroup) :
    KeptAside (Unfinished groups) fun course status =>
      course.Heedful (.report status fun _ => 0) where
  quiet course act unfinished silent := by
    have restrained : course.Restrained act := by
      cases act with
      | report status pause => exact silent.elim
      | _ => trivial
    refine ⟨unfinished.owned.perform_restrained restrained, fun group waits task present => ?_⟩
    rw [(course.quiet_perform act silent.ne_report).roster]
    exact unfinished.waiting group (unfinished.owned.waiting_quiet silent waits) task present
  report _ _ _ unfinished heedful := unfinished.report heedful
  aside _ monitor stopping serials draws unfinished :=
    ⟨unfinished.owned.aside monitor stopping serials draws, unfinished.waiting⟩

theorem unfinished_start (groups : List TaskGroup) (rules : Rules) (mint : Mint) :
    (start groups rules mint).Unfinished groups := by
  have whole := whole_start groups rules mint
  refine ⟨whole.owned, fun group waits task present => ?_⟩
  rw [whole.resting group waits task present]
  nofun

theorem completed_watched_iff (groups : List TaskGroup) (rules : Rules) (mint : Mint) :
    (watched groups rules mint).Completed ↔ groups = [] := by
  have size := (known_watched groups rules mint).tracks.size
  constructor
  · intro completed
    refine List.eq_nil_of_length_eq_zero (size ▸ ?_)
    refine List.length_eq_zero_iff.mpr (List.eq_nil_iff_forall_not_mem.mpr fun tracked member => ?_)
    obtain ⟨task, present⟩ := List.exists_mem_of_ne_nil _ tracked.group.taskIds_ne_nil
    have heard : lastHeard [] task = some .finished := completed tracked member task present
    contradiction
  · rintro rfl tracked member
    rw [List.eq_nil_of_length_eq_zero size] at member
    contradiction

/-- When a watch that nothing tells to stop returns. -/
structure Completes (groups : List TaskGroup) (rules : Rules) (first : Course) (acts : List Act) :
    Prop where
  /-- It returns when all tasks finished, and not before. -/
  exact : (first.attend acts).schedule.monitor = .stopped (.ok ()) ↔ (first.attend acts).Completed
  /-- It returns at once if there is nothing to do, and else with the report that completes the run. -/
  prompt : (first.attend acts).Completed →
    groups = [] ∨ ∃ before status pause later, acts = before ++ .report status pause :: later ∧
      ¬ (first.attend before).Completed ∧
      (first.attend (before ++ [.report status pause])).Completed
  nothingToDo : groups = [] → first.Completed
  stays : (first.attend acts).Completed → ∀ later, (first.attend (acts ++ later)).Completed
  /-- Until then it goes on, unless a report that it took in was answered by a failure. -/
  otherwise : ¬ (first.attend acts).Completed →
    (first.attend acts).schedule.monitor = .watching ∨
      ∃ failure before status pause later, acts = before ++ .report status pause :: later ∧
        (first.attend before).schedule.monitor = .watching ∧
        (first.attend before).answer (.report status pause) = .error failure ∧
        (first.attend acts).schedule.monitor = .stopped (.error failure)
  always : rules.restart = .always → groups ≠ [] → ¬ (first.attend acts).Completed
  nothingWaits : first.ObeysWatched Heedful acts → (first.attend acts).Completed →
    (first.attend acts).waiting = []

theorem completes_attend (groups : List TaskGroup) (rules : Rules) (mint : Mint) (acts : List Act) :
    Completes groups rules (watched groups rules mint) acts := by
  have first := prompt_watched groups rules mint
  have last := first.attend acts
  constructor
  case exact => exact last.returned_iff
  case prompt =>
    intro completed
    refine or_iff_not_imp_left.mpr fun some => Prompt.completed_by_report ?_ completed
    rwa [completed_watched_iff]
  case nothingToDo => exact (completed_watched_iff groups rules mint).mpr
  case stays =>
    intro completed later
    rw [attend_append]
    exact last.stays completed later
  case otherwise =>
    intro incomplete
    cases monitor : ((watched groups rules mint).attend acts).schedule.monitor with
    | idle => exact absurd monitor last.awake
    | watching => exact .inl rfl
    | stopped result =>
        cases result with
        | ok done => exact absurd (last.returned_iff.mp monitor) incomplete
        | error failure =>
            obtain ⟨before, status, pause, later, split, running, failed⟩ :=
              Prompt.failed_by_report (watched_sound groups rules mint failure) monitor
            exact .inr ⟨failure, before, status, pause, later, split, running, failed, rfl⟩
  case always =>
    intro always some
    have start : FinalUnder rules (start groups rules mint) := ⟨final_start groups rules mint, rfl⟩
    have under := (finalUnder_kept rules).attend ((finalUnder_kept rules).watched start)
      (obeysWatched_trivial _ acts) fun _ _ _ _ _ => trivial
    exact under.incomplete last.known always some
  case nothingWaits =>
    intro heedful completed
    have kept := unfinished_kept groups
    have unfinished := kept.attend (kept.watched (unfinished_start groups rules mint)) heedful
      fun _ _ _ _ heedful => heedful
    exact unfinished.owned.waiting_eq_nil unfinished.waiting
      (last.known.exact.finished.mpr completed)

/-- A group is handed out and handed back. Then a report says that its task finished, and the watch
returns while the group waits. -/
theorem completes_while_waiting :
    let group : TaskGroup :=
      { tasks := [{ name := "a", id := .stamped 0 }]
        networks := []
        executor := { id := .stamped 1 }
        hasTask := by simp }
    let finished : Status := { task := .stamped 3, state := .finished }
    let course := (watched [group] {} ⟨2⟩).attend
      [.pop, .append 0, .report finished fun _ => 0]
    course.schedule.monitor = .stopped (.ok ()) ∧ course.schedule.pending.items.length = 1 :=
  ⟨rfl, rfl⟩

end Course
end Convoy
