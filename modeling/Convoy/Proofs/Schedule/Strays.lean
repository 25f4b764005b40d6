import Convoy.Proofs.Schedule.Account

/-!
# Reports on tasks that are gone

A relaunch strikes every task of its group, and a task that was struck is never enrolled again. So a
report on a task that is unknown, or whose group was restarted since, says nothing. Such reports can
be strewn into a run at any place and in any number: every group is handed out as it would be
without them, every act gets the same answer, and the run is left in the same state.
-/
namespace Convoy

open Schedule

/-- A step of a course under the watch. Reports are handed to the watch, and it may be told to stop. -/
inductive Step where
  | act (act : Act)
  | stop

/-- A step of a run, or a report that is strewn in between. -/
inductive Beat where
  | regular (step : Step)
  | stray (status : Status) (pause : Nat → Nat)

namespace Beat

def toStep : Beat → Step
  | .regular step => step
  | .stray status pause => .act (.report status pause)

def isRegular : Beat → Bool
  | .regular _ => true
  | .stray _ _ => false

end Beat

namespace Course

/-- A course whose watch has begun. -/
def watched (groups : List TaskGroup) (rules : Rules) (mint : Mint) : Course :=
  { schedule := (Schedule.start groups rules mint).watch }

/-- The course once the watch knows what a report is answered. -/
def heed (course : Course) : Except Failure Unit → Course
  | .ok () => { course with schedule := course.schedule.check }
  | .error failure => { course with schedule := course.schedule.stopWith (.error failure) }

/-- The course after a report to the watch. A watch that has ended takes none. -/
def inform (course : Course) (status : Status) (pause : Nat → Nat) : Course :=
  match course.schedule.monitor with
  | .watching =>
    (course.perform (.report status pause)).heed (course.answer (.report status pause))
  | _ => course

def proceed (course : Course) : Step → Course
  | .act (.report status pause) => course.inform status pause
  | .act act => course.perform act
  | .stop => { course with schedule := course.schedule.stop }

def proceedAll (course : Course) (steps : List Step) : Course :=
  steps.foldl proceed course

/-- What can be seen of a step: the group that it hands out, and the answer that it gets. -/
def shows (course : Course) : Step → Option TaskGroup × Except Failure Unit
  | .act .pop => (course.schedule.pop.map (·.1), .ok ())
  | .act act => (none, course.answer act)
  | .stop => (none, .ok ())

/-- What can be seen of a run, strays left out. -/
def shown (course : Course) : List Beat → List (Option TaskGroup × Except Failure Unit)
  | [] => []
  | .regular step :: rest => course.shows step :: (course.proceed step).shown rest
  | .stray status pause :: rest => (course.inform status pause).shown rest

/-- The group of a task was restarted between two states. -/
def Restarted (task : TaskId) (before after : Course) : Prop :=
  ∃ (index : Nat) (old new : Tracked), before.schedule.roster.tracked[index]? = some old ∧
    after.schedule.roster.tracked[index]? = some new ∧ old.restarts < new.restarts ∧
      task ∈ old.group.taskIds

/-- After some steps the task is unknown, or one of them restarted its group. -/
inductive Gone (first : Course) (done : List Step) (task : TaskId) : Prop where
  | unknown (absent : (first.proceedAll done).schedule.roster.owner? task = none)
  | purged {before later : List Step} {step : Step} (split : done = before ++ step :: later)
      (restarted : Restarted task (first.proceedAll before)
        ((first.proceedAll before).proceed step))

/-- What is strewn in after some steps is on tasks that are gone by then. -/
def Strewn (first : Course) : List Step → List Beat → Prop
  | _, [] => True
  | done, .regular step :: rest => Strewn first (done ++ [step]) rest
  | done, .stray status pause :: rest =>
    Gone first done status.task ∧ Strewn first (done ++ [.act (.report status pause)]) rest

variable {course first : Course} {groups : List TaskGroup} {task : TaskId}

theorem proceedAll_append (before after : List Step) :
    course.proceedAll (before ++ after) = (course.proceedAll before).proceedAll after :=
  List.foldl_append

/-- What a step makes of a course, but for the flags of the watch. -/
inductive Proceeds (course : Course) : Course → Prop where
  | performed (act : Act) (monitor : Monitor) (stopping : Bool) :
      Proceeds course
        ((course.perform act).aside monitor stopping (course.perform act).schedule.serials
          (course.perform act).schedule.draws)
  | idle (monitor : Monitor) (stopping : Bool) :
      Proceeds course (course.aside monitor stopping course.schedule.serials course.schedule.draws)

theorem proceed_quiet {act : Act} (quiet : act.IsQuiet) :
    course.proceed (.act act) = course.perform act := by
  cases act with
  | report status pause => exact quiet.elim
  | _ => rfl

theorem proceeds_perform (course : Course) (act : Act) : Proceeds course (course.perform act) :=
  .performed act (course.perform act).schedule.monitor (course.perform act).schedule.stopping

theorem check_eq_aside (course : Course) :
    ∃ monitor stopping, { course with schedule := course.schedule.check } =
      course.aside monitor stopping course.schedule.serials course.schedule.draws := by
  unfold Schedule.check
  split
  · split
    · exact ⟨_, _, rfl⟩
    · exact ⟨course.schedule.monitor, course.schedule.stopping, rfl⟩
  · exact ⟨course.schedule.monitor, course.schedule.stopping, rfl⟩

theorem heed_eq_aside (course : Course) (answer : Except Failure Unit) :
    ∃ monitor stopping, course.heed answer =
      course.aside monitor stopping course.schedule.serials course.schedule.draws := by
  cases answer with
  | ok done => exact course.check_eq_aside
  | error failure => exact ⟨_, _, rfl⟩

theorem proceeds_inform (course : Course) (status : Status) (pause : Nat → Nat) :
    Proceeds course (course.inform status pause) := by
  unfold inform
  split
  · obtain ⟨monitor, stopping, heeded⟩ :=
      heed_eq_aside (course.perform (.report status pause)) (course.answer (.report status pause))
    rw [heeded]
    exact .performed _ monitor stopping
  · exact .idle course.schedule.monitor course.schedule.stopping

theorem proceeds_proceed (course : Course) (step : Step) :
    Proceeds course (course.proceed step) := by
  cases step with
  | stop =>
      obtain ⟨monitor, stopping, stopped⟩ :=
        check_eq_aside (course.aside course.schedule.monitor true course.schedule.serials
          course.schedule.draws)
      have same : course.proceed .stop =
        course.aside monitor stopping course.schedule.serials course.schedule.draws := stopped
      rw [same]
      exact .idle monitor stopping
  | act act =>
      rcases act.report_or_quiet with ⟨status, pause, rfl⟩ | quiet
      · exact course.proceeds_inform status pause
      · rw [proceed_quiet quiet]
        exact course.proceeds_perform act

theorem inform_watching {status : Status} {pause : Nat → Nat}
    (watching : course.schedule.monitor = .watching) :
    course.inform status pause =
      (course.perform (.report status pause)).heed (course.answer (.report status pause)) := by
  simp only [inform, watching]

theorem inform_ended {status : Status} {pause : Nat → Nat}
    (ended : course.schedule.monitor ≠ .watching) : course.inform status pause = course := by
  unfold inform
  split
  · contradiction
  · rfl

namespace KeptAside

variable {motive : Course → Prop} {fair : Course → Status → Prop}

theorem watched {rules : Rules} {mint : Mint} (kept : KeptAside motive fair)
    (start : motive (start groups rules mint)) : motive (watched groups rules mint) := by
  obtain ⟨monitor, stopping, checked⟩ :=
    check_eq_aside ((Course.start groups rules mint).aside .watching false 0 .middle)
  have same : Course.watched groups rules mint =
    (Course.start groups rules mint).aside monitor stopping 0 .middle := checked
  rw [same]
  exact kept.aside _ _ _ _ _ start

/-- What acts and the flags of the watch keep is kept by what the watch does. -/
theorem proceed (kept : KeptAside motive fair) (now : motive course) (step : Step)
    (fairly : ∀ status pause, step = .act (.report status pause) → fair course status) :
    motive (course.proceed step) := by
  cases step with
  | stop =>
      obtain ⟨monitor, stopping, stopped⟩ :=
        check_eq_aside (course.aside course.schedule.monitor true course.schedule.serials
          course.schedule.draws)
      have same : course.proceed .stop =
        course.aside monitor stopping course.schedule.serials course.schedule.draws := stopped
      rw [same]
      exact kept.aside _ _ _ _ _ now
  | act act =>
      rcases act.report_or_quiet with ⟨status, pause, rfl⟩ | quiet
      · show motive (course.inform status pause)
        by_cases watching : course.schedule.monitor = .watching
        · obtain ⟨monitor, stopping, heeded⟩ := heed_eq_aside
            (course.perform (.report status pause)) (course.answer (.report status pause))
          rw [inform_watching watching, heeded]
          exact kept.aside _ _ _ _ _ (kept.report _ _ _ now (fairly status pause rfl))
        · rw [inform_ended watching]
          exact now
      · rw [proceed_quiet quiet]
        exact kept.quiet _ _ now quiet

end KeptAside

theorem known_watched (groups : List TaskGroup) (rules : Rules) (mint : Mint) :
    (watched groups rules mint).Known groups :=
  (known_kept groups).watched (known_start groups rules mint)

theorem known_proceed (known : course.Known groups) (step : Step) :
    (course.proceed step).Known groups :=
  (known_kept groups).proceed known step fun _ _ _ => trivial

theorem known_proceedAll (known : course.Known groups) (steps : List Step) :
    (course.proceedAll steps).Known groups := by
  induction steps generalizing course with
  | nil => exact known
  | cons step rest ih => exact ih (known_proceed known step)

/-- The watch goes on only while some task is not finished and nothing told it to stop. -/
def Alert (course : Course) : Prop :=
  course.schedule.monitor = .watching →
    course.schedule.roster.finished = false ∧ course.schedule.stopping = false

theorem Alert.check (alert : course.Alert) : course.schedule.check = course.schedule := by
  unfold Schedule.check
  split
  · rename_i watching
    obtain ⟨unfinished, quiet⟩ := alert watching
    simp [unfinished, quiet]
  · rfl

theorem alert_check (course : Course) :
    { course with schedule := course.schedule.check }.Alert := by
  unfold Schedule.check
  split
  · split
    · exact nofun
    · rename_i goesOn
      intro
      simpa using goesOn
  · rename_i off
    exact fun watching => (off watching).elim

theorem alert_heed (course : Course) (answer : Except Failure Unit) :
    (course.heed answer).Alert := by
  cases answer with
  | ok done => exact course.alert_check
  | error failure => exact nofun

theorem Alert.quiet {act : Act} (alert : course.Alert) (quiet : act.IsQuiet) :
    (course.perform act).Alert := by
  obtain ⟨monitor, stopping⟩ := course.flags_perform act
  have roster := (course.quiet_perform act quiet.ne_report).roster
  intro watching
  rw [roster, stopping]
  exact alert (monitor ▸ watching)

theorem Alert.inform (alert : course.Alert) (status : Status) (pause : Nat → Nat) :
    (course.inform status pause).Alert := by
  unfold Course.inform
  split
  · exact alert_heed _ _
  · exact alert

theorem Alert.proceed (alert : course.Alert) (step : Step) : (course.proceed step).Alert := by
  cases step with
  | stop =>
      exact alert_check (course.aside course.schedule.monitor true course.schedule.serials
        course.schedule.draws)
  | act act =>
      rcases act.report_or_quiet with ⟨status, pause, rfl⟩ | quiet
      · exact alert.inform status pause
      · rw [proceed_quiet quiet]
        exact alert.quiet quiet

/-- A report on a task that is not live changes nothing. -/
theorem Alert.inform_absent (alert : course.Alert) {status : Status} {pause : Nat → Nat}
    (absent : course.schedule.roster.owner? status.task = none) :
    course.inform status pause = course := by
  have ignored : course.schedule.applyWith pause status = (course.schedule, .ok ()) := by
    simp [applyWith, absent]
  by_cases watching : course.schedule.monitor = .watching
  · rw [inform_watching watching, perform_report_absent pause absent]
    simp only [answer, ignored, heed, alert.check]
  · exact inform_ended watching

theorem retired_proceed (known : course.Known groups) (retired : course.Retired task)
    (step : Step) : (course.proceed step).Retired task := by
  have proceeds := course.proceeds_proceed step
  generalize course.proceed step = after at proceeds
  cases proceeds with
  | performed act monitor stopping => exact retired_perform known retired act
  | idle monitor stopping => exact retired

theorem retired_proceedAll (known : course.Known groups) (retired : course.Retired task)
    (steps : List Step) : (course.proceedAll steps).Retired task := by
  induction steps generalizing course with
  | nil => exact retired
  | cons step rest ih => exact ih (known_proceed known step) (retired_proceed known retired step)

theorem not_restarted {after : Course}
    (same : after.schedule.roster.tracked = course.schedule.roster.tracked) :
    ¬ Restarted task course after := by
  rintro ⟨index, old, new, found, next, more, -⟩
  rw [same, found, Option.some.injEq] at next
  subst next
  omega

theorem Restarted.retired_report (known : course.Known groups) {status : Status}
    {pause : Nat → Nat} (restarted : Restarted task course (course.perform (.report status pause))) :
    (course.perform (.report status pause)).Retired task := by
  have reported := known.reported status pause
  generalize course.perform (.report status pause) = after at reported restarted
  cases reported with
  | ignored quiet => exact (not_restarted (by rw [quiet.roster]) restarted).elim
  | recorded index owner roster mint heard =>
      exact (not_restarted (by rw [roster]; rfl) restarted).elim
  | relaunched index tracked owner found roster mint heard =>
      obtain ⟨other, old, new, before, next, more, member⟩ := restarted
      rw [roster] at next
      by_cases here : other = index
      · subst here
        rw [found, Option.some.injEq] at before
        subst before
        have issued := known.coherent.issued tracked (List.mem_of_getElem? found) task member
        rw [Retired, roster, mint]
        exact ⟨issued.mono (by rw [tracked.group.issued_renew]; omega),
          known.coherent.struck_relaunch found member⟩
      · -- The relaunch of one group leaves the counters of all others alone.
        rw [Roster.tracked_relaunch_other here, before, Option.some.injEq] at next
        subst next
        omega

/-- A restart strikes all tasks of its group, not only the one that it is due to. -/
theorem Restarted.retired (known : course.Known groups) {step : Step}
    (restarted : Restarted task course (course.proceed step)) :
    (course.proceed step).Retired task := by
  have proceeds := course.proceeds_proceed step
  generalize course.proceed step = after at proceeds restarted
  cases proceeds with
  | idle monitor stopping => exact (not_restarted rfl restarted).elim
  | performed act monitor stopping =>
      rcases act.report_or_quiet with ⟨status, pause, rfl⟩ | quiet
      · exact Restarted.retired_report known restarted
      · have same := (course.quiet_perform act quiet.ne_report).roster
        exact (not_restarted (congrArg Roster.tracked same) restarted).elim

theorem Gone.absent (known : first.Known groups) {done : List Step} (gone : Gone first done task) :
    (first.proceedAll done).schedule.roster.owner? task = none := by
  cases gone with
  | unknown absent => exact absent
  | @purged before later step split restarted =>
      have struck := restarted.retired (known_proceedAll known before)
      rw [split, proceedAll_append]
      exact (retired_proceedAll (known_proceed (known_proceedAll known before) step) struck later).2

/-- Two runs look the same from outside and end in the same state. -/
structure Alike (course : Course) (beats others : List Beat) : Prop where
  ends : course.proceedAll (beats.map (·.toStep)) = course.proceedAll (others.map (·.toStep))
  shown : course.shown beats = course.shown others

theorem alike_filter (known : first.Known groups) {done : List Step} {beats : List Beat}
    (alert : (first.proceedAll done).Alert) (strewn : Strewn first done beats) :
    Alike (first.proceedAll done) beats (beats.filter (·.isRegular)) := by
  induction beats generalizing done with
  | nil => exact ⟨rfl, rfl⟩
  | cons beat rest ih =>
      cases beat with
      | regular step =>
          have next : first.proceedAll (done ++ [step]) = (first.proceedAll done).proceed step :=
            proceedAll_append done [step]
          have later := ih (next ▸ alert.proceed step) strewn
          rw [next] at later
          exact ⟨later.ends, congrArg (_ :: ·) later.shown⟩
      | stray status pause =>
          obtain ⟨gone, after⟩ := strewn
          have ignored : (first.proceedAll done).inform status pause = first.proceedAll done :=
            alert.inform_absent (gone.absent known)
          have next : first.proceedAll (done ++ [.act (.report status pause)]) =
              first.proceedAll done :=
            (proceedAll_append done _).trans ignored
          have later := ih (next.symm ▸ alert) after
          rw [next] at later
          refine ⟨?_, ?_⟩
          · show ((first.proceedAll done).inform status pause).proceedAll _ = _
            rw [ignored]
            exact later.ends
          · show ((first.proceedAll done).inform status pause).shown rest = _
            rw [ignored]
            exact later.shown

theorem alert_watched (groups : List TaskGroup) (rules : Rules) (mint : Mint) :
    (watched groups rules mint).Alert :=
  alert_check ((start groups rules mint).aside .watching false 0 .middle)

/-- Reports on tasks that are gone, strewn into a run in any number, leave no trace in it. -/
theorem undisturbed_strewn (groups : List TaskGroup) (rules : Rules) (mint : Mint)
    {beats : List Beat} (strewn : Strewn (watched groups rules mint) [] beats) :
    Alike (watched groups rules mint) beats (beats.filter (·.isRegular)) :=
  @alike_filter _ _ (known_watched groups rules mint) [] _ (alert_watched groups rules mint) strewn

/-- One task of a group fails, and the group is restarted. Late reports on its sibling, and on a task
that never was, come before the relaunch is handed out. -/
theorem undisturbed_sibling :
    let tasks : List Task := [{ name := "a", id := .stamped 0 }, { name := "b", id := .stamped 1 }]
    let group := (TaskGroup.build tasks (by simp [tasks]) [] ⟨2⟩).1
    let first := watched [group] { restart := .onFailure } ⟨3⟩
    let failed (id : Nat) : Status := { task := .stamped id, state := .failed }
    let beats : List Beat :=
      [.regular (.act .pop), .regular (.act (.launch 0)),
        .regular (.act (.report (failed 4) fun _ => 0)), .stray (failed 5) fun _ => 0,
        .stray (failed 9) fun _ => 0, .regular (.act .pop)]
    Strewn first [] beats ∧ Alike first beats (beats.filter (·.isRegular)) := by
  intro tasks group first failed beats
  let done : List Step := [.act .pop, .act (.launch 0), .act (.report (failed 4) fun _ => 0)]
  have counter : (first.proceedAll done).schedule.roster.tracked[0]?.map (·.restarts) = some 1 := by
    decide +kernel
  obtain ⟨new, found, more⟩ := Option.map_eq_some_iff.mp counter
  have restarted : Restarted (.stamped 5) (first.proceedAll [.act .pop, .act (.launch 0)])
      (first.proceedAll done) :=
    ⟨0, ⟨(group.renew ⟨3⟩).1, 0⟩, new, rfl, found, more ▸ Nat.zero_lt_one,
      List.mem_cons_of_mem _ (List.mem_singleton_self _)⟩
  have purged : Gone first done (.stamped 5) :=
    @Gone.purged _ _ _ [.act .pop, .act (.launch 0)] [] _ rfl restarted
  have unknown : Gone first (done ++ [.act (.report (failed 5) fun _ => 0)]) (.stamped 9) :=
    .unknown (by decide +kernel)
  have strewn : Strewn first [] beats := ⟨purged, unknown, trivial⟩
  exact ⟨strewn, undisturbed_strewn [group] { restart := .onFailure } ⟨3⟩ strewn⟩

end Course
end Convoy
