import Convoy.Proofs.Schedule.Coherence

/-!
# Reports on a group that is done

A report on a group that is done leaves the gate alone, whatever it says. But it is recorded, and a
group of which something else than its finish was recorded is not done for the report that follows.
So what becomes of the gate depends on the late reports among each other: those that come while an
earlier one stands against the finish of its task move the gate as those of a running group do.
-/
namespace Convoy

/-- Some task of which there is a report did not finish by its last one. -/
def unsettled (reports : List Status) : Bool :=
  reports.any fun status => decide (lastHeard reports status.task ≠ some .finished)

/-- The gate after reports on a group that was done before certain reports on it. -/
def lateGate (gate : TaskState) (before : List Status) : List Status → TaskState
  | [] => gate
  | status :: rest =>
    let reports := before ++ [status]
    let moves := unsettled before && (decide (status.state ≠ .finished) || !unsettled reports)
    lateGate (if moves then status.state else gate) reports rest

theorem unsettled_iff {reports : List Status} :
    unsettled reports = true ↔
      ∃ status ∈ reports, lastHeard reports status.task ≠ some .finished := by
  simp [unsettled]

theorem unsettled_of_finished {reports : List Status}
    (finished : ∀ status ∈ reports, status.state = .finished) : unsettled reports = false := by
  rw [← Bool.not_eq_true, unsettled_iff]
  rintro ⟨status, member, other⟩
  obtain ⟨state, heard⟩ := lastHeard_isSome member
  obtain ⟨last, present, -, rfl⟩ := lastHeard_mem heard
  exact other (heard.trans (congrArg some (finished last present)))

/-- Reports that say once more that tasks finished, and whatever comes after the last of them, leave
the gate alone. -/
theorem lateGate_of_finished {gate : TaskState} {before reports : List Status}
    (settled : ∀ status ∈ before, status.state = .finished)
    (finished : ∀ status ∈ reports.dropLast, status.state = .finished) :
    lateGate gate before reports = gate := by
  induction reports generalizing before with
  | nil => rfl
  | cons status rest ih =>
      simp only [lateGate, unsettled_of_finished settled, Bool.false_and, Bool.false_eq_true,
        if_false]
      cases rest with
      | nil => rfl
      | cons next later =>
          rw [List.dropLast_cons_cons] at finished
          refine ih (fun other member => ?_) fun other member =>
            finished other (List.mem_cons_of_mem _ member)
          rcases List.mem_append.mp member with earlier | now
          · exact settled other earlier
          · rw [List.mem_singleton.mp now]
            exact finished status List.mem_cons_self

namespace Course

open Schedule

variable {course : Course} {groups : List TaskGroup} {index : Nat} {tracked : Tracked}
  {before : List Status}

/-- The group at an index was done before certain reports on it. -/
structure DoneBefore (index : Nat) (tracked : Tracked) (before : List Status) (course : Course) :
    Prop where
  found : course.schedule.roster.tracked[index]? = some tracked
  owner : ∀ task ∈ tracked.group.taskIds, course.schedule.roster.owner? task = some index
  final : course.schedule.rules.restart.restarts .finished = false
  named : ∀ status ∈ before, status.task ∈ tracked.group.taskIds
  states : ∀ task ∈ tracked.group.taskIds,
    course.schedule.roster.state? task = some ((lastHeard before task).getD .finished)

namespace DoneBefore

theorem done_iff (since : course.DoneBefore index tracked before) :
    course.schedule.roster.Done tracked ↔ unsettled before = false := by
  rw [← Bool.not_eq_true, unsettled_iff, not_exists]
  constructor
  · rintro done status ⟨member, other⟩
    have named := since.named status member
    have state := (since.states status.task named).symm.trans (done status.task named)
    obtain ⟨known, heard⟩ := lastHeard_isSome member
    rw [heard, Option.getD_some] at state
    exact other (heard.trans state)
  · intro settled task present
    rw [since.states task present]
    cases heard : lastHeard before task with
    | none => rfl
    | some state =>
        obtain ⟨status, member, rfl, rfl⟩ := lastHeard_mem heard
        have finished : lastHeard before status.task = some .finished :=
          not_not.mp fun other => settled status ⟨member, other⟩
        rw [← heard, finished]
        rfl

variable {status : Status}

/-- The reports go on with one more, which is recorded. -/
theorem record (since : course.DoneBefore index tracked before)
    (late : status.task ∈ tracked.group.taskIds) (heard : List Status) :
    DoneBefore index tracked (before ++ [status]) { course with
      schedule := course.schedule.record index status.task status.state
      heard := heard } where
  found := since.found
  owner := since.owner
  final := since.final
  named other member := by
    rcases List.mem_append.mp member with earlier | now
    · exact since.named other earlier
    · rwa [List.mem_singleton.mp now]
  states task present := by
    refine (Roster.state?_report _ _ _ _).trans ?_
    rw [lastHeard_append]
    by_cases same : task = status.task
    · rw [if_pos same, if_pos same.symm, Option.getD_some]
    · rw [if_neg same, if_neg (Ne.symm same)]
      exact since.states task present

theorem perform_report (since : course.DoneBefore index tracked before) (pause : Nat → Nat)
    (late : status.task ∈ tracked.group.taskIds) (sound : status.state.outcome ≠ .failed) :
    course.perform (.report status pause) = { course with
      schedule := course.schedule.record index status.task status.state
      heard := course.heard ++ [status] } := by
  have owner := since.owner status.task late
  have once : course.schedule.rules.restart.restarts status.state.outcome = false := by
    cases outcome : status.state.outcome with
    | active => rfl
    | finished => exact since.final
    | failed => exact absurd outcome sound
  simp [perform, applyWith_eq_record pause owner once sound, owner, Except.isOk, Except.toBool]

/-- A late report moves the gate only while an earlier one stands against a finish. -/
theorem gate_record (since : course.DoneBefore index tracked before)
    (late : status.task ∈ tracked.group.taskIds) :
    let reports := before ++ [status]
    let moves := unsettled before && (decide (status.state ≠ .finished) || !unsettled reports)
    (course.schedule.record index status.task status.state).gate =
      if moves then status.state else course.schedule.gate := by
  have later := (since.record late []).done_iff
  have now := Roster.groupFinished_iff
    (show (course.schedule.roster.report status.task status.state).tracked[index]? = some tracked
      from since.found)
  cases stands : unsettled before with
  | false =>
      rw [record_of_done since.found (since.done_iff.mpr stands)]
      rfl
  | true =>
      have undone : course.schedule.roster.groupFinished index = false := by
        rw [← Bool.not_eq_true, Roster.groupFinished_iff since.found, since.done_iff, stands]
        nofun
      simp only [Schedule.record, undone, Bool.false_eq_true, if_false, Bool.true_and]
      cases settled : unsettled (before ++ [status]) with
      | false =>
          -- The report is the one that completes the group again, so it says that a task finished.
          have done := later.mpr settled
          have finished : status.state = .finished := by
            have state := (Roster.state?_report _ _ _ _).symm.trans (done status.task late)
            rwa [if_pos rfl, Option.some.injEq] at state
          rw [if_pos (now.mpr done)]
          simp [finished]
      | true =>
          have undoneStill : ¬ (course.schedule.roster.report status.task status.state).groupFinished
              index = true := by
            rw [now]
            intro done
            rw [later.mp done] at settled
            contradiction
          rw [if_neg undoneStill]
          simp

/-- Late reports are recorded, and change nothing else but the gate. -/
theorem play_reports (since : course.DoneBefore index tracked before) (pause : Nat → Nat)
    {reports : List Status}
    (late : ∀ status ∈ reports,
      status.task ∈ tracked.group.taskIds ∧ status.state.outcome ≠ .failed) :
    course.play (reports.map (.report · pause)) = { course with
      schedule := { course.schedule with
        roster := reports.foldl (fun roster status => roster.report status.task status.state)
          course.schedule.roster
        gate := lateGate course.schedule.gate before reports }
      heard := course.heard ++ reports } := by
  induction reports generalizing course before with
  | nil => simp [play, lateGate]
  | cons status rest ih =>
      obtain ⟨named, sound⟩ := late status List.mem_cons_self
      have first := since.perform_report pause named sound
      have gate := since.gate_record named
      have rest := ih (since.record named (course.heard ++ [status]))
        fun other member => late other (List.mem_cons_of_mem _ member)
      show (course.perform (.report status pause)).play _ = _
      rw [first, rest, gate, List.append_assoc]
      rfl

end DoneBefore

theorem Known.doneBefore (known : course.Known groups) (final : course.Final)
    (found : course.schedule.roster.tracked[index]? = some tracked)
    (done : course.schedule.roster.Done tracked) : course.DoneBefore index tracked [] where
  found := found
  owner task member := known.coherent.owner?_iff.mpr ⟨tracked, found, member⟩
  final := by
    obtain ⟨task, member⟩ := List.exists_mem_of_ne_nil _ tracked.group.taskIds_ne_nil
    exact final task (done task member)
  named := by simp
  states task member := done task member

/-- What reports on a group that is done come to, at any time of a run: they are recorded, and the gate
is as they leave it among each other. It stays as it is while all but the last say that tasks
finished. -/
theorem echoed_play (groups : List TaskGroup) (rules : Rules) (mint : Mint) (acts : List Act)
    {index : Nat} {tracked : Tracked} (pause : Nat → Nat) {reports : List Status}
    (found : ((start groups rules mint).play acts).schedule.roster.tracked[index]? = some tracked)
    (done : ((start groups rules mint).play acts).schedule.roster.Done tracked)
    (late : ∀ status ∈ reports,
      status.task ∈ tracked.group.taskIds ∧ status.state.outcome ≠ .failed) :
    let course := (start groups rules mint).play acts
    course.play (reports.map (.report · pause)) = { course with
      schedule := { course.schedule with
        roster := reports.foldl (fun roster status => roster.report status.task status.state)
          course.schedule.roster
        gate := lateGate course.schedule.gate [] reports }
      heard := course.heard ++ reports } ∧
    ((∀ status ∈ reports.dropLast, status.state = .finished) →
      lateGate course.schedule.gate [] reports = course.schedule.gate) := by
  have known := known_play (known_start groups rules mint) acts
  have since := known.doneBefore (final_play groups rules mint acts) found done
  exact ⟨since.play_reports pause late, fun finished => lateGate_of_finished (by simp) finished⟩

/-- With `sync`, a task that finished is reported as finished once more and then as running, while the
next group is running. -/
theorem echoed_twice :
    let group (name : String) (number : Nat) : TaskGroup :=
      { tasks := [{ name := name, id := .stamped number }]
        networks := []
        executor := { id := .stamped (number + 1) }
        hasTask := by simp }
    let groups := [group "a" 0, group "b" 2]
    let report (number : Nat) (state : TaskState) : Act :=
      .report { task := .stamped number, state := state } fun _ => 0
    let acts : List Act :=
      [.pop, .launch 0, report 5 .finished, .pop, .launch 0, report 7 .running]
    let reports : List Status :=
      [{ task := .stamped 5, state := .finished }, { task := .stamped 5, state := .running }]
    let course := (start groups { sync := true } ⟨4⟩).play acts
    ∃ tracked,
      (course.schedule.roster.tracked[0]? = some tracked ∧ course.schedule.roster.Done tracked ∧
        ∀ status ∈ reports,
          status.task ∈ tracked.group.taskIds ∧ status.state.outcome ≠ .failed) ∧
      (∀ status ∈ reports.dropLast, status.state = .finished) ∧
      course.schedule.roster.state? (.stamped 7) = some .running ∧
      course.schedule.gate = .running ∧
      course.play (reports.map (.report · fun _ => 0)) = { course with
        schedule := { course.schedule with
          roster := reports.foldl (fun roster status => roster.report status.task status.state)
            course.schedule.roster
          gate := lateGate course.schedule.gate [] reports }
        heard := course.heard ++ reports } ∧
      lateGate course.schedule.gate [] reports = course.schedule.gate := by
  intro group groups report acts reports
  have first : ((start groups { sync := true } ⟨4⟩).play acts).schedule.roster.tracked[0]?.map
      (·.group.taskIds) = some [.stamped 5] := by decide +kernel
  obtain ⟨tracked, found, named⟩ := Option.map_eq_some_iff.mp first
  have done : ((start groups { sync := true } ⟨4⟩).play acts).schedule.roster.Done tracked := by
    rw [Roster.Done, named]
    decide +kernel
  have late : ∀ status ∈ reports,
      status.task ∈ tracked.group.taskIds ∧ status.state.outcome ≠ .failed := by
    rw [named]
    decide +kernel
  have repeated : ∀ status ∈ reports.dropLast, status.state = .finished := by decide +kernel
  have echoed := echoed_play groups { sync := true } ⟨4⟩ acts (fun _ => 0) found done late
  exact ⟨tracked, ⟨found, done, late⟩, repeated, by decide +kernel, by decide +kernel, echoed.1,
    echoed.2 repeated⟩

/-- With `sync`, two late reports on a group that is done open the gate while the next group is
running, and the one after it is handed out. -/
theorem opened_by_echoes :
    let group (name : String) (number : Nat) : TaskGroup :=
      { tasks := [{ name := name, id := .stamped number }]
        networks := []
        executor := { id := .stamped (number + 1) }
        hasTask := by simp }
    let report (number : Nat) (state : TaskState) : Act :=
      .report { task := .stamped number, state := state } fun _ => 0
    let course := (start [group "a" 0, group "b" 2, group "c" 4] { sync := true } ⟨6⟩).play
      [.pop, .launch 0, report 7 .finished, .pop, .launch 0, report 9 .running]
    let echoed := course.play [report 7 .running, report 7 .finished]
    course.schedule.roster.groupFinished 0 = true ∧ course.schedule.gate = .running ∧
      course.schedule.pop.isNone ∧ echoed.schedule.gate = .finished ∧
      echoed.schedule.roster.state? (.stamped 9) = some .running ∧
      echoed.schedule.pop.map (·.1.taskIds) = some [.stamped 11] := by
  decide +kernel

end Course
end Convoy
