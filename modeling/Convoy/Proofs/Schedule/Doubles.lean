import Convoy.Proofs.Schedule.Account

/-!
# A second copy of a group

A relaunch puts a copy of its group into a queue and relies on the group being in flight. As long as
no report starts a group again that still waits, there is one copy of each group and every queue has
room. A report that does leaves the copy that waits where it is, so that either the group waits twice
or the new copy finds its queue full.
-/
namespace Convoy

namespace Course

open Schedule

variable {course : Course} {groups : List TaskGroup}

/-- No report starts a group again that waits to be launched or handed back. Other reports may name
any task. -/
def Restrained (course : Course) : Act → Prop
  | .report status _ =>
    course.schedule.rules.restart.restarts status.state.outcome = true → course.Spares status
  | _ => True

namespace Owned

/-- A report that starts nothing again moves no group and puts none into a queue. -/
theorem report_of_final (owned : course.Owned groups) {status : Status} {pause : Nat → Nat}
    (final : course.schedule.rules.restart.restarts status.state.outcome = false) :
    (course.perform (.report status pause)).Owned groups ∧
      ∀ queue, course.answer (.report status pause) ≠ .error (.queueFull queue) := by
  have known := known_perform owned.known (.report status pause)
  have applies := applies_applyWith course.schedule pause status
  unfold perform at known ⊢
  unfold answer
  dsimp only at known ⊢
  generalize course.schedule.applyWith pause status = answer at applies known
  cases applies with
  | relaunched owner found restarts allowed requeues =>
      rw [final] at restarts
      contradiction
  | recorded owner final sound =>
      exact ⟨owned.of_same known rfl rfl rfl ⟨owned.calm.pending, owned.calm.relaunched⟩
        (.refl _) (fun _ => .inl), by simp⟩
  | _ =>
      exact ⟨owned.of_same known rfl rfl rfl owned.calm (.refl _) (fun _ => .inl), by simp⟩

theorem fair_of_restrained (owned : course.Owned groups) {status : Status} {pause : Nat → Nat}
    (restrained : course.Restrained (.report status pause))
    (restarts : course.schedule.rules.restart.restarts status.state.outcome = true) :
    course.Fair (.report status pause) :=
  owned.fair_of_spares (restrained restarts)

theorem perform_restrained (owned : course.Owned groups) {act : Act}
    (restrained : course.Restrained act) : (course.perform act).Owned groups := by
  cases act with
  | report status pause =>
      cases restarts : course.schedule.rules.restart.restarts status.state.outcome with
      | false => exact (owned.report_of_final restarts).1
      | true => exact owned_perform owned (owned.fair_of_restrained restrained restarts)
  | _ => exact owned_perform owned trivial

theorem answer_restrained (owned : course.Owned groups) {act : Act}
    (restrained : course.Restrained act) (queue : String) :
    course.answer act ≠ .error (.queueFull queue) := by
  cases act with
  | report status pause =>
      cases restarts : course.schedule.rules.restart.restarts status.state.outcome with
      | false => exact (owned.report_of_final restarts).2 queue
      | true => exact owned.room_answer (owned.fair_of_restrained restrained restarts) queue
  | append position =>
      have fair : course.Fair (.append position) := trivial
      exact owned.room_answer fair queue
  | _ => simp [answer]

theorem play_restrained (owned : course.Owned groups) {acts : List Act}
    (restrained : course.Obeys Restrained acts) : (course.play acts).Owned groups :=
  play_induction (motive := Owned groups) owned
    (fun _ _ owned restrained => owned.perform_restrained restrained) restrained

theorem indexOf?_of_queued (owned : course.Owned groups) {group : TaskGroup}
    (queued : group ∈ course.schedule.queued) :
    ∃ index tracked, course.schedule.roster.tracked[index]? = some tracked ∧
      tracked.group = group ∧ course.schedule.roster.indexOf? group = some index := by
  have waits : group ∈ course.waiting := List.mem_append_left _ queued
  obtain ⟨tracked, member, rfl⟩ := List.mem_map.mp (owned.groups_of_waiting waits)
  obtain ⟨index, found⟩ := List.mem_iff_getElem?.mp member
  exact ⟨index, tracked, found, rfl, owned.known.coherent.indexOf? found⟩

theorem nodup_indexOf? (owned : course.Owned groups) :
    (course.schedule.queued.map course.schedule.roster.indexOf?).Nodup := by
  have apart : course.schedule.queued.Nodup :=
    (owned.nodup.sublist (List.sublist_append_left _ _)).sublist (List.sublist_append_left _ _)
  refine apart.map_on fun first here second there same => ?_
  obtain ⟨index, tracked, found, rfl, atFirst⟩ := owned.indexOf?_of_queued here
  obtain ⟨other, known, present, rfl, atSecond⟩ := owned.indexOf?_of_queued there
  rw [atFirst, atSecond, Option.some.injEq] at same
  subst same
  rw [found, Option.some.injEq] at present
  rw [present]

end Owned

/-- The group at an index waits twice: the copy that was there before, and one under the identities
that the roster has now. -/
def Doubled (index : Nat) (old : TaskGroup) (schedule : Schedule) : Prop :=
  ∃ next, schedule.roster.tracked[index]? = some next ∧
    [next.group, old].Subperm schedule.queued

theorem answer_requeues {schedule : Schedule} {group : TaskGroup} {milliseconds : Nat}
    {answer : Schedule × Except Failure Unit}
    (requeues : Requeues schedule group milliseconds answer) :
    answer.2 = .ok () ∨ answer.2 = .error (.queueFull "pending") := by
  cases requeues with
  | relaunchedFull sync full => exact .inr rfl
  | pendingFull parallel full => exact .inr rfl
  | _ => exact .inl rfl

theorem doubled_of_queued {index : Nat} {tracked : Tracked} {status : Status} {pause : Nat → Nat}
    (owner : course.schedule.roster.owner? status.task = some index)
    (found : course.schedule.roster.tracked[index]? = some tracked)
    (waits : tracked.group ∈ course.schedule.queued)
    (restarts : course.schedule.rules.restart.restarts status.state.outcome = true)
    (allowed : course.schedule.isSpent tracked.restarts = false) :
    course.answer (.report status pause) = .error (.queueFull "pending") ∨
      course.answer (.report status pause) = .ok () ∧
        Doubled index tracked.group (course.perform (.report status pause)).schedule := by
  have applies := applies_applyWith course.schedule pause status
  unfold perform answer
  dsimp only
  generalize course.schedule.applyWith pause status = answer at applies
  cases applies with
  | unknown absent => exact absurd (owner.symm.trans absent) (by simp)
  | untracked known absent =>
      cases owner.symm.trans known
      exact absurd (found.symm.trans absent) (by simp)
  | spent known there _ spent =>
      cases owner.symm.trans known
      cases found.symm.trans there
      exact absurd (allowed.symm.trans spent) (by simp)
  | relaunched known there _ _ requeues =>
      cases owner.symm.trans known
      cases found.symm.trans there
      rcases answer_requeues requeues with taken | full
      · refine .inr ⟨taken, ?_⟩
        -- The old copy is not taken out of its queue, whichever it is.
        have queued := queued_requeues requeues taken
        refine ⟨_, tracked_requeues found requeues, ?_⟩
        refine List.Subperm.trans (List.Sublist.subperm ?_) queued.symm.subperm
        exact (List.singleton_sublist.mpr waits).cons_cons _
      · exact .inl full
  | fatal known final failed => exact absurd (restarts.symm.trans final) (by simp)
  | recorded known final sound => exact absurd (restarts.symm.trans final) (by simp)

/-- Each group waits once at most, under the identities that the roster has, and queues have room for
what comes next, if it is no report that starts a group again that waits. Such a report finds a queue
full or leaves its group waiting twice. -/
structure Single (groups : List TaskGroup) (course : Course) : Prop where
  tracks : course.schedule.roster.Tracks groups
  present : ∀ group ∈ course.schedule.queued, ∃ index tracked,
    course.schedule.roster.tracked[index]? = some tracked ∧ tracked.group = group ∧
      course.schedule.roster.indexOf? group = some index
  once : (course.schedule.queued.map course.schedule.roster.indexOf?).Nodup
  room : ∀ act, course.Restrained act → ∀ queue, course.answer act ≠ .error (.queueFull queue)
  doubled : ∀ status pause index tracked,
    course.schedule.roster.tracked[index]? = some tracked →
    tracked.group ∈ course.schedule.queued → status.task ∈ tracked.group.taskIds →
    course.schedule.rules.restart.restarts status.state.outcome = true →
    course.schedule.isSpent tracked.restarts = false →
      course.answer (.report status pause) = .error (.queueFull "pending") ∨
        course.answer (.report status pause) = .ok () ∧
          Doubled index tracked.group (course.perform (.report status pause)).schedule

theorem Owned.single (owned : course.Owned groups) : course.Single groups where
  tracks := owned.known.tracks
  present _ queued := owned.indexOf?_of_queued queued
  once := owned.nodup_indexOf?
  room _ restrained := owned.answer_restrained restrained
  doubled _ _ _ tracked found waits member restarts allowed :=
    doubled_of_queued (owned.known.coherent.owner?_iff.mpr ⟨tracked, found, member⟩) found waits
      restarts allowed

/-- As long as no report starts a group again that waits, no group waits twice and no queue is found
full, whatever else is reported. The first report that does is answered by a full queue or leaves its
group waiting twice. -/
theorem single_play (groups : List TaskGroup) (rules : Rules) (mint : Mint) {acts : List Act}
    (restrained : (start groups rules mint).Obeys Restrained acts) :
    ((start groups rules mint).play acts).Single groups :=
  ((owned_start groups rules mint).play_restrained restrained).single

/-- A task is said to run while its group waits; later the group is launched, and started again. -/
theorem single_early :
    let group := (TaskGroup.single { name := "web", id := .stamped 0 } ⟨1⟩).1
    let course := start [group] { restart := .onFailure } ⟨2⟩
    let report (state : TaskState) : Act := .report { task := .stamped 3, state := state } fun _ => 0
    let acts : List Act :=
      [.pop, .append 0, report .running, .pop, .launch 0, report .failed]
    course.Obeys Restrained acts ∧ (course.play acts).Single [group] := by
  intro group course report acts
  have launched :
      (course.play [.pop, .append 0, report .running, .pop, .launch 0]).waiting.isEmpty = true := by
    decide +kernel
  have none := List.eq_nil_iff_forall_not_mem.mp (List.isEmpty_iff.mp launched)
  have restrained : course.Obeys Restrained acts :=
    ⟨trivial, trivial, fun restarts => (Bool.false_ne_true restarts).elim, trivial, trivial,
      fun _ other waits => (none other waits).elim, trivial⟩
  exact ⟨restrained, single_play [group] { restart := .onFailure } ⟨2⟩ restrained⟩

/-- Reports on a group that was handed back and never launched. The only group of a run takes up the
only place in the queue, so that its relaunch finds none. Of two groups, the one that waits is then
there twice. -/
theorem relaunched_while_waiting :
    let group := (TaskGroup.single { name := "web", id := .stamped 0 } ⟨1⟩).1
    let report : Act := .report { task := .stamped 3, state := .failed } fun _ => 0
    let one := (start [group] { restart := .onFailure } ⟨2⟩).play [.pop, .append 0]
    let two := (start [group, group] { restart := .onFailure } ⟨2⟩).play [.pop, .append 0, .pop]
    one.answer report = .error (.queueFull "pending") ∧
      two.answer report = .ok () ∧
      (two.perform report).schedule.queued = [(group.renew ⟨2⟩).1, (group.renew ⟨6⟩).1] ∧
      (two.perform report).schedule.roster.groups = [(group.renew ⟨6⟩).1, (group.renew ⟨4⟩).1] :=
  ⟨rfl, rfl, rfl, rfl⟩

end Course
end Convoy
