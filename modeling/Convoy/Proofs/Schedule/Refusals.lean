import Convoy.Proofs.Schedule.Coherence

/-!
# Refused reports

A report is refused if a task failed that is not to be started again, or if its group was started
again as often as it may be. Both are decided before anything is written, so a refused report leaves
the schedule as it was, and so does a report on a task that no present group has.
-/
namespace Convoy

theorem Restart.final_failed_iff {restart : Restart} :
    restart.restarts .failed = false ↔ restart = .never := by
  cases restart <;> decide

/-- The task belongs to a group under its present identities. -/
def Roster.Holds (roster : Roster) (task : TaskId) : Prop :=
  ∃ tracked ∈ roster.tracked, task ∈ tracked.group.taskIds

theorem Roster.Coherent.holds_iff {roster : Roster} {mint : Mint} (coherent : roster.Coherent mint)
    {task : TaskId} : roster.Holds task ↔ ∃ index, roster.owner? task = some index := by
  constructor
  · rintro ⟨tracked, member, present⟩
    obtain ⟨index, found⟩ := List.mem_iff_getElem?.mp member
    exact ⟨index, coherent.owner?_iff.mpr ⟨tracked, found, present⟩⟩
  · rintro ⟨index, owner⟩
    obtain ⟨tracked, found, present⟩ := coherent.owner?_iff.mp owner
    exact ⟨tracked, List.mem_of_getElem? found, present⟩

namespace Schedule

variable {schedule : Schedule} {pause : Nat → Nat} {status : Status}

theorem isSpent_iff {restarts : Nat} : schedule.isSpent restarts = true ↔
    ∃ limit, schedule.rules.maxRestarts = some limit ∧ limit.toNat ≤ restarts := by
  unfold isSpent
  cases schedule.rules.maxRestarts with
  | none => simp
  | some limit => simp

theorem Requeues.error_eq {group : TaskGroup} {milliseconds : Nat}
    {answer : Schedule × Except Failure Unit}
    (requeues : Requeues schedule group milliseconds answer) {failure : Failure}
    (refused : answer.2 = .error failure) : failure = .queueFull "pending" := by
  cases requeues with
  | relaunchedFull => exact (Except.error.inj refused).symm
  | pendingFull => exact (Except.error.inj refused).symm
  | _ => contradiction

/-- When a report is refused on behalf of a task, what the refusal says, and what it leaves. -/
structure Refusals (schedule : Schedule) (pause : Nat → Nat) (status : Status) : Prop where
  terminal : ∀ task state message,
    (schedule.applyWith pause status).2 = .error (.terminal task state message) ↔
      (task = status.task ∧ state = status.state ∧ message = status.messageText) ∧
        schedule.roster.Holds status.task ∧ status.state.outcome = .failed ∧
        schedule.rules.restart = .never
  restartLimit : ∀ task state attempts,
    (schedule.applyWith pause status).2 = .error (.restartLimit task state attempts) ↔
      (task = status.task ∧ state = status.state) ∧
        ∃ tracked ∈ schedule.roster.tracked, status.task ∈ tracked.group.taskIds ∧
          schedule.rules.restart.restarts status.state.outcome = true ∧
          (∃ limit, schedule.rules.maxRestarts = some limit ∧ limit.toNat ≤ tracked.restarts) ∧
          attempts = tracked.restarts
  refused : ∀ failure, failure.isTaskFailure = true →
    (schedule.applyWith pause status).2 = .error failure →
      (schedule.applyWith pause status).1 = schedule
  unknown : ¬ schedule.roster.Holds status.task →
    schedule.applyWith pause status = (schedule, .ok ())

variable {mint : Mint}

theorem terminal_iff (coherent : schedule.roster.Coherent mint) (task : TaskId) (state : TaskState)
    (message : String) :
    (schedule.applyWith pause status).2 = .error (.terminal task state message) ↔
      (task = status.task ∧ state = status.state ∧ message = status.messageText) ∧
        schedule.roster.Holds status.task ∧ status.state.outcome = .failed ∧
        schedule.rules.restart = .never := by
  have applies := applies_applyWith schedule pause status
  generalize schedule.applyWith pause status = answer at applies
  rw [coherent.holds_iff]
  constructor
  · intro refused
    cases applies with
    | fatal owner final failed =>
        rw [failed] at final
        cases refused
        exact ⟨⟨rfl, rfl, rfl⟩, ⟨_, owner⟩, failed, Restart.final_failed_iff.mp final⟩
    | relaunched owner found restarts allowed requeues => cases requeues.error_eq refused
    | _ => cases refused
  · rintro ⟨⟨rfl, rfl, rfl⟩, ⟨index, owner⟩, failed, never⟩
    have final : schedule.rules.restart.restarts status.state.outcome = false := by
      rw [failed, Restart.final_failed_iff.mpr never]
    cases applies with
    | unknown absent => cases absent.symm.trans owner
    | untracked owner absent =>
        obtain ⟨tracked, found, -⟩ := coherent.owner?_iff.mp owner
        cases absent.symm.trans found
    | spent owner found restarts spent => cases final.symm.trans restarts
    | relaunched owner found restarts allowed requeues => cases final.symm.trans restarts
    | fatal owner final failed => rfl
    | recorded owner final sound => exact absurd failed sound

theorem restartLimit_iff (coherent : schedule.roster.Coherent mint) (task : TaskId)
    (state : TaskState) (attempts : Nat) :
    (schedule.applyWith pause status).2 = .error (.restartLimit task state attempts) ↔
      (task = status.task ∧ state = status.state) ∧
        ∃ tracked ∈ schedule.roster.tracked, status.task ∈ tracked.group.taskIds ∧
          schedule.rules.restart.restarts status.state.outcome = true ∧
          (∃ limit, schedule.rules.maxRestarts = some limit ∧ limit.toNat ≤ tracked.restarts) ∧
          attempts = tracked.restarts := by
  have applies := applies_applyWith schedule pause status
  generalize schedule.applyWith pause status = answer at applies
  simp only [← isSpent_iff]
  constructor
  · intro refused
    cases applies with
    | spent owner found restarts spent =>
        obtain ⟨tracked, there, present⟩ := coherent.owner?_iff.mp owner
        rw [found, Option.some.injEq] at there
        subst there
        cases refused
        exact ⟨⟨rfl, rfl⟩, _, List.mem_of_getElem? found, present, restarts, spent, rfl⟩
    | relaunched owner found restarts allowed requeues => cases requeues.error_eq refused
    | _ => cases refused
  · rintro ⟨⟨rfl, rfl⟩, known, member, present, again, exhausted, rfl⟩
    obtain ⟨index, there⟩ := List.mem_iff_getElem?.mp member
    have owned := coherent.owner?_iff.mpr ⟨known, there, present⟩
    cases applies with
    | unknown absent => cases absent.symm.trans owned
    | untracked owner absent =>
        cases owner.symm.trans owned
        cases absent.symm.trans there
    | spent owner found restarts spent =>
        cases owner.symm.trans owned
        cases found.symm.trans there
        rfl
    | relaunched owner found restarts allowed requeues =>
        cases owner.symm.trans owned
        cases found.symm.trans there
        cases allowed.symm.trans exhausted
    | fatal owner final failed => cases final.symm.trans again
    | recorded owner final sound => cases final.symm.trans again

theorem eq_of_refused {failure : Failure} (ofTask : failure.isTaskFailure = true)
    (refused : (schedule.applyWith pause status).2 = .error failure) :
    (schedule.applyWith pause status).1 = schedule := by
  have applies := applies_applyWith schedule pause status
  generalize schedule.applyWith pause status = answer at applies refused
  cases applies with
  | relaunched owner found restarts allowed requeues =>
      rw [requeues.error_eq refused] at ofTask
      contradiction
  | recorded owner final sound => cases refused
  | _ => rfl

end Schedule

namespace Course

/-- At any time of a run a report is refused for a failure that is final, or for a group that has no
relaunch left, and for no other reason that lies with a task. A refused report changes nothing. -/
theorem refusals_play (groups : List TaskGroup) (rules : Rules) (mint : Mint) (acts : List Act)
    (pause : Nat → Nat) (status : Status) :
    ((start groups rules mint).play acts).schedule.Refusals pause status := by
  have coherent := (known_play (known_start groups rules mint) acts).coherent
  constructor
  case terminal => exact Schedule.terminal_iff coherent
  case restartLimit => exact Schedule.restartLimit_iff coherent
  case refused => exact fun _ => Schedule.eq_of_refused
  case unknown =>
    intro absent
    rw [coherent.holds_iff, not_exists] at absent
    have none := Option.eq_none_iff_forall_ne_some.mpr absent
    simp [Schedule.applyWith, none]

end Course
end Convoy
