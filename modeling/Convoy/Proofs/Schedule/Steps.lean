import Convoy.Proofs.Schedule.Course

/-!
# What a step of a schedule can do

Handing out a group, taking one back, putting a relaunch into its queue and applying a report each
end in one of a few ways, and so does every act of a course. The relations below list them with all
that is known in each case, so that an invariant is checked case by case and no proof opens the
operations again.
-/
namespace Convoy

namespace Schedule

variable {schedule after : Schedule} {group : TaskGroup}

/-- The group that goes next where no relaunch goes ahead, and what is left. -/
inductive Nexts (schedule : Schedule) : TaskGroup → Schedule → Prop where
  | held {group : TaskGroup} (found : schedule.held = some group) :
      Nexts schedule group { schedule with held := none }
  | pending {group : TaskGroup} {rest : Queue} (absent : schedule.held = none)
      (taken : schedule.pending.take? = some (group, rest)) :
      Nexts schedule group { schedule with pending := rest }

theorem nexts_of_next? (next : schedule.next? = some (group, after)) :
    Nexts schedule group after := by
  unfold next? at next
  split at next
  · rename_i waiting found
    cases next
    exact .held found
  · rename_i absent
    obtain ⟨⟨first, rest⟩, taken, same⟩ := Option.map_eq_some_iff.mp next
    cases same
    exact .pending absent taken

/-- The group that is handed out, and what is left. -/
inductive Pops (schedule : Schedule) : TaskGroup → Schedule → Prop where
  | relaunched {group : TaskGroup} {rest : Queue} (sync : schedule.rules.sync = true)
      (taken : schedule.relaunched.take? = some (group, rest)) :
      Pops schedule group { schedule with relaunched := rest, gate := .starting }
  | opened {group : TaskGroup} {after : Schedule} (sync : schedule.rules.sync = true)
      (empty : schedule.relaunched.take? = none) (gate : schedule.gate = .finished)
      (next : Nexts schedule group after) :
      Pops schedule group { after with gate := .starting }
  | parallel {group : TaskGroup} {after : Schedule} (parallel : schedule.rules.sync = false)
      (next : Nexts schedule group after) :
      Pops schedule group after

theorem pops_of_pop (popped : schedule.pop = some (group, after)) :
    Pops schedule group after := by
  unfold pop at popped
  by_cases sync : schedule.rules.sync = true
  · rw [if_pos sync] at popped
    split at popped
    · rename_i taken
      cases popped
      exact .relaunched sync taken
    · rename_i empty
      split at popped
      · rename_i isOpen
        obtain ⟨⟨first, left⟩, next, same⟩ := Option.map_eq_some_iff.mp popped
        cases same
        exact .opened sync empty (by simpa [Schedule.isOpen] using isOpen) (nexts_of_next? next)
      · contradiction
  · rw [if_neg sync] at popped
    exact .parallel (by simpa using sync) (nexts_of_next? popped)

/-- What taking a group back can answer. -/
inductive Appends (schedule : Schedule) (group : TaskGroup) :
    Schedule × Except Failure Unit → Prop where
  | held (sync : schedule.rules.sync = true) (empty : schedule.held = none) :
      Appends schedule group ({ schedule with held := some group, gate := .finished }, .ok ())
  | displaced {previous : TaskGroup} {pending : Queue} (sync : schedule.rules.sync = true)
      (found : schedule.held = some previous)
      (pushed : schedule.pending.push? previous = some pending) :
      Appends schedule group
        ({ schedule with held := some group, pending := pending, gate := .finished }, .ok ())
  | overflow {previous : TaskGroup} (sync : schedule.rules.sync = true)
      (found : schedule.held = some previous)
      (full : schedule.pending.push? previous = none) :
      Appends schedule group
        ({ schedule with held := some group }, .error (.queueFull "pending"))
  | queued {pending : Queue} (parallel : schedule.rules.sync = false)
      (pushed : schedule.pending.push? group = some pending) :
      Appends schedule group ({ schedule with pending := pending }, .ok ())
  | full (parallel : schedule.rules.sync = false)
      (full : schedule.pending.push? group = none) :
      Appends schedule group (schedule, .error (.queueFull "pending"))

theorem appends_append (schedule : Schedule) (group : TaskGroup) :
    Appends schedule group (schedule.append group) := by
  unfold append enqueue
  by_cases sync : schedule.rules.sync = true
  · rw [if_pos sync]
    cases found : schedule.held with
    | none => exact .held sync found
    | some previous =>
        cases pushed : schedule.pending.push? previous with
        | none => simpa only [pushed] using .overflow sync found pushed
        | some pending => simpa only [pushed] using .displaced sync found pushed
  · rw [if_neg sync]
    have parallel : schedule.rules.sync = false := by simpa using sync
    cases pushed : schedule.pending.push? group with
    | none => exact .full parallel pushed
    | some pending => exact .queued parallel pushed

/-- What putting a relaunch into its queue can answer. -/
inductive Requeues (schedule : Schedule) (group : TaskGroup) (milliseconds : Nat) :
    Schedule × Except Failure Unit → Prop where
  | delayed (late : milliseconds ≠ 0) :
      Requeues schedule group milliseconds (schedule.delay milliseconds group, .ok ())
  | relaunched {relaunched : Queue} (sync : schedule.rules.sync = true)
      (pushed : schedule.relaunched.push? group = some relaunched) :
      Requeues schedule group milliseconds ({ schedule with relaunched := relaunched }, .ok ())
  | queued {pending : Queue} (parallel : schedule.rules.sync = false)
      (pushed : schedule.pending.push? group = some pending) :
      Requeues schedule group milliseconds ({ schedule with pending := pending }, .ok ())
  | relaunchedFull (sync : schedule.rules.sync = true)
      (full : schedule.relaunched.push? group = none) :
      Requeues schedule group milliseconds (schedule, .error (.queueFull "pending"))
  | pendingFull (parallel : schedule.rules.sync = false)
      (full : schedule.pending.push? group = none) :
      Requeues schedule group milliseconds (schedule, .error (.queueFull "pending"))

theorem requeues_requeue (schedule : Schedule) (group : TaskGroup) (milliseconds : Nat) :
    Requeues schedule group milliseconds (schedule.requeue group milliseconds) := by
  unfold requeue enqueue
  by_cases late : milliseconds ≠ 0
  · rw [if_pos late]
    exact .delayed late
  · rw [if_neg late]
    by_cases sync : schedule.rules.sync = true
    · rw [if_pos sync]
      cases pushed : schedule.relaunched.push? group with
      | none => exact .relaunchedFull sync pushed
      | some relaunched => exact .relaunched sync pushed
    · rw [if_neg sync]
      have parallel : schedule.rules.sync = false := by simpa using sync
      cases pushed : schedule.pending.push? group with
      | none => exact .pendingFull parallel pushed
      | some pending => exact .queued parallel pushed

/-- The schedule in which the group at an index is under fresh identities and in no queue yet. -/
def renewed (schedule : Schedule) (index : Nat) (tracked : Tracked) : Schedule :=
  { schedule with
    roster := (schedule.roster.relaunch index tracked schedule.mint).2.1
    mint := (tracked.group.renew schedule.mint).2
    gate := if schedule.rules.sync then .starting else schedule.gate }

/-- What applying a report can answer. -/
inductive Applies (schedule : Schedule) (pause : Nat → Nat) (status : Status) :
    Schedule × Except Failure Unit → Prop where
  | unknown (absent : schedule.roster.owner? status.task = none) :
      Applies schedule pause status (schedule, .ok ())
  | untracked {index : Nat} (owner : schedule.roster.owner? status.task = some index)
      (absent : schedule.roster.tracked[index]? = none) :
      Applies schedule pause status (schedule, .ok ())
  | spent {index : Nat} {tracked : Tracked}
      (owner : schedule.roster.owner? status.task = some index)
      (found : schedule.roster.tracked[index]? = some tracked)
      (restarts : schedule.rules.restart.restarts status.state.outcome = true)
      (spent : schedule.isSpent tracked.restarts = true) :
      Applies schedule pause status
        (schedule, .error (.restartLimit status.task status.state tracked.restarts))
  | relaunched {index : Nat} {tracked : Tracked}
      (owner : schedule.roster.owner? status.task = some index)
      (found : schedule.roster.tracked[index]? = some tracked)
      (restarts : schedule.rules.restart.restarts status.state.outcome = true)
      (allowed : schedule.isSpent tracked.restarts = false)
      {answer : Schedule × Except Failure Unit}
      (requeues : Requeues (schedule.renewed index tracked)
        (tracked.group.renew schedule.mint).1 (pause tracked.restarts) answer) :
      Applies schedule pause status answer
  | fatal {index : Nat} (owner : schedule.roster.owner? status.task = some index)
      (final : schedule.rules.restart.restarts status.state.outcome = false)
      (failed : status.state.outcome = .failed) :
      Applies schedule pause status
        (schedule, .error (.terminal status.task status.state status.messageText))
  | recorded {index : Nat} (owner : schedule.roster.owner? status.task = some index)
      (final : schedule.rules.restart.restarts status.state.outcome = false)
      (sound : status.state.outcome ≠ .failed) :
      Applies schedule pause status
        (schedule.record index status.task status.state, .ok ())

theorem applies_applyWith (schedule : Schedule) (pause : Nat → Nat) (status : Status) :
    Applies schedule pause status (schedule.applyWith pause status) := by
  unfold applyWith
  cases owner : schedule.roster.owner? status.task with
  | none => exact .unknown owner
  | some index =>
      by_cases restarts : schedule.rules.restart.restarts status.state.outcome = true
      · simp only [restarts, if_true]
        cases found : schedule.roster.tracked[index]? with
        | none => exact .untracked owner found
        | some tracked =>
            unfold restart
            by_cases spent : schedule.isSpent tracked.restarts = true
            · simp only [spent, if_true]
              exact .spent owner found restarts spent
            · simp only [spent, Bool.false_eq_true, if_false]
              exact .relaunched owner found restarts (by simpa using spent)
                (requeues_requeue (schedule.renewed index tracked) _ _)
      · have final : schedule.rules.restart.restarts status.state.outcome = false := by
          simpa using restarts
        simp only [final, Bool.false_eq_true, if_false]
        by_cases failed : status.state.outcome = .failed
        · rw [if_pos failed]
          exact .fatal owner final failed
        · rw [if_neg failed]
          exact .recorded owner final failed

end Schedule

namespace Course

open Schedule

/-- What an act can make of a course. -/
inductive Performs (course : Course) : Act → Course → Prop where
  | nothing (act : Act) : Performs course act course
  | popped {group : TaskGroup} {after : Schedule} (pops : Pops course.schedule group after) :
      Performs course .pop { course with
        schedule := after
        out := course.out ++ [group]
        handed := course.handed ++ (course.schedule.roster.indexOf? group).toList }
  | launched {position : Nat} {group : TaskGroup} (found : course.out[position]? = some group) :
      Performs course (.launch position) { course with
        out := course.out.eraseIdx position
        launches := course.launches ++ [group] }
  | appended {position : Nat} {group : TaskGroup} (found : course.out[position]? = some group)
      {answer : Schedule × Except Failure Unit} (appends : Appends course.schedule group answer) :
      Performs course (.append position) { course with
        schedule := answer.1
        out := course.out.eraseIdx position }
  | reported {status : Status} {pause : Nat → Nat} {answer : Schedule × Except Failure Unit}
      (applies : Applies course.schedule pause status answer) :
      Performs course (.report status pause) { course with
        schedule := answer.1
        heard :=
          if (course.schedule.roster.owner? status.task).isSome && answer.2.isOk then
            course.heard ++ [status]
          else course.heard }
  | cameBack (position : Nat) :
      Performs course (.comeBack position)
        { course with schedule := course.schedule.comeBack position }
  | settled : Performs course .settle { course with schedule := course.schedule.settle }
  | passed (milliseconds : Nat) :
      Performs course (.pass milliseconds)
        { course with schedule := course.schedule.pass milliseconds }

theorem performs_perform (course : Course) (act : Act) :
    Performs course act (course.perform act) := by
  cases act with
  | pop =>
      unfold perform
      dsimp only
      split
      · exact .nothing _
      · rename_i popped
        exact .popped (pops_of_pop popped)
  | launch position =>
      unfold perform
      dsimp only
      split
      · exact .nothing _
      · rename_i found
        exact .launched found
  | append position =>
      unfold perform
      dsimp only
      split
      · exact .nothing _
      · rename_i found
        exact .appended found (appends_append _ _)
  | report status pause => exact .reported (applies_applyWith _ _ _)
  | comeBack position => exact .cameBack position
  | settle => exact .settled
  | pass milliseconds => exact .passed milliseconds

end Course
end Convoy
