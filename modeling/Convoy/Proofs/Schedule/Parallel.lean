import Convoy.Proofs.Schedule.Queue
import Convoy.Proofs.Schedule.Roster

/-!
# Groups side by side

Without `sync` groups are handed out from one queue and go back to its end. No group is ever held or
goes ahead of others, and the queue never takes more than it has places for.
-/
namespace Convoy.Schedule

variable {schedule after : Schedule}

/-- How a schedule without `sync` stands at any time: no group is held or goes ahead of others, and
the queue has a place for each of its groups. -/
structure Parallel (schedule : Schedule) : Prop where
  parallel : schedule.rules.sync = false
  held : schedule.held = none
  relaunched : schedule.relaunched.groups = []
  bounded : schedule.pending.Bounded

namespace Parallel

variable {group : TaskGroup}

theorem start (groups : List TaskGroup) {rules : Rules} (parallel : rules.sync = false)
    (mint : Mint) : (start groups rules mint).Parallel where
  parallel := parallel
  held := rfl
  relaunched := rfl
  bounded := by
    have none : ({} : Roster).Tracks [] := ⟨rfl, by simp⟩
    have size := (none.addAll groups mint).size
    simp only [Schedule.start, Queue.Bounded, Queue.load, List.length_map, List.countP_nil, size]
    exact Nat.le_max_left _ _

theorem not_sync (parallel : schedule.Parallel) : schedule.rules.sync ≠ true :=
  Bool.eq_false_iff.mp parallel.parallel

theorem withPending (parallel : schedule.Parallel) {pending : Queue} (bounded : pending.Bounded) :
    Parallel { schedule with pending := pending } :=
  ⟨parallel.parallel, parallel.held, parallel.relaunched, bounded⟩

theorem pop_eq (parallel : schedule.Parallel) :
    schedule.pop = schedule.pending.take?.map fun (group, pending) =>
      (group, { schedule with pending := pending }) := by
  simp [pop, next?, parallel.parallel, parallel.held]

theorem append_eq (parallel : schedule.Parallel) (group : TaskGroup) :
    schedule.append group = schedule.enqueue group := by
  simp [append, parallel.parallel]

theorem pendingSize_eq (parallel : schedule.Parallel) :
    schedule.pendingSize = schedule.pending.items.length := by
  have none : schedule.relaunched.items = [] := by
    have empty := parallel.relaunched
    simp only [Queue.groups, List.append_eq_nil_iff] at empty
    exact empty.1.1
  simp [pendingSize, Queue.size, none, parallel.held]

theorem pops (parallel : schedule.Parallel) (pops : Pops schedule group after) :
    after.Parallel := by
  cases pops with
  | relaunched sync taken => exact absurd sync parallel.not_sync
  | opened sync empty gate next => exact absurd sync parallel.not_sync
  | parallel _ next =>
      cases next with
      | held found => exact absurd (parallel.held.symm.trans found) (by simp)
      | pending absent taken =>
          exact parallel.withPending (Queue.bounded_take? taken parallel.bounded)

theorem appends (parallel : schedule.Parallel) {answer : Schedule × Except Failure Unit}
    (appends : Appends schedule group answer) : answer.1.Parallel := by
  cases appends with
  | held sync empty => exact absurd sync parallel.not_sync
  | displaced sync found pushed => exact absurd sync parallel.not_sync
  | overflow sync found full => exact absurd sync parallel.not_sync
  | queued _ pushed => exact parallel.withPending (Queue.bounded_push? pushed)
  | full _ full => exact parallel

theorem requeues (parallel : schedule.Parallel) {milliseconds : Nat}
    {answer : Schedule × Except Failure Unit}
    (requeues : Requeues schedule group milliseconds answer) : answer.1.Parallel := by
  cases requeues with
  | delayed late => exact ⟨parallel.parallel, parallel.held, parallel.relaunched, parallel.bounded⟩
  | relaunched sync pushed => exact absurd sync parallel.not_sync
  | queued _ pushed => exact parallel.withPending (Queue.bounded_push? pushed)
  | relaunchedFull sync full => exact parallel
  | pendingFull _ full => exact parallel

theorem applies (parallel : schedule.Parallel) {pause : Nat → Nat} {status : Status}
    {answer : Schedule × Except Failure Unit} (applies : Applies schedule pause status answer) :
    answer.1.Parallel := by
  cases applies with
  | @relaunched index tracked owner found restarts allowed answer queued =>
      have renewed : (schedule.renewed index tracked).Parallel :=
        ⟨parallel.parallel, parallel.held, parallel.relaunched, parallel.bounded⟩
      exact renewed.requeues queued
  | recorded owner final sound =>
      exact ⟨parallel.parallel, parallel.held, parallel.relaunched, parallel.bounded⟩
  | _ => exact parallel

theorem comeBack (parallel : schedule.Parallel) (position : Nat) :
    (schedule.comeBack position).Parallel := by
  unfold Schedule.comeBack
  split
  · exact parallel
  · rename_i delayed found
    rw [arrive, if_neg parallel.not_sync]
    exact ⟨parallel.parallel, parallel.held, parallel.relaunched,
      Queue.bounded_await parallel.bounded delayed.group⟩

theorem settle (parallel : schedule.Parallel) : schedule.settle.Parallel := by
  refine ⟨parallel.parallel, parallel.held, ?_, Queue.bounded_settle parallel.bounded⟩
  have perm := schedule.relaunched.groups_settle
  rw [parallel.relaunched] at perm
  exact perm.eq_nil

end Parallel

theorem parallel_play {groups : List TaskGroup} {rules : Rules} (parallel : rules.sync = false)
    (mint : Mint) (acts : List Act) :
    ((Course.start groups rules mint).play acts).schedule.Parallel := by
  refine Course.play_invariant (motive := fun course => course.schedule.Parallel)
    (.start groups parallel mint) ?_ acts
  intro course act before
  have performs := course.performs_perform act
  generalize course.perform act = after at performs
  cases performs with
  | nothing act => exact before
  | popped pops => exact before.pops pops
  | launched found => exact before
  | appended found appends => exact before.appends appends
  | reported applies => exact before.applies applies
  | cameBack position => exact before.comeBack position
  | settled => exact before.settle
  | passed milliseconds => exact ⟨before.parallel, before.held, before.relaunched, before.bounded⟩

end Convoy.Schedule
