import Convoy.Proofs.Schedule.Course
import Convoy.Proofs.Schedule.Steps

/-!
# The groups that wait

Queues move groups around, and only taking and putting changes which groups they have. A put cannot
fail while fewer groups wait than a queue has places for.
-/
namespace Convoy

namespace Queue

variable {queue after : Queue} {group : TaskGroup} {capacity : Nat}

/-- The queue has a capacity, and nobody waits for room in it. -/
structure Calm (capacity : Nat) (queue : Queue) : Prop where
  capacity : queue.capacity = capacity
  waiting : queue.waiting = []

theorem groups_take? (taken : queue.take? = some (group, after)) :
    queue.groups.Perm (group :: after.groups) := by
  unfold take? at taken
  split at taken
  · contradiction
  · rename_i found none
    cases taken
    simp only [groups, found, List.cons_append]
    exact .refl _
  · rename_i found waiting
    cases taken
    simp only [groups, found, waiting, List.cons_append, List.map_append, List.map_cons,
      List.map_nil, List.append_assoc, List.nil_append]
    exact .refl _

theorem take?_eq_some (taken : queue.take? = some (group, after)) (quiet : queue.waiting = []) :
    after = { queue with items := after.items } := by
  unfold take? at taken
  split at taken
  · contradiction
  · cases taken
    rfl
  · rename_i waiting
    rw [quiet] at waiting
    contradiction

theorem calm_take? (taken : queue.take? = some (group, after)) (calm : queue.Calm capacity) :
    after.Calm capacity := by
  rw [take?_eq_some taken calm.waiting]
  exact ⟨calm.capacity, calm.waiting⟩

theorem push?_eq_some (pushed : queue.push? group = some after) :
    after = { queue with items := queue.items ++ [group] } := by
  unfold push? at pushed
  split at pushed
  · exact (Option.some.inj pushed).symm
  · contradiction

theorem groups_push? (pushed : queue.push? group = some after) :
    after.groups.Perm (group :: queue.groups) := by
  rw [push?_eq_some pushed]
  simp only [groups, List.append_assoc, List.singleton_append]
  exact List.perm_middle

theorem calm_push? (pushed : queue.push? group = some after) (calm : queue.Calm capacity) :
    after.Calm capacity := by
  rw [push?_eq_some pushed]
  exact ⟨calm.capacity, calm.waiting⟩

theorem load_le (queue : Queue) : queue.load ≤ queue.groups.length := by
  have admitted := List.countP_le_length (p := (·.admitted)) (l := queue.entering)
  simp only [load, groups, List.length_append, List.length_map]
  omega

theorem push?_ne_none (calm : queue.Calm capacity) (room : queue.groups.length < capacity)
    (group : TaskGroup) : queue.push? group ≠ none := by
  have below : queue.load < queue.capacity := by
    rw [calm.capacity]
    exact Nat.lt_of_le_of_lt queue.load_le room
  simp [push?, hasRoom, below]

/-- Groups put one after another all find room. -/
theorem foldlM_push? (calm : queue.Calm capacity) (idle : queue.entering = [])
    {groups : List TaskGroup} (room : queue.items.length + groups.length ≤ capacity) :
    groups.foldlM push? queue = some { queue with items := queue.items ++ groups } := by
  induction groups generalizing queue with
  | nil => simp
  | cons group rest ih =>
      rw [List.length_cons] at room
      have present : queue.groups.length = queue.items.length := by
        simp [groups, idle, calm.waiting]
      cases pushed : queue.push? group with
      | none => exact absurd pushed (push?_ne_none calm (by omega) group)
      | some next =>
          rw [List.foldlM_cons, pushed]
          show rest.foldlM push? next = _
          have next_eq := push?_eq_some pushed
          rw [ih (calm_push? pushed calm) (by rw [next_eq]; exact idle) (by simp [next_eq]; omega),
            next_eq]
          simp

theorem groups_enter (queue : Queue) (entrants : List Entrant) :
    (queue.enter entrants).groups.Perm
      (queue.items ++ entrants.map (·.group) ++ queue.waiting) := by
  induction entrants generalizing queue with
  | nil => exact .refl _
  | cons entrant rest ih =>
      unfold enter
      dsimp only
      split
      · refine (ih _).trans ?_
        simp only [List.map_cons, List.append_assoc, List.singleton_append]
        exact .refl _
      · refine (ih _).trans ?_
        simp only [List.map_cons, List.append_assoc, List.cons_append]
        refine List.Perm.append_left queue.items ?_
        rw [← List.append_assoc]
        exact List.perm_append_comm

theorem calm_enter (calm : queue.Calm capacity) {entrants : List Entrant}
    (room : queue.items.length + entrants.length ≤ capacity) :
    (queue.enter entrants).Calm capacity := by
  induction entrants generalizing queue with
  | nil => exact ⟨calm.capacity, calm.waiting⟩
  | cons entrant rest ih =>
      rw [List.length_cons] at room
      -- Even if everyone behind kept a place, there would be one for this entrant.
      have admitted := List.countP_le_length (p := (·.admitted)) (l := rest)
      have below : queue.items.length + rest.countP (·.admitted) < queue.capacity := by
        rw [calm.capacity]
        omega
      unfold enter
      simp only [hasRoom, load, below, decide_true, Bool.or_true, if_true]
      refine ih ⟨calm.capacity, calm.waiting⟩ ?_
      simp only [List.length_append, List.length_singleton]
      omega

theorem groups_settle (queue : Queue) : queue.settle.groups.Perm queue.groups :=
  queue.groups_enter queue.entering

theorem calm_settle (calm : queue.Calm capacity) (room : queue.groups.length ≤ capacity) :
    queue.settle.Calm capacity := by
  refine calm_enter calm ?_
  simp only [groups, List.length_append, List.length_map] at room
  omega

theorem groups_await (queue : Queue) (group : TaskGroup) :
    (queue.await group).groups.Perm (group :: queue.groups) := by
  simp only [groups, await, List.map_append, List.map_cons, List.map_nil, List.append_assoc,
    List.singleton_append]
  rw [← List.append_assoc, ← List.append_assoc]
  exact List.perm_middle

/-- No more places are taken or kept than there are. -/
def Bounded (queue : Queue) : Prop :=
  queue.load ≤ queue.capacity

theorem bounded_take? (taken : queue.take? = some (group, after)) (bounded : queue.Bounded) :
    after.Bounded := by
  unfold take? at taken
  unfold Bounded load at bounded ⊢
  split at taken
  · contradiction
  · rename_i found none
    cases taken
    rw [found, List.length_cons] at bounded
    dsimp only
    omega
  · rename_i found waiting
    cases taken
    rw [found, List.length_cons] at bounded
    simp only [List.countP_append, List.countP_singleton, if_true]
    omega

theorem bounded_push? (pushed : queue.push? group = some after) : after.Bounded := by
  have same := push?_eq_some pushed
  unfold push? hasRoom load at pushed
  split at pushed
  · rename_i room
    have below := of_decide_eq_true room
    rw [same, Bounded, load, List.length_append, List.length_singleton]
    dsimp only
    omega
  · contradiction

theorem exists_take? {rest : List TaskGroup} (items : queue.items = group :: rest) :
    ∃ after, queue.take? = some (group, after) ∧ after.items = rest := by
  unfold take?
  rw [items]
  cases queue.waiting with
  | nil => exact ⟨_, rfl, rfl⟩
  | cons next later => exact ⟨_, rfl, rfl⟩

theorem entering_take? (taken : queue.take? = some (group, after)) :
    queue.entering <+: after.entering := by
  unfold take? at taken
  split at taken
  · contradiction
  · cases taken
    exact List.prefix_refl _
  · cases taken
    exact List.prefix_append _ _

/-- A group that was taken finds its place free, if nobody waited for it. -/
theorem push?_take? (taken : queue.take? = some (group, after)) (quiet : queue.waiting = [])
    (bounded : queue.Bounded) :
    after.push? group = some { queue with items := after.items ++ [group] } := by
  have items := items_take? taken
  rw [take?_eq_some taken quiet]
  unfold Bounded load at bounded
  rw [items, List.length_cons] at bounded
  refine if_pos (decide_eq_true ?_)
  simp only [load]
  omega

theorem bounded_await (bounded : queue.Bounded) (group : TaskGroup) :
    (queue.await group).Bounded := by
  simpa [Bounded, await, load] using bounded

theorem bounded_enter {entrants : List Entrant}
    (bounded : queue.items.length + entrants.countP (·.admitted) ≤ queue.capacity) :
    (queue.enter entrants).Bounded := by
  induction entrants generalizing queue with
  | nil => exact bounded
  | cons entrant rest ih =>
      rw [List.countP_cons] at bounded
      unfold enter
      dsimp only
      split
      · rename_i enters
        refine ih ?_
        simp only [List.length_append, List.length_singleton]
        rcases Bool.or_eq_true_iff.mp enters with admitted | room
        · rw [if_pos admitted] at bounded
          omega
        · have below := of_decide_eq_true room
          simp only [load] at below
          omega
      · exact ih (by dsimp only; omega)

theorem bounded_settle (bounded : queue.Bounded) : queue.settle.Bounded :=
  bounded_enter bounded

end Queue

namespace Schedule

variable {schedule after : Schedule} {group : TaskGroup} {capacity milliseconds : Nat}
  {answer : Schedule × Except Failure Unit}

/-- Every group that waits to be handed out, wherever it stands. -/
def queued (schedule : Schedule) : List TaskGroup :=
  schedule.pending.groups ++ schedule.relaunched.groups ++ schedule.held.toList ++
    schedule.delayed.map (·.group)

/-- Both queues have a capacity, and nobody waits for room in them. -/
structure Calm (capacity : Nat) (schedule : Schedule) : Prop where
  pending : schedule.pending.Calm capacity
  relaunched : schedule.relaunched.Calm capacity

theorem queued_nexts (nexts : Nexts schedule group after) :
    schedule.queued.Perm (group :: after.queued) := by
  classical
  cases nexts with
  | held found =>
      refine List.perm_iff_count.mpr fun other => ?_
      simp only [queued, found, Option.toList, List.count_append, List.count_cons, List.count_nil]
      omega
  | pending absent taken =>
      refine List.perm_iff_count.mpr fun other => ?_
      have counted := (Queue.groups_take? taken).count_eq other
      simp only [queued, List.count_append, List.count_cons] at counted ⊢
      omega

theorem calm_nexts (nexts : Nexts schedule group after) (calm : schedule.Calm capacity) :
    after.Calm capacity := by
  cases nexts with
  | held found => exact ⟨calm.pending, calm.relaunched⟩
  | pending absent taken => exact ⟨Queue.calm_take? taken calm.pending, calm.relaunched⟩

theorem queued_pops (pops : Pops schedule group after) :
    schedule.queued.Perm (group :: after.queued) := by
  classical
  cases pops with
  | relaunched sync taken =>
      refine List.perm_iff_count.mpr fun other => ?_
      have counted := (Queue.groups_take? taken).count_eq other
      simp only [queued, List.count_append, List.count_cons] at counted ⊢
      omega
  | opened sync empty gate next =>
      have perm := queued_nexts next
      exact perm
  | parallel parallel next => exact queued_nexts next

theorem calm_pops (pops : Pops schedule group after) (calm : schedule.Calm capacity) :
    after.Calm capacity := by
  cases pops with
  | relaunched sync taken => exact ⟨calm.pending, Queue.calm_take? taken calm.relaunched⟩
  | opened sync empty gate next =>
      have next := calm_nexts next calm
      exact ⟨next.pending, next.relaunched⟩
  | parallel parallel next => exact calm_nexts next calm

theorem queued_appends (appends : Appends schedule group answer) (taken : answer.2 = .ok ()) :
    answer.1.queued.Perm (group :: schedule.queued) := by
  classical
  cases appends with
  | held sync empty =>
      refine List.perm_iff_count.mpr fun other => ?_
      simp only [queued, empty, Option.toList, List.count_append, List.count_cons, List.count_nil]
      omega
  | displaced sync found pushed =>
      refine List.perm_iff_count.mpr fun other => ?_
      have counted := (Queue.groups_push? pushed).count_eq other
      simp only [queued, found, Option.toList, List.count_append, List.count_cons,
        List.count_nil] at counted ⊢
      omega
  | queued parallel pushed =>
      refine List.perm_iff_count.mpr fun other => ?_
      have counted := (Queue.groups_push? pushed).count_eq other
      simp only [queued, List.count_append, List.count_cons] at counted ⊢
      omega
  | overflow sync found full => contradiction
  | full parallel full => contradiction

theorem calm_appends (appends : Appends schedule group answer) (calm : schedule.Calm capacity) :
    answer.1.Calm capacity := by
  cases appends with
  | held sync empty => exact ⟨calm.pending, calm.relaunched⟩
  | displaced sync found pushed => exact ⟨Queue.calm_push? pushed calm.pending, calm.relaunched⟩
  | overflow sync found full => exact ⟨calm.pending, calm.relaunched⟩
  | queued parallel pushed => exact ⟨Queue.calm_push? pushed calm.pending, calm.relaunched⟩
  | full parallel full => exact calm

theorem Calm.pending_push? (calm : schedule.Calm capacity)
    (room : schedule.queued.length < capacity) (group : TaskGroup) :
    schedule.pending.push? group ≠ none := by
  refine Queue.push?_ne_none calm.pending ?_ group
  simp only [queued, List.length_append] at room
  omega

theorem Calm.relaunched_push? (calm : schedule.Calm capacity)
    (room : schedule.queued.length < capacity) (group : TaskGroup) :
    schedule.relaunched.push? group ≠ none := by
  refine Queue.push?_ne_none calm.relaunched ?_ group
  simp only [queued, List.length_append] at room
  omega

theorem taken_appends (appends : Appends schedule group answer) (calm : schedule.Calm capacity)
    (room : schedule.queued.length < capacity) : answer.2 = .ok () := by
  cases appends with
  | held sync empty => rfl
  | displaced sync found pushed => rfl
  | overflow sync found full => exact absurd full (calm.pending_push? room _)
  | queued parallel pushed => rfl
  | full parallel full => exact absurd full (calm.pending_push? room _)

theorem queued_requeues (requeues : Requeues schedule group milliseconds answer)
    (taken : answer.2 = .ok ()) : answer.1.queued.Perm (group :: schedule.queued) := by
  classical
  cases requeues with
  | delayed late =>
      refine List.perm_iff_count.mpr fun other => ?_
      simp only [queued, delay, List.map_append, List.map_cons, List.map_nil, List.count_append,
        List.count_cons, List.count_nil]
      omega
  | relaunched sync pushed =>
      refine List.perm_iff_count.mpr fun other => ?_
      have counted := (Queue.groups_push? pushed).count_eq other
      simp only [queued, List.count_append, List.count_cons] at counted ⊢
      omega
  | queued parallel pushed =>
      refine List.perm_iff_count.mpr fun other => ?_
      have counted := (Queue.groups_push? pushed).count_eq other
      simp only [queued, List.count_append, List.count_cons] at counted ⊢
      omega
  | relaunchedFull sync full => contradiction
  | pendingFull parallel full => contradiction

theorem calm_requeues (requeues : Requeues schedule group milliseconds answer)
    (calm : schedule.Calm capacity) : answer.1.Calm capacity := by
  cases requeues with
  | delayed late => exact ⟨calm.pending, calm.relaunched⟩
  | relaunched sync pushed => exact ⟨calm.pending, Queue.calm_push? pushed calm.relaunched⟩
  | queued parallel pushed => exact ⟨Queue.calm_push? pushed calm.pending, calm.relaunched⟩
  | relaunchedFull sync full => exact calm
  | pendingFull parallel full => exact calm

theorem taken_requeues (requeues : Requeues schedule group milliseconds answer)
    (calm : schedule.Calm capacity) (room : schedule.queued.length < capacity) :
    answer.2 = .ok () := by
  cases requeues with
  | delayed late => rfl
  | relaunched sync pushed => rfl
  | queued parallel pushed => rfl
  | relaunchedFull sync full => exact absurd full (calm.relaunched_push? room _)
  | pendingFull parallel full => exact absurd full (calm.pending_push? room _)

theorem queued_renewed (schedule : Schedule) (index : Nat) (tracked : Tracked) :
    (schedule.renewed index tracked).queued = schedule.queued :=
  rfl

theorem calm_renewed (calm : schedule.Calm capacity) (index : Nat) (tracked : Tracked) :
    (schedule.renewed index tracked).Calm capacity :=
  ⟨calm.pending, calm.relaunched⟩

theorem queued_comeBack (schedule : Schedule) (position : Nat) :
    (schedule.comeBack position).queued.Perm schedule.queued := by
  classical
  unfold comeBack
  split
  · exact .refl _
  · rename_i delayed found
    refine List.perm_iff_count.mpr fun other => ?_
    have left := ((perm_cons_eraseIdx found).map (·.group)).count_eq other
    have pending := (schedule.pending.groups_await delayed.group).count_eq other
    have relaunched := (schedule.relaunched.groups_await delayed.group).count_eq other
    unfold arrive
    split <;>
      simp only [queued, List.map_cons, List.count_append, List.count_cons] at * <;> omega

theorem calm_comeBack (calm : schedule.Calm capacity) (position : Nat) :
    (schedule.comeBack position).Calm capacity := by
  unfold comeBack arrive
  split
  · exact calm
  · split
    · exact ⟨calm.pending, calm.relaunched.capacity, calm.relaunched.waiting⟩
    · exact ⟨⟨calm.pending.capacity, calm.pending.waiting⟩, calm.relaunched⟩

theorem queued_settle (schedule : Schedule) : schedule.settle.queued.Perm schedule.queued :=
  ((schedule.pending.groups_settle.append schedule.relaunched.groups_settle).append_right
    schedule.held.toList).append_right _

theorem calm_settle (calm : schedule.Calm capacity) (room : schedule.queued.length ≤ capacity) :
    schedule.settle.Calm capacity := by
  simp only [queued, List.length_append] at room
  exact ⟨Queue.calm_settle calm.pending (by omega), Queue.calm_settle calm.relaunched (by omega)⟩

end Schedule
end Convoy
