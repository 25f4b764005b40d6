import Convoy.Proofs.Identity.Renewal
import Mathlib.GroupTheory.Perm.ViaEmbedding

/-!
# Groups under other stamps

A permutation of the stamps renames the identifiers that a mint hands out, and no others. A renewal
forgets the stamps that it replaces, so it is the same for a group under other stamps. Two groups
that are renewed one after the other take two blocks of stamps, and `exchange` is what the other
order amounts to.
-/
namespace Convoy

open Equiv (Perm)

/-- Exchanges a block of stamps with the block after it. -/
def exchange (first size next : Nat) : Perm Nat where
  toFun n :=
    if n < first then n
    else if n < first + size then n + next
    else if n < first + size + next then n - size
    else n
  invFun n :=
    if n < first then n
    else if n < first + next then n + size
    else if n < first + next + size then n - next
    else n
  left_inv n := by dsimp only; split_ifs <;> omega
  right_inv n := by dsimp only; split_ifs <;> omega

section Exchange

variable {first size next n : Nat}

theorem exchange_of_lt (early : n < first) : exchange first size next n = n :=
  if_pos early

theorem exchange_of_le (late : first + size + next ≤ n) : exchange first size next n = n := by
  show ite _ _ _ = n
  rw [if_neg (by omega), if_neg (by omega), if_neg (by omega)]

theorem exchange_first (within : n < size) :
    exchange first size next (first + n) = first + next + n := by
  show ite _ _ _ = _
  rw [if_neg (by omega), if_pos (by omega)]
  omega

theorem exchange_second (within : n < next) :
    exchange first size next (first + size + n) = first + n := by
  show ite _ _ _ = _
  rw [if_neg (by omega), if_neg (by omega), if_pos (by omega)]
  omega

end Exchange

/-- The permutation moves only stamps that were handed out after the early mint and before the late
one. -/
def MovesBetween (early late : Mint) (stamps : Perm Nat) : Prop :=
  ∀ n, stamps n ≠ n → early.issued ≤ n ∧ n < late.issued

namespace MovesBetween

variable {early middle late : Mint} {stamps others : Perm Nat} {n : Nat}

theorem one : MovesBetween early late 1 :=
  fun _ moved => absurd rfl moved

theorem mul (first : MovesBetween early late stamps) (second : MovesBetween early late others) :
    MovesBetween early late (others * stamps) := by
  intro n moved
  by_cases kept : stamps n = n
  · refine second n fun still => moved ?_
    rw [Perm.mul_apply, kept, still]
  · exact first n kept

theorem mono (moves : MovesBetween middle late stamps) (later : early.issued ≤ middle.issued) :
    MovesBetween early late stamps :=
  fun n moved => ⟨Nat.le_trans later (moves n moved).1, (moves n moved).2⟩

theorem of_lt (moves : MovesBetween early late stamps) (before : n < early.issued) :
    stamps n = n :=
  not_not.mp fun moved => absurd (moves n moved).1 (by omega)

theorem of_le (moves : MovesBetween early late stamps) (after : late.issued ≤ n) : stamps n = n :=
  not_not.mp fun moved => absurd (moves n moved).2 (by omega)

theorem exchange (first size next : Nat) :
    MovesBetween ⟨first⟩ ⟨first + size + next⟩ (exchange first size next) := by
  intro n moved
  constructor
  · exact Nat.le_of_not_lt fun early => moved (exchange_of_lt early)
  · exact Nat.lt_of_not_le fun late => moved (exchange_of_le late)

end MovesBetween

noncomputable def TaskId.restamp (stamps : Perm Nat) : Perm TaskId :=
  stamps.viaEmbedding ⟨TaskId.stamped, fun _ _ => TaskId.stamped_injective⟩

noncomputable def ExecutorId.restamp (stamps : Perm Nat) : Perm ExecutorId :=
  stamps.viaEmbedding ⟨ExecutorId.stamped, fun _ _ => ExecutorId.stamped_injective⟩

variable {early late : Mint} {stamps : Perm Nat}

theorem TaskId.restamp_stamped (stamps : Perm Nat) (n : Nat) :
    restamp stamps (.stamped n) = .stamped (stamps n) :=
  stamps.viaEmbedding_apply _ n

theorem ExecutorId.restamp_stamped (stamps : Perm Nat) (n : Nat) :
    restamp stamps (.stamped n) = .stamped (stamps n) :=
  stamps.viaEmbedding_apply _ n

theorem TaskId.restamp_one : restamp 1 = 1 := by
  rw [restamp, ← Perm.viaEmbeddingHom_apply, map_one]

theorem ExecutorId.restamp_one : restamp 1 = 1 := by
  rw [restamp, ← Perm.viaEmbeddingHom_apply, map_one]

theorem TaskId.restamp_mul (stamps others : Perm Nat) :
    restamp (others * stamps) = restamp others * restamp stamps := by
  simp only [restamp, ← Perm.viaEmbeddingHom_apply, map_mul]

theorem ExecutorId.restamp_mul (stamps others : Perm Nat) :
    restamp (others * stamps) = restamp others * restamp stamps := by
  simp only [restamp, ← Perm.viaEmbeddingHom_apply, map_mul]

theorem Mint.Issued.restamp {task : TaskId} (issued : early.Issued task)
    (moves : MovesBetween early late stamps) : TaskId.restamp stamps task = task := by
  obtain ⟨n, below, rfl⟩ := issued
  rw [TaskId.restamp_stamped, moves.of_lt below]

theorem Mint.IssuedExecutor.restamp {executor : ExecutorId}
    (issued : early.IssuedExecutor executor) (moves : MovesBetween early late stamps) :
    ExecutorId.restamp stamps executor = executor := by
  obtain ⟨n, below, rfl⟩ := issued
  rw [ExecutorId.restamp_stamped, moves.of_lt below]

namespace Task

noncomputable def restamp (stamps : Perm Nat) (task : Task) : Task :=
  { task with id := TaskId.restamp stamps task.id }

theorem renewAll_restamp (stamps : Perm Nat) (tasks : List Task) (mint : Mint) :
    renewAll (tasks.map (restamp stamps)) mint = renewAll tasks mint := by
  induction tasks generalizing mint with
  | nil => rfl
  | cons task rest ih =>
      have later := ih mint.task.2
      show (_ :: (renewAll _ _).1, (renewAll _ _).2) = _
      rw [later]
      rfl

theorem restamp_renewAll {tasks : List Task}
    (shifted : ∀ k < tasks.length, stamps (early.issued + k) = late.issued + k) :
    (renewAll tasks early).1.map (restamp stamps) = (renewAll tasks late).1 := by
  induction tasks generalizing early late with
  | nil => rfl
  | cons task rest ih =>
      have here : TaskId.restamp stamps early.task.1 = late.task.1 :=
        (TaskId.restamp_stamped _ _).trans (congrArg _ (shifted 0 (by simp)))
      have later : (renewAll rest early.task.2).1.map (restamp stamps) =
          (renewAll rest late.task.2).1 := by
        refine ih fun k below => ?_
        have next := shifted (k + 1) (Nat.succ_lt_succ below)
        rwa [Nat.add_comm k 1, ← Nat.add_assoc, ← Nat.add_assoc] at next
      show restamp stamps { task with id := early.task.1, agent := none } :: _ =
        { task with id := late.task.1, agent := none } :: _
      rw [restamp, here, later]

end Task

namespace TaskGroup

variable {group : TaskGroup}

@[ext]
theorem ext {first second : TaskGroup} (tasks : first.tasks = second.tasks)
    (networks : first.networks = second.networks) (executor : first.executor = second.executor) :
    first = second := by
  cases first
  cases second
  simp_all

noncomputable def restamp (stamps : Perm Nat) (group : TaskGroup) : TaskGroup :=
  { group.mapTasks (Task.restamp stamps) with
    executor := { group.executor with id := ExecutorId.restamp stamps group.executor.id } }

theorem taskIds_restamp :
    (group.restamp stamps).taskIds = group.taskIds.map (TaskId.restamp stamps) := by
  simp only [taskIds, restamp, mapTasks, List.map_map]
  rfl

theorem restamp_one (group : TaskGroup) : group.restamp 1 = group := by
  have same : Task.restamp 1 = id := by
    funext task
    rw [Task.restamp, TaskId.restamp_one]
    rfl
  ext1
  case tasks =>
    show group.tasks.map _ = group.tasks
    rw [same, List.map_id]
  case networks => rfl
  case executor => rw [restamp, ExecutorId.restamp_one]; rfl

theorem restamp_mul (group : TaskGroup) (stamps others : Perm Nat) :
    group.restamp (others * stamps) = (group.restamp stamps).restamp others := by
  have same : Task.restamp (others * stamps) = Task.restamp others ∘ Task.restamp stamps := by
    funext task
    simp only [Function.comp_apply, Task.restamp, TaskId.restamp_mul, Perm.mul_apply]
  ext1
  case tasks =>
    show group.tasks.map _ = (group.tasks.map _).map _
    rw [same, List.map_map]
  case networks => simp only [restamp, mapTasks]
  case executor => simp only [restamp, ExecutorId.restamp_mul, Perm.mul_apply]

theorem renew_restamp (stamps : Perm Nat) (group : TaskGroup) (mint : Mint) :
    (group.restamp stamps).renew mint = group.renew mint := by
  obtain ⟨tasks, counted⟩ :=
    Prod.ext_iff.mp (Task.renewAll_restamp stamps group.tasks mint.executor.2)
  refine Prod.ext ?_ counted
  ext1
  case tasks => exact tasks
  case networks => rfl
  case executor => rfl

theorem mint_renew (group : TaskGroup) (mint : Mint) :
    (group.renew mint).2 = ⟨mint.issued + (1 + group.size)⟩ := by
  have counted := group.issued_renew mint
  rw [Nat.add_assoc] at counted
  exact congrArg Mint.mk counted

/-- A renewal from shifted stamps. -/
theorem restamp_renew
    (shifted : ∀ k < 1 + group.size, stamps (early.issued + k) = late.issued + k) :
    (group.renew early).1.restamp stamps = (group.renew late).1 := by
  have executor : ExecutorId.restamp stamps early.executor.1 = late.executor.1 :=
    (ExecutorId.restamp_stamped _ _).trans (congrArg _ (shifted 0 (by omega)))
  ext1
  case tasks =>
    refine Task.restamp_renewAll fun k below => ?_
    have next := shifted (1 + k) (by unfold size; omega)
    rwa [← Nat.add_assoc, ← Nat.add_assoc] at next
  case networks => rfl
  case executor => exact congrArg (fun id => { group.executor with id := id }) executor

/-- The mint handed out the identities of the group. -/
structure Stamped (mint : Mint) (group : TaskGroup) : Prop where
  tasks : ∀ task ∈ group.taskIds, mint.Issued task
  executor : mint.IssuedExecutor group.executor.id

namespace Stamped

theorem mono (stamped : group.Stamped early) (later : early.issued ≤ late.issued) :
    group.Stamped late where
  tasks task member := (stamped.tasks task member).mono later
  executor := stamped.executor.mono later

theorem renew (group : TaskGroup) (mint : Mint) :
    (group.renew mint).1.Stamped (group.renew mint).2 where
  tasks _ := group.issued_of_mem_renew mint
  executor := group.issuedExecutor_renew mint

theorem restamp (stamped : group.Stamped early) (moves : MovesBetween early late stamps) :
    group.restamp stamps = group := by
  ext1
  case tasks =>
    refine (List.map_congr_left fun task member => ?_).trans (List.map_id _)
    rw [Task.restamp, (stamped.tasks task.id (List.mem_map_of_mem member)).restamp moves]
    rfl
  case networks => rfl
  case executor => rw [TaskGroup.restamp, stamped.executor.restamp moves]

end Stamped
end TaskGroup
end Convoy
