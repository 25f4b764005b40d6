import Convoy.TaskGroup
import Convoy.Proofs.Identity.Stamps

/-!
# Groups under fresh identities

A renewal numbers the tasks of a group by consecutive stamps that the mint had not handed out. It
changes nothing but identities and the agent, so of several renewals only the last one shows.
-/
namespace Convoy

/-- The mint handed the identifier out. -/
def Mint.Issued (mint : Mint) (task : TaskId) : Prop :=
  ∃ n, n < mint.issued ∧ task = TaskId.stamped n

theorem Mint.Issued.mono {early late : Mint} {task : TaskId}
    (issued : early.Issued task) (later : early.issued ≤ late.issued) : late.Issued task := by
  obtain ⟨n, below, rfl⟩ := issued
  exact ⟨n, Nat.lt_of_lt_of_le below later, rfl⟩

/-- The mint handed the identifier out to an executor. -/
def Mint.IssuedExecutor (mint : Mint) (executor : ExecutorId) : Prop :=
  ∃ n, n < mint.issued ∧ executor = ExecutorId.stamped n

theorem Mint.IssuedExecutor.mono {early late : Mint} {executor : ExecutorId}
    (issued : early.IssuedExecutor executor) (later : early.issued ≤ late.issued) :
    late.IssuedExecutor executor := by
  obtain ⟨n, below, rfl⟩ := issued
  exact ⟨n, Nat.lt_of_lt_of_le below later, rfl⟩

namespace Task

theorem issued_renewAll (tasks : List Task) (mint : Mint) :
    (renewAll tasks mint).2.issued = mint.issued + tasks.length := by
  induction tasks generalizing mint with
  | nil => rfl
  | cons task rest ih =>
      show (renewAll rest mint.task.2).2.issued = mint.issued + (rest.length + 1)
      rw [ih mint.task.2]
      show mint.issued + 1 + rest.length = mint.issued + (rest.length + 1)
      omega

theorem id_renewAll (tasks : List Task) (mint : Mint) :
    (renewAll tasks mint).1.map (·.id) =
      (List.range' mint.issued tasks.length).map TaskId.stamped := by
  induction tasks generalizing mint with
  | nil => rfl
  | cons task rest ih =>
      show mint.task.1 :: (renewAll rest mint.task.2).1.map (·.id) =
        (List.range' mint.issued (rest.length + 1)).map TaskId.stamped
      rw [ih mint.task.2, List.range'_succ]
      rfl

theorem renewAll_renewAll (tasks : List Task) (first second : Mint) :
    (renewAll (renewAll tasks first).1 second).1 = (renewAll tasks second).1 := by
  induction tasks generalizing first second with
  | nil => rfl
  | cons task rest ih =>
      show _ :: (renewAll (renewAll rest first.task.2).1 second.task.2).1 =
        _ :: (renewAll rest second.task.2).1
      rw [ih first.task.2 second.task.2]

end Task

namespace TaskGroup

variable (group : TaskGroup) (mint : Mint)

theorem taskIds_ne_nil : group.taskIds ≠ [] := by
  simp [taskIds, group.hasTask]

theorem issued_renew : (group.renew mint).2.issued = mint.issued + 1 + group.size :=
  Task.issued_renewAll group.tasks mint.executor.2

theorem taskIds_renew : (group.renew mint).1.taskIds =
    (List.range' (mint.issued + 1) group.size).map TaskId.stamped :=
  Task.id_renewAll group.tasks mint.executor.2

theorem nodup_taskIds_renew : (group.renew mint).1.taskIds.Nodup := by
  rw [taskIds_renew]
  exact List.Pairwise.map _ (fun _ _ different same => different (TaskId.stamped_injective same))
    List.nodup_range'

theorem issued_of_mem_renew {task : TaskId} (member : task ∈ (group.renew mint).1.taskIds) :
    (group.renew mint).2.Issued task := by
  rw [taskIds_renew] at member
  obtain ⟨n, range, rfl⟩ := List.mem_map.mp member
  have bounds := List.mem_range'_1.mp range
  exact ⟨n, by rw [issued_renew]; exact bounds.2, rfl⟩

theorem not_issued_of_mem_renew {task : TaskId} (member : task ∈ (group.renew mint).1.taskIds) :
    ¬ mint.Issued task := by
  rw [taskIds_renew] at member
  obtain ⟨n, range, rfl⟩ := List.mem_map.mp member
  have bounds := List.mem_range'_1.mp range
  rintro ⟨m, below, same⟩
  have equal := TaskId.stamped_injective same
  omega

theorem issuedExecutor_renew :
    (group.renew mint).2.IssuedExecutor (group.renew mint).1.executor.id :=
  ⟨mint.issued, by rw [issued_renew]; omega, rfl⟩

theorem not_issuedExecutor_renew : ¬ mint.IssuedExecutor (group.renew mint).1.executor.id := by
  rintro ⟨n, below, same⟩
  have equal : mint.issued = n := ExecutorId.stamped_injective same
  omega

/-- The group is another one under some fresh identities. -/
def RenewalOf (original : TaskGroup) : Prop :=
  ∃ mint, group = (original.renew mint).1

theorem renew_renew (first second : Mint) :
    ((group.renew first).1.renew second).1 = (group.renew second).1 := by
  have tasks := Task.renewAll_renewAll group.tasks first.executor.2 second.executor.2
  simp only [renew, tasks]

theorem RenewalOf.renew {group original : TaskGroup} (renewal : group.RenewalOf original)
    (mint : Mint) : (group.renew mint).1.RenewalOf original := by
  obtain ⟨earlier, rfl⟩ := renewal
  exact ⟨mint, original.renew_renew earlier mint⟩

end TaskGroup
end Convoy
