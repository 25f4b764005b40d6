import Convoy.Proofs.TaskGroup.Changes

/-!
# Networks of a launch

A group declares networks for its tasks to share. They are joined by the container of the executor,
and the executor is part of a launch only if the group has several tasks. The container of a task
joins the networks that the task itself declares, whatever the group goes through.
-/
namespace Convoy

theorem Container.networks_normalize (container : Container) :
    container.normalize.networks = container.networks := by
  unfold normalize
  split <;> rfl

namespace Operation

/-- All containers that an operation asks an agent for. -/
def containers : Operation → List Container
  | .launch tasks => tasks.filterMap (·.container)
  | .launchGroup executor tasks => tasks.filterMap (·.container) ++ executor.container.toList

/-- One of the containers joins the networks, in order. -/
def Joins (operation : Operation) (networks : List Network) : Prop :=
  ∃ container ∈ operation.containers, networks.Sublist container.networks

theorem joins_iff {operation : Operation} {networks : List Network} :
    operation.Joins networks ↔
      ∃ joined ∈ operation.containers.map (·.networks), networks.Sublist joined := by
  simp only [Joins, List.mem_map, exists_exists_and_eq_and]

end Operation

namespace Task

/-- The networks that the task itself declares. -/
def networks (task : Task) : List Network :=
  (task.container.getD {}).networks

theorem networks_normalize (task : Task) : task.normalize.networks = task.networks :=
  Container.networks_normalize _

theorem networks_edit {task after : Task} (edit : task.Edit after) :
    after.networks = task.networks := by
  cases edit with
  | inDocker => exact networks_normalize { task with container := some _ }
  | _ => rfl

theorem isSome_container_edit {task after : Task} (edit : task.Edit after)
    (contained : task.container.isSome) : after.container.isSome := by
  cases edit with
  | inDocker => rfl
  | _ => exact contained

theorem networks_filterMap_container {tasks : List Task}
    (contained : ∀ task ∈ tasks, task.container.isSome) :
    (tasks.filterMap (·.container)).map (·.networks) = tasks.map networks := by
  induction tasks with
  | nil => rfl
  | cons task rest ih =>
      obtain ⟨here, later⟩ := List.forall_mem_cons.mp contained
      obtain ⟨container, found⟩ := Option.isSome_iff_exists.mp here
      rw [List.filterMap_cons_some found, List.map_cons, List.map_cons, ih later, networks, found,
        Option.getD_some]

end Task

namespace TaskGroup

theorem container_executor_changeAll (group : TaskGroup) (changes : List Change) :
    (group.changeAll changes).executor.container = group.executor.container := by
  induction changes generalizing group with
  | nil => rfl
  | cons first rest ih =>
      refine (ih (group.change first)).trans ?_
      cases first with
      | inDocker docker => cases docker <;> rfl
      | _ => rfl

/-- Every container of a launch, with the networks that it joins. -/
theorem networks_launch (tasks : List Task) (hasTask : tasks ≠ []) (networks : List Network)
    (mint : Mint) (changes : List Change) :
    ((build tasks hasTask networks mint).1.changeAll changes).launch.containers.map (·.networks) =
      tasks.map Task.networks ++ if 1 < tasks.length then [networks] else [] := by
  let group := (build tasks hasTask networks mint).1
  have contained : ∀ task ∈ (group.changeAll changes).tasks, task.container.isSome := by
    refine forall_tasks_changeAll Task.isSome_container_edit (fun task member => ?_) changes
    obtain ⟨declared, -, rfl⟩ := List.mem_map.mp member
    rfl
  have joined : (group.changeAll changes).tasks.map Task.networks = tasks.map Task.networks := by
    rw [map_tasks_changeAll group Task.networks_edit, show group.tasks = tasks.map Task.normalize
      from rfl, List.map_map]
    exact List.map_congr_left fun task _ => task.networks_normalize
  have own := (Task.networks_filterMap_container contained).trans joined
  have shared : (group.changeAll changes).executor.container =
      some { networks := networks } := group.container_executor_changeAll changes
  have lengths : (group.changeAll changes).tasks.length = tasks.length := by
    simpa using congrArg List.length joined
  show (group.changeAll changes).launch.containers.map (·.networks) = _
  unfold launch usesExecutor
  rw [lengths]
  by_cases several : 1 < tasks.length
  · rw [if_pos (decide_eq_true several), if_pos several]
    simp only [Operation.containers, List.map_append, own, shared, Option.toList_some,
      List.map_cons, List.map_nil]
  · rw [if_neg (by simpa using several), if_neg several, List.append_nil]
    exact own

/-- The networks of a group are joined by a container of its launch if it has several tasks. A task
alone is launched without the executor, and with it go the networks of the group: the launch joins
them only if the task declares them, too. -/
theorem joins_launch (tasks : List Task) (hasTask : tasks ≠ []) (networks : List Network)
    (mint : Mint) (changes : List Change) :
    let operation := ((build tasks hasTask networks mint).1.changeAll changes).launch
    operation.containers.map (·.networks) =
        tasks.map Task.networks ++ (if 1 < tasks.length then [networks] else []) ∧
      (operation.Joins networks ↔
        1 < tasks.length ∨ ∃ task ∈ tasks, networks.Sublist task.networks) := by
  intro operation
  have joined := networks_launch tasks hasTask networks mint changes
  refine ⟨joined, ?_⟩
  rw [Operation.joins_iff, joined]
  by_cases several : 1 < tasks.length
  · refine iff_of_true ⟨networks, ?_, List.Sublist.refl networks⟩ (.inl several)
    rw [if_pos several]
    exact List.mem_append_right _ (List.mem_singleton_self networks)
  · rw [if_neg several, List.append_nil, or_iff_right several]
    simp only [List.mem_map, exists_exists_and_eq_and]

/-- Two tasks, the first of which declares a network of its own, moved to Docker and renewed. -/
theorem joins_launch_two :
    let overlay : Network := { name := some "overlay", groups := ["public"] }
    let mesh : Network := { name := some "mesh" }
    let tasks : List Task :=
      [{ name := "web", id := .stamped 0, container := some { networks := [mesh] } },
       { name := "log", id := .stamped 1 }]
    let changes : List Change := [.inDocker true, .inRole "dev", .renew ⟨3⟩]
    ∃ hasTask : tasks ≠ [],
      let operation := ((build tasks hasTask [overlay, mesh] ⟨2⟩).1.changeAll changes).launch
      operation.containers.map (·.networks) = [[mesh], [], [overlay, mesh]] ∧
        operation.Joins [overlay, mesh] := by
  intro overlay mesh tasks changes
  have hasTask : tasks ≠ [] := List.cons_ne_nil _ _
  obtain ⟨joined, joins⟩ := joins_launch tasks hasTask [overlay, mesh] ⟨2⟩ changes
  exact ⟨hasTask, joined, joins.mpr (.inl (by decide))⟩

/-- A task alone, in a group that declares a network: no container of its launch joins it. -/
theorem networks_left_behind :
    let overlay : Network := { name := some "overlay" }
    let group := (build [{ name := "web", id := .stamped 0 }] (by simp) [overlay] ⟨1⟩).1
    group.networks = [overlay] ∧ ¬ group.launch.Joins [overlay] := by
  intro overlay group
  have joined : group.launch.containers.map (·.networks) = [[]] :=
    networks_launch [{ name := "web", id := .stamped 0 }] (by simp) [overlay] ⟨1⟩ []
  refine ⟨rfl, fun joins => ?_⟩
  rw [Operation.joins_iff, joined] at joins
  obtain ⟨networks, member, within⟩ := joins
  rw [List.mem_singleton.mp member] at within
  cases within

end TaskGroup
end Convoy
