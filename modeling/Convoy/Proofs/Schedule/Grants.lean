import Convoy.Proofs.Schedule.Offers

/-!
# Who may use a number

The launches on an offer hand the numbers of its ranges to tasks. Every number that a task carries is
offered, and tasks of different groups carry none in common. A group requires the numbers of its tasks
together, so two of its own tasks carry a number in common if both declare it, and not otherwise.
-/
namespace Convoy

/-- One of the task's resources has the number under the name. -/
def Task.Carries (task : Task) (name : String) (number : UInt64) : Prop :=
  ∃ resource ∈ task.resources, resource.Lists name number

/-- The tasks carry no number of any name in common. -/
def Task.Apart (first second : Task) : Prop :=
  ∀ name number, first.Carries name number → ¬ second.Carries name number

theorem TaskGroup.mem_range_requirement {group : TaskGroup} {task : Task} {name : String}
    {number : UInt64} (member : task ∈ group.tasks) (carries : task.Carries name number) :
    number ∈ group.requirement.range name := by
  obtain ⟨resource, here, lists⟩ := carries
  have inTasks : number ∈ (Ledger.ofResources (group.tasks.flatMap (·.resources))).range name :=
    Ledger.mem_range_ofResources.mpr
      ⟨resource, List.mem_flatMap.mpr ⟨task, member, here⟩, lists⟩
  unfold requirement
  dsimp only
  split
  · exact Ledger.mem_range_merge.mpr (.inl inTasks)
  · exact inTasks

theorem TaskGroup.tasks_launchOn (group : TaskGroup) (agent : AgentId) (framework : FrameworkId) :
    (group.launchOn agent framework).tasks =
      group.tasks.map fun task => { task with agent := some agent } :=
  tasks_launch _

theorem TaskGroup.mem_tasks_launchOn {group : TaskGroup} {agent : AgentId}
    {framework : FrameworkId} {task : Task}
    (member : task ∈ (group.launchOn agent framework).tasks) :
    ∃ declared ∈ group.tasks, task.resources = declared.resources := by
  rw [tasks_launchOn] at member
  obtain ⟨declared, present, rfl⟩ := List.mem_map.mp member
  exact ⟨declared, present, rfl⟩

theorem Task.carries_congr {task declared : Task} (same : task.resources = declared.resources)
    (name : String) (number : UInt64) :
    task.Carries name number ↔ declared.Carries name number := by
  rw [Carries, Carries, same]

theorem TaskGroup.pairwise_launchOn (group : TaskGroup) (agent : AgentId)
    (framework : FrameworkId) :
    (group.launchOn agent framework).tasks.Pairwise Task.Apart ↔
      group.tasks.Pairwise Task.Apart := by
  rw [tasks_launchOn, List.pairwise_map]
  exact Iff.rfl

/-- What the tasks of the operations on an offer carry: numbers of the offer, those of different groups
different ones. All tasks are apart if and only if each group declared its own tasks apart. -/
structure Exclusive (offered : List Resource) (launched : List TaskGroup)
    (operations : List Operation) : Prop where
  covered : ∀ operation ∈ operations, ∀ task ∈ operation.tasks, ∀ name number,
    task.Carries name number → ∃ resource ∈ offered, resource.Lists name number
  groups : operations.Pairwise fun first second =>
    ∀ task ∈ first.tasks, ∀ other ∈ second.tasks, task.Apart other
  tasks : (operations.flatMap (·.tasks)).Pairwise Task.Apart ↔
    ∀ group ∈ launched, group.tasks.Pairwise Task.Apart

theorem Divides.exclusive {offered : List Resource} {launched : List TaskGroup} {left : Ledger}
    (divides : Divides (Ledger.ofResources offered) launched left) (agent : AgentId)
    (framework : FrameworkId) :
    Exclusive offered launched (launched.map (·.launchOn agent framework)) := by
  have groups : (launched.map (·.launchOn agent framework)).Pairwise fun first second =>
      ∀ task ∈ first.tasks, ∀ other ∈ second.tasks, task.Apart other := by
    -- A number that tasks of two groups share would be required by both groups.
    refine List.pairwise_map.mpr (List.pairwise_iff_forall_sublist.mpr fun within => ?_)
    intro task inFirst other inSecond name number carries carried
    obtain ⟨declared, here, same⟩ := TaskGroup.mem_tasks_launchOn inFirst
    obtain ⟨known, there, equal⟩ := TaskGroup.mem_tasks_launchOn inSecond
    rw [Task.carries_congr same] at carries
    rw [Task.carries_congr equal] at carried
    exact List.pairwise_iff_forall_sublist.mp (divides.disjoint name) within number
      (TaskGroup.mem_range_requirement here carries) (TaskGroup.mem_range_requirement there carried)
  refine ⟨?_, groups, ?_⟩
  · intro operation member task inTasks name number carries
    obtain ⟨group, present, rfl⟩ := List.mem_map.mp member
    obtain ⟨declared, here, same⟩ := TaskGroup.mem_tasks_launchOn inTasks
    rw [Task.carries_congr same] at carries
    exact Ledger.mem_range_ofResources.mp (divides.covered name group present number
      (TaskGroup.mem_range_requirement here carries))
  · rw [List.pairwise_flatMap, and_iff_left groups, List.forall_mem_map]
    exact forall₂_congr fun group _ => group.pairwise_launchOn agent framework

namespace Schedule

variable {schedule after : Schedule}

/-- The launches on an offer hand out its numbers, and none of them to tasks of two groups. Tasks of
one group share a number if and only if that group declared it for both. -/
theorem exclusive_matchOffer {offer : Offer} {framework : FrameworkId} {result : Match}
    (matched : schedule.matchOffer offer framework = (after, .ok result)) :
    ∃ launched : List TaskGroup,
      result.operations = launched.map (·.launchOn offer.agent framework) ∧
      schedule.ready.Perm (launched ++ after.ready) ∧
      Exclusive offer.resources launched result.operations := by
  obtain ⟨launched, operations, perm, spends⟩ := spends_matchOffer matched
  have divides := (Divides.start _).spend spends
  exact ⟨launched, operations, perm, operations ▸ divides.exclusive offer.agent framework⟩

theorem exclusive_port :
    let offer : Offer :=
      { id := ⟨"offer", by decide⟩
        agent := ⟨"agent", by decide⟩
        resources := [.scalar "cpus" 1.0, .scalar "mem" 512.0, .scalar "disk" 512.0,
          .ranges "ports" [⟨80, 80⟩]] }
    let framework : FrameworkId := ⟨"framework", by decide⟩
    let task (name : String) (number : Nat) : Task :=
      { name := name, id := .stamped number, resources := [.ranges "ports" [⟨80, 80⟩]] }
    let group := (TaskGroup.build [task "web" 0, task "proxy" 1] (by simp) [] ⟨2⟩).1
    let schedule := start [group] {} ⟨3⟩
    ∃ after result launched,
      schedule.matchOffer offer framework = (after, .ok result) ∧
        result.operations = launched.map (·.launchOn offer.agent framework) ∧
        schedule.ready.Perm (launched ++ after.ready) ∧
        Exclusive offer.resources launched result.operations := by
  intro offer framework task group schedule
  have matched : ∃ result, (schedule.matchOffer offer framework).2 = .ok result := ⟨_, rfl⟩
  obtain ⟨result, accepted⟩ := matched
  have matched : schedule.matchOffer offer framework =
      ((schedule.matchOffer offer framework).1, .ok result) := by rw [← accepted]
  obtain ⟨launched, parts⟩ := exclusive_matchOffer matched
  exact ⟨_, result, launched, matched, parts⟩

/-- Two tasks of a group that declare the same port are launched with it, both of them. -/
theorem port_granted_twice :
    let offer : Offer :=
      { id := ⟨"offer", by decide⟩
        agent := ⟨"agent", by decide⟩
        resources := [.scalar "cpus" 1.0, .scalar "mem" 512.0, .scalar "disk" 512.0,
          .ranges "ports" [⟨80, 80⟩]] }
    let framework : FrameworkId := ⟨"framework", by decide⟩
    let task (name : String) (number : Nat) : Task :=
      { name := name, id := .stamped number, resources := [.ranges "ports" [⟨80, 80⟩]] }
    let group := (TaskGroup.build [task "web" 0, task "proxy" 1] (by simp) [] ⟨2⟩).1
    let schedule := start [group] {} ⟨3⟩
    ∃ after result, schedule.matchOffer offer framework = (after, .ok result) ∧
      ¬ (result.operations.flatMap (·.tasks)).Pairwise Task.Apart := by
  intro offer framework task group schedule
  refine ⟨_, _, rfl, fun apart => ?_⟩
  have carries (web : Task) (same : web.resources = (task "web" 0).normalize.resources) :
      web.Carries "ports" 80 :=
    ⟨.ranges "ports" [⟨80, 80⟩], by rw [same]; exact List.mem_cons_self, rfl, rfl, ⟨80, 80⟩,
      List.mem_cons_self, UInt64.le_refl _, UInt64.le_refl _⟩
  have first := (List.pairwise_cons.mp apart).1 _ List.mem_cons_self
  exact first "ports" 80 (carries _ rfl) (carries _ rfl)

end Schedule
end Convoy
