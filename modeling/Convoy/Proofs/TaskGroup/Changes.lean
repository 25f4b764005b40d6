import Convoy.Proofs.Identity.Renewal
import Convoy.Proofs.Ledger.Merging
import Convoy.Schedule.Offers

/-!
# Changing a group

Between its attempts a group is bound to agents and frameworks, moved to a role or to Docker, made
to reserve the ports that it publishes, and renewed. What it requires is the sum of what its launch
asks for after any such changes, and only reserving ports adds to it: a role is not counted, and a
task in normal form has every standard resource already when Docker brings it into normal form
again.
-/
namespace Convoy

/-- All that an operation asks an agent for. -/
def Operation.resources : Operation → List Resource
  | .launch tasks => tasks.flatMap (·.resources)
  | .launchGroup executor tasks => tasks.flatMap (·.resources) ++ executor.resources

theorem Ledger.ofResources_inRole (resources : List Resource) (role : String) :
    ofResources (resources.map (Resource.inRole role)) = ofResources resources :=
  List.foldl_map

namespace Task

/-- Every standard resource is declared, in whatever quantity. -/
def NamesStandard (resources : List Resource) : Prop :=
  ∀ standard ∈ standardResources, standard.name ∈ resources.map (·.name)

theorem NamesStandard.append {resources : List Resource} (names : NamesStandard resources)
    (more : List Resource) : NamesStandard (resources ++ more) := by
  intro standard member
  rw [List.map_append]
  exact List.mem_append_left _ (names standard member)

theorem NamesStandard.inRole {resources : List Resource} (names : NamesStandard resources)
    (role : String) : NamesStandard (resources.map (Resource.inRole role)) := by
  intro standard member
  rw [List.map_map]
  exact names standard member

theorem namesStandard_withStandard (resources : List Resource) :
    NamesStandard (withStandard resources) := by
  intro standard member
  by_cases declared : standard.name ∈ resources.map (·.name)
  case pos =>
    rw [withStandard, List.map_append]
    exact List.mem_append_left _ declared
  case neg =>
    have missing : (!resources.any fun known => known.name == standard.name) = true := by
      simpa using declared
    have added : standard ∈ withStandard resources :=
      List.mem_append_right resources (List.mem_filter.mpr ⟨member, missing⟩)
    exact List.mem_map_of_mem added

theorem withStandard_of_names {resources : List Resource} (names : NamesStandard resources) :
    withStandard resources = resources := by
  refine List.append_right_eq_self.mpr (List.filter_eq_nil_iff.mpr fun standard member => ?_)
  simpa using names standard member

theorem resources_renewAll (tasks : List Task) (mint : Mint) :
    (renewAll tasks mint).1.map (·.resources) = tasks.map (·.resources) := by
  induction tasks generalizing mint with
  | nil => rfl
  | cons task rest ih => exact congrArg (task.resources :: ·) (ih mint.task.2)

/-- What a change of a group may do with one of its tasks. -/
inductive Edit (task : Task) : Task → Prop where
  | same : Edit task task
  | onAgent (agent : AgentId) : Edit task { task with agent := some agent }
  | inRole (role : String) :
      Edit task { task with resources := task.resources.map (Resource.inRole role) }
  | inDocker : Edit task task.inDocker
  | reservingPorts : Edit task task.reservingPorts
  | renew (id : TaskId) : Edit task { task with id := id, agent := none }

theorem edits_renewAll (tasks : List Task) (mint : Mint) :
    List.Forall₂ Edit tasks (renewAll tasks mint).1 := by
  induction tasks generalizing mint with
  | nil => exact .nil
  | cons task rest ih => exact .cons (.renew mint.task.1) (ih mint.task.2)

theorem forall_of_edits {motive : Task → Prop}
    (kept : ∀ {task after : Task}, task.Edit after → motive task → motive after)
    {tasks afters : List Task} (edits : List.Forall₂ Edit tasks afters)
    (holds : ∀ task ∈ tasks, motive task) : ∀ task ∈ afters, motive task := by
  induction edits with
  | nil => exact holds
  | cons edit _ ih =>
      obtain ⟨here, later⟩ := List.forall_mem_cons.mp holds
      exact List.forall_mem_cons.mpr ⟨kept edit here, ih later⟩

theorem map_of_edits {α : Type} {view : Task → α}
    (kept : ∀ {task after : Task}, task.Edit after → view after = view task)
    {tasks afters : List Task} (edits : List.Forall₂ Edit tasks afters) :
    afters.map view = tasks.map view := by
  induction edits with
  | nil => rfl
  | cons edit _ ih => rw [List.map_cons, List.map_cons, kept edit, ih]

theorem NamesStandard.edit {task after : Task} (names : NamesStandard task.resources)
    (edit : task.Edit after) : NamesStandard after.resources := by
  cases edit with
  | same => exact names
  | onAgent agent => exact names
  | inRole role => exact names.inRole role
  | inDocker => exact namesStandard_withStandard task.resources
  | reservingPorts => exact names.append _
  | renew id => exact names

end Task

namespace TaskGroup

/-- What a group may go through once it is built. -/
inductive Change where
  | onAgent (agent : AgentId)
  | ofFramework (framework : FrameworkId)
  | inRole (role : String)
  | inDocker (docker : Bool)
  | reservingPorts
  | renew (mint : Mint)

variable (group : TaskGroup)

def change : Change → TaskGroup
  | .onAgent agent => group.onAgent agent
  | .ofFramework framework => group.ofFramework framework
  | .inRole role => group.inRole role
  | .inDocker docker => if docker then group.inDocker else group
  | .reservingPorts => group.reservingPorts
  | .renew mint => (group.renew mint).1

def changeAll (changes : List Change) : TaskGroup :=
  changes.foldl change group

theorem edits_mapTasks {change : Task → Task} (edits : ∀ task, Task.Edit task (change task)) :
    List.Forall₂ Task.Edit group.tasks (group.mapTasks change).tasks :=
  List.forall₂_map_right_iff.mpr (List.forall₂_same.mpr fun task _ => edits task)

theorem edits_same : List.Forall₂ Task.Edit group.tasks group.tasks :=
  List.forall₂_same.mpr fun _ _ => .same

theorem edits_change (change : Change) :
    List.Forall₂ Task.Edit group.tasks (group.change change).tasks := by
  cases change with
  | onAgent agent => exact group.edits_mapTasks fun _ => .onAgent agent
  | ofFramework framework => exact group.edits_same
  | inRole role => exact group.edits_mapTasks fun _ => .inRole role
  | inDocker docker =>
      cases docker with
      | false => exact group.edits_same
      | true => exact group.edits_mapTasks fun _ => .inDocker
  | reservingPorts => exact group.edits_mapTasks fun _ => .reservingPorts
  | renew mint => exact Task.edits_renewAll group.tasks mint.executor.2

/-- What every edit of a task keeps holds of all tasks after any changes. -/
theorem forall_tasks_changeAll {motive : Task → Prop}
    (kept : ∀ {task after : Task}, task.Edit after → motive task → motive after)
    {group : TaskGroup} (holds : ∀ task ∈ group.tasks, motive task) (changes : List Change) :
    ∀ task ∈ (group.changeAll changes).tasks, motive task := by
  induction changes generalizing group with
  | nil => exact holds
  | cons first rest ih => exact ih (Task.forall_of_edits kept (group.edits_change first) holds)

/-- What no edit of a task touches is the same for all tasks after any changes. -/
theorem map_tasks_changeAll {α : Type} {view : Task → α}
    (kept : ∀ {task after : Task}, task.Edit after → view after = view task)
    (changes : List Change) :
    (group.changeAll changes).tasks.map view = group.tasks.map view := by
  induction changes generalizing group with
  | nil => rfl
  | cons first rest ih =>
      exact (ih (group.change first)).trans (Task.map_of_edits kept (group.edits_change first))

theorem requirement_eq : group.requirement = Ledger.ofResources group.launch.resources := by
  unfold requirement launch
  cases group.usesExecutor with
  | false => rfl
  | true => exact (Ledger.ofResources_append _ _).symm

variable {group}

theorem resources_launch_eq {other : TaskGroup}
    (tasks : other.tasks.map (·.resources) = group.tasks.map (·.resources))
    (executor : other.executor.resources = group.executor.resources) :
    other.launch.resources = group.launch.resources := by
  have lengths : other.tasks.length = group.tasks.length := by
    simpa using congrArg List.length tasks
  have shape : other.usesExecutor = group.usesExecutor := by
    rw [usesExecutor, usesExecutor, lengths]
  have flat : other.tasks.flatMap (·.resources) = group.tasks.flatMap (·.resources) := by
    rw [List.flatMap_def, List.flatMap_def, tasks]
  unfold launch
  rw [shape]
  cases group.usesExecutor with
  | false => exact flat
  | true => exact congrArg₂ (· ++ ·) flat executor

theorem resources_launch_mapTasks {change : Task → Task}
    (kept : ∀ task ∈ group.tasks, (change task).resources = task.resources) :
    (group.mapTasks change).launch.resources = group.launch.resources := by
  refine resources_launch_eq ?_ rfl
  rw [mapTasks, List.map_map]
  exact List.map_congr_left kept

theorem resources_launch_inRole (role : String) :
    (group.inRole role).launch.resources =
      group.launch.resources.map (Resource.inRole role) := by
  have lengths : (group.inRole role).tasks.length = group.tasks.length := List.length_map _
  have shape : (group.inRole role).usesExecutor = group.usesExecutor := by
    rw [usesExecutor, usesExecutor, lengths]
  have flat : (group.inRole role).tasks.flatMap (·.resources) =
      (group.tasks.flatMap (·.resources)).map (Resource.inRole role) := by
    rw [List.map_flatMap]
    exact List.flatMap_map _ _ _
  unfold launch
  rw [shape]
  cases group.usesExecutor with
  | false => exact flat
  | true => exact (congrArg (· ++ _) flat).trans List.map_append.symm

/-- Every task declares the standard resources. -/
def Complete (group : TaskGroup) : Prop :=
  ∀ task ∈ group.tasks, Task.NamesStandard task.resources

theorem complete_build (tasks : List Task) (hasTask : tasks ≠ []) (networks : List Network)
    (mint : Mint) : (build tasks hasTask networks mint).1.Complete := by
  intro task member
  obtain ⟨declared, -, rfl⟩ := List.mem_map.mp member
  exact Task.namesStandard_withStandard declared.resources

theorem Complete.changeAll (complete : group.Complete) (changes : List Change) :
    (group.changeAll changes).Complete :=
  forall_tasks_changeAll (fun edit names => names.edit edit) complete changes

theorem requirement_change (complete : group.Complete) {change : Change}
    (other : change ≠ .reservingPorts) : (group.change change).requirement = group.requirement := by
  rw [requirement_eq, requirement_eq]
  cases change with
  | onAgent agent => exact congrArg _ (resources_launch_mapTasks fun _ _ => rfl)
  | ofFramework framework => exact congrArg _ (resources_launch_eq rfl rfl)
  | inRole role =>
      exact (congrArg _ (resources_launch_inRole role)).trans (Ledger.ofResources_inRole _ _)
  | inDocker docker =>
      cases docker with
      | false => rfl
      | true =>
          exact congrArg _ (resources_launch_mapTasks fun task member =>
            Task.withStandard_of_names (complete task member))
  | reservingPorts => exact absurd rfl other
  | renew mint =>
      exact congrArg _ (resources_launch_eq (Task.resources_renewAll _ _) rfl)

theorem requirement_changeAll (complete : group.Complete) {changes : List Change}
    (others : .reservingPorts ∉ changes) :
    (group.changeAll changes).requirement = group.requirement := by
  induction changes generalizing group with
  | nil => rfl
  | cons first rest ih =>
      have here : first ≠ .reservingPorts := fun same => others (same ▸ List.mem_cons_self)
      exact (ih (complete.changeAll [first]) fun later => others (List.mem_cons_of_mem _ later)).trans
        (requirement_change complete here)

/-- A group that was built and changed requires just what its launch asks for. Nothing but reserving
ports makes it require anything else, so it fits on an offer on every attempt or on none. -/
theorem requirement_launched (tasks : List Task) (hasTask : tasks ≠ []) (networks : List Network)
    (mint : Mint) (changes : List Change) :
    let group := (build tasks hasTask networks mint).1.changeAll changes
    Ledger.ofResources group.launch.resources = group.requirement ∧
      ∀ later : List Change, .reservingPorts ∉ later →
        (group.changeAll later).requirement = group.requirement ∧
          ∀ found : Match, found.fits (group.changeAll later) = found.fits group := by
  intro group
  have complete : group.Complete := (complete_build tasks hasTask networks mint).changeAll changes
  refine ⟨(requirement_eq group).symm, fun later others => ?_⟩
  have same := requirement_changeAll complete others
  exact ⟨same, fun found => congrArg found.remaining.contains same⟩

/-- Two tasks, one of which publishes a port and is launched twice. -/
theorem requirement_launched_twice :
    let docker : DockerSection := { portMappings := [⟨8080, 80, none⟩] }
    let tasks : List Task :=
      [{ name := "web", id := .stamped 0, resources := [.scalar "cpus" 0.5, .scalar "cpus" 0.25]
         container := some { kind := .docker, docker := some docker } },
       { name := "log", id := .stamped 1 }]
    let first : List Change := [.reservingPorts, .inRole "dev", .onAgent ⟨"agent", by decide⟩]
    let later : List Change := [.renew ⟨3⟩, .inDocker true, .ofFramework ⟨"framework", by decide⟩]
    ∃ hasTask : tasks ≠ [],
      let group := (build tasks hasTask [] ⟨2⟩).1.changeAll first
      .reservingPorts ∉ later ∧
        Ledger.ofResources group.launch.resources = group.requirement ∧
        (group.changeAll later).requirement = group.requirement ∧
        ∀ found : Match, found.fits (group.changeAll later) = found.fits group := by
  intro docker tasks first later
  have hasTask : tasks ≠ [] := List.cons_ne_nil _ _
  have others : Change.reservingPorts ∉ later := by simp [later]
  obtain ⟨launched, kept⟩ := requirement_launched tasks hasTask [] ⟨2⟩ first
  exact ⟨hasTask, others, launched, kept later others⟩

end TaskGroup
end Convoy
