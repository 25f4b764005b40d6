import Convoy.Proofs.GroupFile
import Convoy.Proofs.TaskGroup.Changes
import Convoy.Shell.Plan

/-!
# Moving groups to Docker

A group is moved to Docker after it is built, or its tasks are declared for Docker before. Building
drops the section of a container that its kind does not use, so a Docker section survives until the
move if and only if its container was declared for Docker: the two ways give the same tasks unless
another container came with a Docker section that says more than the default one.
-/
namespace Convoy

/-- The section with a network, that of the host where none is given. -/
def DockerSection.onNetwork (docker : DockerSection) : DockerSection :=
  { docker with network := some (docker.network.getD .host) }

namespace Container

variable (container : Container)

def forDocker : Container :=
  { container with kind := .docker }

/-- The Docker section that building a group leaves. -/
def keptDocker : Option DockerSection :=
  match container.kind with
  | .docker => container.docker
  | .mesos => none

/-- The container run by Docker as a section says, or by the default section. -/
def runAs (docker : Option DockerSection) : Container :=
  { container with kind := .docker, mesos := none, docker := some (docker.getD {}).onNetwork }

/-- Building leaves all that the container says to Docker. -/
def KeepsDocker : Prop :=
  container.kind = .mesos → (container.docker.getD {}).onNetwork = ({} : DockerSection).onNetwork

instance : Decidable container.KeepsDocker :=
  inferInstanceAs (Decidable (_ → _))

theorem normalize_forDocker : container.forDocker.normalize = container.runAs container.docker :=
  rfl

theorem normalize_forDocker_normalize :
    container.normalize.forDocker.normalize = container.runAs container.keptDocker := by
  unfold normalize keptDocker forDocker
  cases container.kind with
  | docker => rfl
  | mesos => rfl

theorem runAs_keptDocker_iff :
    container.runAs container.keptDocker = container.runAs container.docker ↔
      container.KeepsDocker := by
  simp only [runAs, mk.injEq, true_and, and_true, Option.some.injEq, keptDocker, KeepsDocker]
  cases container.kind with
  | docker => simp
  | mesos => simp [eq_comm]

end Container

namespace Task

/-- What the task declares of its container. -/
def declared (task : Task) : Container :=
  task.container.getD {}

/-- The task declared for Docker, with a container if it had none. -/
def forDocker (task : Task) : Task :=
  { task with container := some task.declared.forDocker }

/-- The task without the Docker section that building drops. -/
def dropDocker (task : Task) : Task :=
  { task with container := some { task.declared with docker := task.declared.keptDocker } }

theorem inDocker_normalize (task : Task) : task.normalize.inDocker =
    { task.normalize with
      container := some (task.declared.runAs task.declared.keptDocker) } := by
  have named : (if task.normalize.name = "" then defaultTaskName else task.normalize.name) =
      task.normalize.name := by
    unfold normalize
    dsimp only
    split <;> simp_all [defaultTaskName]
  have complete : withStandard task.normalize.resources = task.normalize.resources :=
    withStandard_of_names (namesStandard_withStandard task.resources)
  show { task.normalize with
    name := if task.normalize.name = "" then defaultTaskName else task.normalize.name
    resources := withStandard task.normalize.resources
    container := some task.declared.normalize.forDocker.normalize } = _
  rw [named, complete, Container.normalize_forDocker_normalize]

theorem normalize_forDocker (task : Task) : task.forDocker.normalize =
    { task.normalize with container := some (task.declared.runAs task.declared.docker) } :=
  rfl

theorem inDocker_normalize_iff (task : Task) :
    task.normalize.inDocker = task.forDocker.normalize ↔ task.declared.KeepsDocker := by
  rw [inDocker_normalize, normalize_forDocker, ← Container.runAs_keptDocker_iff]
  simp only [mk.injEq, true_and, and_true, Option.some.injEq]

theorem inDocker_normalize_eq (task : Task) :
    task.normalize.inDocker = task.dropDocker.forDocker.normalize := by
  rw [inDocker_normalize]
  rfl

end Task

theorem TaskGroup.tasks_inDocker_build (tasks : List Task) (hasTask : tasks ≠ [])
    (networks : List Network) (mint : Mint) :
    (build tasks hasTask networks mint).1.inDocker.tasks =
      tasks.map fun task => task.normalize.inDocker :=
  List.map_map

namespace Plan

/-- The containers of a launch are those that an entry declares, moved to Docker: each has the
section that it declares for Docker, or the default one. -/
def ShowsDocker (entry : GroupEntry) (operation : Operation) : Prop :=
  operation.tasks.map (·.container) =
    entry.tasks.map fun task => some (task.declared.runAs task.declared.keptDocker)

theorem showsDocker_launch {entry : GroupEntry} {group : TaskGroup} (builds : entry.Builds group)
    (role : String) : ShowsDocker entry (group.inDocker.inRole role).launch := by
  obtain ⟨mint, after, done⟩ := builds
  obtain ⟨hasTask, rfl⟩ := GroupEntry.group_of_build done
  rw [ShowsDocker, TaskGroup.tasks_launch]
  simp only [TaskGroup.inRole, TaskGroup.inDocker, TaskGroup.reservingPorts, TaskGroup.build,
    TaskGroup.mapTasks, List.map_map]
  exact List.map_congr_left fun task _ =>
    congrArg some task.declared.normalize_forDocker_normalize

theorem showsDocker_ofGroups {entries : List GroupEntry} {groups : List TaskGroup}
    (builds : List.Forall₂ GroupEntry.Builds entries groups) (role : String) :
    List.Forall₂ ShowsDocker entries (ofGroups groups true role).operations := by
  rw [operations, ofGroups, List.map_map, List.forall₂_map_right_iff]
  exact builds.imp fun _ _ built => showsDocker_launch built role

end Plan

namespace TaskGroup

/-- Moving a group to Docker gives the tasks that it had if they were declared for Docker, unless a
container that was not came with a Docker section of its own: that one was dropped when the group was
built. A plan for Docker shows the Docker sections of the containers that are declared for Docker. -/
theorem inDocker_agrees :
    (∀ (tasks : List Task) (hasTask : tasks ≠ []) (networks : List Network) (mint : Mint),
      let moved := (build tasks hasTask networks mint).1.inDocker
      let declared := (build (tasks.map Task.forDocker) (by simpa using hasTask) networks mint).1
      let dropped := (build (tasks.map fun task => task.dropDocker.forDocker)
        (by simpa using hasTask) networks mint).1
      (moved.tasks = declared.tasks ↔ ∀ task ∈ tasks, task.declared.KeepsDocker) ∧
        moved.tasks = dropped.tasks) ∧
    ∀ (text : String) (mint after : Mint) (groups : List TaskGroup) (role : String),
      GroupFile.parse text mint = .ok (groups, after) →
      ∃ entries, GroupFile.entries? text mint = some entries ∧
        List.Forall₂ Plan.ShowsDocker entries (Plan.ofGroups groups true role).operations := by
  constructor
  · intro tasks hasTask networks mint moved declared dropped
    have movedTasks : moved.tasks = tasks.map fun task => task.normalize.inDocker :=
      tasks_inDocker_build tasks hasTask networks mint
    have declaredTasks : declared.tasks = tasks.map fun task => task.forDocker.normalize :=
      List.map_map
    have droppedTasks : dropped.tasks = tasks.map fun task => task.dropDocker.forDocker.normalize :=
      List.map_map
    rw [movedTasks, declaredTasks, droppedTasks, List.map_inj_left]
    exact ⟨forall₂_congr fun task _ => task.inDocker_normalize_iff,
      List.map_congr_left fun task _ => task.inDocker_normalize_eq⟩
  · intro text mint after groups role parsed
    obtain ⟨entries, found, builds⟩ := GroupFile.builds_of_parse parsed
    exact ⟨entries, found, Plan.showsDocker_ofGroups builds role⟩

theorem items_docker :
    Yaml.items? ("- {name: web, container: {type: DOCKER, docker: {image: nginx}}}\n" ++
      "- {name: log, container: {docker: {image: busybox}}}\n") = some
    [.map [(.text "name", .text "web"), (.text "container", .map
        [(.text "type", .text "DOCKER"), (.text "docker", .map [(.text "image", .text "nginx")])])],
      .map [(.text "name", .text "log"), (.text "container", .map
        [(.text "docker", .map [(.text "image", .text "busybox")])])]] := by
  unfold Yaml.items?
  -- Scanning characters does not reduce by `rfl`; reading the tokens does.
  conv in Yaml.tokens? _ => cbv
  rfl

/-- Two tasks, of which one is declared for Docker and one has no container, and a plan of two groups
that loses the image of the second one. -/
theorem inDocker_agrees_two :
    let docker : DockerSection := { image := "nginx", portMappings := [⟨8080, 80, none⟩] }
    let tasks : List Task :=
      [{ name := "web", id := .stamped 0
         container := some { kind := .docker, docker := some docker } },
       { name := "", id := .stamped 1 }]
    let text := "- {name: web, container: {type: DOCKER, docker: {image: nginx}}}\n" ++
      "- {name: log, container: {docker: {image: busybox}}}\n"
    let images (operation : Operation) :=
      operation.tasks.map fun task => (task.container.bind (·.docker)).map (·.image)
    ∃ hasTask : tasks ≠ [],
      (build tasks hasTask [] ⟨2⟩).1.inDocker.tasks =
        (build (tasks.map Task.forDocker) (by simp [tasks]) [] ⟨2⟩).1.tasks ∧
      ∃ groups after entries, GroupFile.parse text ⟨0⟩ = .ok (groups, after) ∧
        GroupFile.entries? text ⟨0⟩ = some entries ∧
        (Plan.ofGroups groups true "dev").operations.map images = [[some "nginx"], [some ""]] ∧
        List.Forall₂ Plan.ShowsDocker entries (Plan.ofGroups groups true "dev").operations := by
  intro docker tasks text images
  have hasTask : tasks ≠ [] := List.cons_ne_nil _ _
  obtain ⟨agrees, plans⟩ := inDocker_agrees
  have kept : ∀ task ∈ tasks, task.declared.KeepsDocker :=
    List.forall_mem_cons.mpr ⟨by decide, List.forall_mem_singleton.mpr (by decide)⟩
  have parsed : ∃ groups after, GroupFile.parse text ⟨0⟩ = .ok (groups, after) ∧
      (Plan.ofGroups groups true "dev").operations.map images = [[some "nginx"], [some ""]] := by
    rw [GroupFile.parse, items_docker]
    exact ⟨_, _, rfl, rfl⟩
  obtain ⟨groups, after, parsed, shown⟩ := parsed
  obtain ⟨entries, found, shows⟩ := plans text ⟨0⟩ after groups "dev" parsed
  exact ⟨hasTask, (agrees tasks hasTask [] ⟨2⟩).1.mpr kept, groups, after, entries, parsed, found,
    shown, shows⟩

/-- A task that names an image without being declared for Docker loses it on the way there. -/
theorem image_dropped :
    let task : Task :=
      { name := "web", id := .stamped 0, container := some { docker := some { image := "nginx" } } }
    (build [task] (by simp) [] ⟨1⟩).1.inDocker.tasks ≠
      (build [task.forDocker] (by simp) [] ⟨1⟩).1.tasks := by
  intro task same
  let images (tasks : List Task) :=
    tasks.map fun task => (task.container.bind (·.docker)).map (·.image)
  have equal : [some ""] = [some "nginx"] := congrArg images same
  contradiction

end TaskGroup
end Convoy
