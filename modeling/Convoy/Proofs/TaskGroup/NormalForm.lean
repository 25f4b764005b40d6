import Convoy.Proofs.TaskGroup.Changes

/-!
# The normal form of a group

Building a group brings its tasks into normal form, and so does moving them to Docker. Every other
change of a group leaves a task in normal form in it, so a group can be taken apart and built again
from its own tasks at any time, with nothing to fill in.
-/
namespace Convoy

namespace Container

/-- The section of the container's kind is there, with a network if it is Docker's, and the other
one is not. -/
def IsNormal (container : Container) : Prop :=
  match container.kind with
  | .docker => container.mesos = none ∧ (container.docker.bind (·.network)).isSome
  | .mesos => container.docker = none ∧ container.mesos.isSome

theorem isNormal_normalize (container : Container) : container.normalize.IsNormal := by
  unfold normalize
  cases container.kind with
  | docker => simp [IsNormal]
  | mesos => simp [IsNormal]

theorem IsNormal.normalize {container : Container} (normal : container.IsNormal) :
    container.normalize = container := by
  obtain ⟨kind, docker, mesos, networks, volumes, hostname⟩ := container
  cases kind with
  | docker =>
      obtain ⟨rfl, found⟩ := normal
      obtain ⟨network, found⟩ := Option.isSome_iff_exists.mp found
      obtain ⟨⟨image, _, _, _, _⟩, rfl, rfl⟩ := Option.bind_eq_some_iff.mp found
      rfl
  | mesos =>
      obtain ⟨rfl, found⟩ := normal
      obtain ⟨mesos, rfl⟩ := Option.isSome_iff_exists.mp found
      rfl

end Container

namespace Task

/-- The name of a task once it is built. -/
def builtName (task : Task) : String :=
  if task.name = "" then defaultTaskName else task.name

theorem builtName_ne_empty (task : Task) : task.builtName ≠ "" := by
  unfold builtName
  split
  · decide
  · assumption

structure IsNormal (task : Task) : Prop where
  named : task.name ≠ ""
  resources : NamesStandard task.resources
  container : ∃ container, task.container = some container ∧ container.IsNormal

theorem isNormal_normalize (task : Task) : task.normalize.IsNormal where
  named := task.builtName_ne_empty
  resources := namesStandard_withStandard task.resources
  container := ⟨_, rfl, Container.isNormal_normalize _⟩

theorem IsNormal.normalize {task : Task} (normal : task.IsNormal) : task.normalize = task := by
  obtain ⟨named, resources, container, found, sections⟩ := normal
  rw [Task.normalize, if_neg named, withStandard_of_names resources, found, Option.getD_some,
    sections.normalize, ← found]

theorem IsNormal.edit {task after : Task} (normal : task.IsNormal) (edit : task.Edit after) :
    after.IsNormal := by
  have resources := normal.resources.edit edit
  cases edit with
  | inDocker => exact isNormal_normalize _
  | _ => exact ⟨normal.named, resources, normal.container⟩

/-- What the container of a task says besides its kind and the sections for the kinds. -/
def surroundings (task : Task) : List Network × List Data.Datum × Option String :=
  let container := task.container.getD {}
  (container.networks, container.volumes, container.hostname)

theorem surroundings_normalize (task : Task) : task.normalize.surroundings = task.surroundings := by
  unfold normalize Container.normalize surroundings
  dsimp only [Option.getD_some]
  split <;> rfl

/-- A task of a group is one that was declared, in normal form and maybe edited since. -/
structure Completes (declared task : Task) : Prop where
  normal : task.IsNormal
  name : task.name = declared.builtName
  command : task.command = declared.command
  labels : task.labels = declared.labels
  surroundings : task.surroundings = declared.surroundings

theorem completes_normalize (task : Task) : task.Completes task.normalize :=
  ⟨task.isNormal_normalize, rfl, rfl, rfl, task.surroundings_normalize⟩

theorem Completes.edit {declared task after : Task} (completes : declared.Completes task)
    (edit : task.Edit after) : declared.Completes after := by
  obtain ⟨normal, name, command, labels, surroundings⟩ := completes
  have normalAfter := normal.edit edit
  cases edit with
  | inDocker =>
      have named : task.inDocker.name = task.name := if_neg normal.named
      have around : task.inDocker.surroundings = task.surroundings := surroundings_normalize _
      exact ⟨normalAfter, named.trans name, command, labels, around.trans surroundings⟩
  | _ => exact ⟨normalAfter, name, command, labels, surroundings⟩

theorem Completes.edits {declared tasks afters : List Task}
    (completes : List.Forall₂ Completes declared tasks) (edits : List.Forall₂ Edit tasks afters) :
    List.Forall₂ Completes declared afters := by
  induction completes generalizing afters with
  | nil =>
      cases edits
      exact .nil
  | cons here _ ih =>
      cases edits with
      | cons edit later => exact .cons (here.edit edit) (ih later)

theorem Completes.isNormal {declared tasks : List Task}
    (completes : List.Forall₂ Completes declared tasks) : ∀ task ∈ tasks, task.IsNormal := by
  induction completes with
  | nil => exact List.forall_mem_nil _
  | cons here _ ih => exact List.forall_mem_cons.mpr ⟨here.normal, ih⟩

theorem Completes.names {declared tasks : List Task}
    (completes : List.Forall₂ Completes declared tasks) :
    tasks.map (·.name) = declared.map builtName := by
  induction completes with
  | nil => rfl
  | cons here _ ih => rw [List.map_cons, List.map_cons, here.name, ih]

end Task

namespace TaskGroup

theorem completes_build (tasks : List Task) (hasTask : tasks ≠ []) (networks : List Network)
    (mint : Mint) : List.Forall₂ Task.Completes tasks (build tasks hasTask networks mint).1.tasks :=
  List.forall₂_map_right_iff.mpr (List.forall₂_same.mpr fun task _ => task.completes_normalize)

theorem completes_changeAll {declared : List Task} {group : TaskGroup}
    (completes : List.Forall₂ Task.Completes declared group.tasks) (changes : List Change) :
    List.Forall₂ Task.Completes declared (group.changeAll changes).tasks := by
  induction changes generalizing group with
  | nil => exact completes
  | cons first rest ih => exact ih (Task.Completes.edits completes (group.edits_change first))

theorem networks_changeAll (group : TaskGroup) (changes : List Change) :
    (group.changeAll changes).networks = group.networks := by
  induction changes generalizing group with
  | nil => rfl
  | cons first rest ih =>
      refine (ih (group.change first)).trans ?_
      cases first with
      | inDocker docker => cases docker <;> rfl
      | _ => rfl

theorem ofTasks_of_ne_nil {tasks : List Task} (hasTask : tasks ≠ []) (networks : List Network)
    (mint : Mint) : ofTasks tasks networks mint = .ok (build tasks hasTask networks mint) :=
  dif_pos hasTask

theorem tasks_build_of_isNormal {tasks : List Task} (normal : ∀ task ∈ tasks, task.IsNormal)
    (hasTask : tasks ≠ []) (networks : List Network) (mint : Mint) :
    (build tasks hasTask networks mint).1.tasks = tasks :=
  (List.map_congr_left fun task member => (normal task member).normalize).trans (List.map_id _)

/-- Any tasks make a group, as long as there is one. Whatever the group goes through, its tasks are
the declared ones in their order, under their names and in normal form, and a group that is built
from them is the same group again. -/
theorem isNormal_changeAll (tasks : List Task) (hasTask : tasks ≠ []) (networks : List Network)
    (mint : Mint) :
    ∃ built after, ofTasks tasks networks mint = .ok (built, after) ∧
      ∀ changes : List Change,
        let group := built.changeAll changes
        (∀ task ∈ group.tasks, task.IsNormal) ∧
          List.Forall₂ Task.Completes tasks group.tasks ∧
          group.tasks.map (·.name) = built.tasks.map (·.name) ∧
          ∀ later : Mint, ∃ again rest,
            ofTasks group.tasks group.networks later = .ok (again, rest) ∧
              again.tasks = group.tasks ∧ again.networks = networks := by
  refine ⟨_, _, ofTasks_of_ne_nil hasTask networks mint, fun changes => ?_⟩
  intro group
  have started := completes_build tasks hasTask networks mint
  have completes : List.Forall₂ Task.Completes tasks group.tasks :=
    completes_changeAll started changes
  have normal := Task.Completes.isNormal completes
  refine ⟨normal, completes, ?_, fun later => ?_⟩
  · exact (Task.Completes.names completes).trans (Task.Completes.names started).symm
  · refine ⟨_, _, ofTasks_of_ne_nil group.hasTask group.networks later, ?_, ?_⟩
    · exact tasks_build_of_isNormal normal group.hasTask group.networks later
    · exact networks_changeAll _ changes

/-- A task that says nothing, and one with the sections of both kinds, moved to Docker. -/
theorem isNormal_changeAll_two :
    let docker : DockerSection := { image := "nginx", portMappings := [⟨8080, 80, none⟩] }
    let tasks : List Task :=
      [{ name := "", id := .stamped 0 },
       { name := "web", id := .stamped 1, resources := [.scalar "cpus" 0.5]
         container := some { kind := .docker, docker := some docker, mesos := some {} } }]
    let changes : List Change :=
      [.reservingPorts, .inRole "dev", .inDocker true, .onAgent ⟨"agent", by decide⟩, .renew ⟨3⟩]
    tasks ≠ [] ∧ ∃ built after, ofTasks tasks [] ⟨2⟩ = .ok (built, after) ∧
      let group := built.changeAll changes
      group.tasks.map (·.name) = ["mesos-cli", "web"] ∧ (∀ task ∈ group.tasks, task.IsNormal) ∧
        ∃ again rest, ofTasks group.tasks group.networks ⟨4⟩ = .ok (again, rest) ∧
          again.tasks = group.tasks := by
  intro docker tasks changes
  have hasTask : tasks ≠ [] := List.cons_ne_nil _ _
  obtain ⟨built, after, done, kept⟩ := isNormal_changeAll tasks hasTask [] ⟨2⟩
  obtain ⟨normal, completes, -, again⟩ := kept changes
  obtain ⟨again, rest, rebuilt, same, -⟩ := again ⟨4⟩
  exact ⟨hasTask, built, after, done, Task.Completes.names completes, normal, again, rest, rebuilt,
    same⟩

end TaskGroup
end Convoy
