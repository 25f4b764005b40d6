import Convoy.Proofs.GroupFile
import Convoy.Proofs.TaskGroup.Changes

/-!
# Groups that differ in identities only

A file that is read twice gives the same groups under other identities, and so does every renewal of
a group. Such groups require the same, and their launches differ in nothing but identities and what
they are bound to.
-/
namespace Convoy

open Data

namespace Task

theorem Resembles.trans {task middle other : Task} (first : task.Resembles middle)
    (second : middle.Resembles other) : task.Resembles other := by
  obtain ⟨_, _, rfl⟩ := first
  obtain ⟨id, agent, rfl⟩ := second
  exact ⟨id, agent, rfl⟩

theorem Resembles.trans_all {tasks middle others : List Task}
    (first : List.Forall₂ Resembles tasks middle) (second : List.Forall₂ Resembles middle others) :
    List.Forall₂ Resembles tasks others := by
  induction first generalizing others with
  | nil =>
      cases second
      exact .nil
  | cons here _ ih =>
      cases second with
      | cons there rest => exact .cons (here.trans there) (ih rest)

theorem Resembles.resources_all {tasks others : List Task}
    (same : List.Forall₂ Resembles tasks others) :
    others.map (·.resources) = tasks.map (·.resources) := by
  induction same with
  | nil => rfl
  | cons here _ ih =>
      obtain ⟨id, agent, rfl⟩ := here
      rw [List.map_cons, List.map_cons, ih]

theorem resembles_renewAll (tasks : List Task) (mint : Mint) :
    List.Forall₂ Resembles tasks (renewAll tasks mint).1 := by
  induction tasks generalizing mint with
  | nil => exact .nil
  | cons task rest ih => exact .cons ⟨mint.task.1, none, rfl⟩ (ih mint.task.2)

end Task

/-- The executors are the same but for their identities and their frameworks. -/
def Executor.Resembles (executor other : Executor) : Prop :=
  ∃ id framework, other = { executor with id := id, framework := framework }

theorem Executor.Resembles.trans {executor middle other : Executor}
    (first : executor.Resembles middle) (second : middle.Resembles other) :
    executor.Resembles other := by
  obtain ⟨_, _, rfl⟩ := first
  obtain ⟨id, framework, rfl⟩ := second
  exact ⟨id, framework, rfl⟩

/-- The operations are the same but for the identities of tasks and executors, the agents and the
frameworks. -/
inductive Operation.Resembles : Operation → Operation → Prop where
  | launch {tasks others : List Task} (same : List.Forall₂ Task.Resembles tasks others) :
      Resembles (.launch tasks) (.launch others)
  | launchGroup {executor other : Executor} {tasks others : List Task}
      (alike : executor.Resembles other) (same : List.Forall₂ Task.Resembles tasks others) :
      Resembles (.launchGroup executor tasks) (.launchGroup other others)

namespace TaskGroup

/-- The groups are the same but for the identities of their tasks and executors and what they are
bound to. -/
structure Resembles (group other : TaskGroup) : Prop where
  tasks : List.Forall₂ Task.Resembles group.tasks other.tasks
  networks : other.networks = group.networks
  executor : group.executor.Resembles other.executor

theorem resembles_renew (group : TaskGroup) (mint : Mint) : group.Resembles (group.renew mint).1 where
  tasks := Task.resembles_renewAll group.tasks mint.executor.2
  networks := rfl
  executor := ⟨_, _, rfl⟩

theorem resembles_bound (group : TaskGroup) (agent : AgentId) (framework : FrameworkId) :
    group.Resembles ((group.onAgent agent).ofFramework framework) where
  tasks := List.forall₂_map_right_iff.mpr (List.forall₂_same.mpr fun _ _ => ⟨_, _, rfl⟩)
  networks := rfl
  executor := ⟨_, _, rfl⟩

theorem resembles_build {tasks others : List Task} (same : List.Forall₂ Task.Resembles tasks others)
    (hasTask : tasks ≠ []) (hasOther : others ≠ []) (networks : List Network) (mint late : Mint) :
    (build tasks hasTask networks mint).1.Resembles (build others hasOther networks late).1 where
  tasks := by
    refine List.forall₂_map_left_iff.mpr (List.forall₂_map_right_iff.mpr (same.imp ?_))
    rintro task _ ⟨id, agent, rfl⟩
    exact ⟨id, agent, rfl⟩
  networks := rfl
  executor := ⟨_, _, rfl⟩

namespace Resembles

variable {group middle other : TaskGroup}

theorem trans (first : group.Resembles middle) (second : middle.Resembles other) :
    group.Resembles other where
  tasks := Task.Resembles.trans_all first.tasks second.tasks
  networks := second.networks.trans first.networks
  executor := first.executor.trans second.executor

theorem reservingPorts (resembles : group.Resembles other) :
    group.reservingPorts.Resembles other.reservingPorts where
  tasks :=
    List.rel_map (fun _ _ ⟨id, agent, same⟩ => ⟨id, agent, by rw [same]; rfl⟩) resembles.tasks
  networks := resembles.networks
  executor := resembles.executor

theorem inRole (resembles : group.Resembles other) (role : String) :
    (group.inRole role).Resembles (other.inRole role) where
  tasks := List.rel_map (fun _ _ ⟨id, agent, same⟩ => ⟨id, agent, by rw [same]⟩) resembles.tasks
  networks := resembles.networks
  executor := by
    obtain ⟨id, framework, same⟩ := resembles.executor
    exact ⟨id, framework, by simp only [TaskGroup.inRole, same]⟩

theorem usesExecutor (resembles : group.Resembles other) : other.usesExecutor = group.usesExecutor := by
  rw [TaskGroup.usesExecutor, TaskGroup.usesExecutor, resembles.tasks.length_eq]

theorem launch (resembles : group.Resembles other) : group.launch.Resembles other.launch := by
  unfold TaskGroup.launch
  rw [resembles.usesExecutor]
  split
  · exact .launchGroup resembles.executor resembles.tasks
  · exact .launch resembles.tasks

theorem requirement (resembles : group.Resembles other) :
    other.requirement = group.requirement := by
  obtain ⟨_, _, executor⟩ := resembles.executor
  rw [requirement_eq, requirement_eq,
    resources_launch_eq (Task.Resembles.resources_all resembles.tasks) (by rw [executor])]

end Resembles
end TaskGroup

/-- The entries are the same but for the identities and the agents of their tasks. -/
inductive GroupEntry.Resembles : GroupEntry → GroupEntry → Prop where
  | together (networks : List Network) {tasks others : List Task}
      (same : List.Forall₂ Task.Resembles tasks others) :
      Resembles (.together networks tasks) (.together networks others)
  | alone {task other : Task} (same : task.Resembles other) : Resembles (.alone task) (.alone other)

namespace GroupEntry

theorem agrees_readGroup : readGroup.Agrees Resembles := fun datum => by
  cases datum with
  | map entries =>
      refine (Agree.of_lift _).of_same_bind fun fields => ?_
      refine Agree.of_same_bind (by simp) fun networks => ?_
      refine (Record.agree_required Task.agrees_read.list).of_bind fun _ _ same => ?_
      exact Agree.of_pure (.together networks same)
  | _ => exact Agree.of_throw _ _

theorem agrees_read : GroupEntry.read.Agrees Resembles := fun datum => by
  unfold GroupEntry.read
  split
  · refine (agrees_readGroup datum).of_tryCatch fun _ _ => ?_
    exact (Task.agrees_read datum).of_bind fun _ _ same => Agree.of_pure (.alone same)
  · exact Agree.of_throw _ _

theorem Resembles.build {entry other : GroupEntry} {group second : TaskGroup}
    {mint late after last : Mint} (resembles : entry.Resembles other)
    (built : entry.build mint = .ok (group, after)) (again : other.build late = .ok (second, last)) :
    group.Resembles second := by
  obtain ⟨hasTask, rfl⟩ := group_of_build built
  obtain ⟨hasOther, rfl⟩ := group_of_build again
  cases resembles with
  | together networks same =>
      exact (TaskGroup.resembles_build same hasTask hasOther networks mint late).reservingPorts
  | alone same =>
      exact (TaskGroup.resembles_build (.cons same .nil) hasTask hasOther [] mint late).reservingPorts

end GroupEntry

namespace GroupFile

theorem resembles_of_builds {entries others : List GroupEntry} {groups second : List TaskGroup}
    (resemble : List.Forall₂ GroupEntry.Resembles entries others)
    (built : List.Forall₂ GroupEntry.Builds entries groups)
    (again : List.Forall₂ GroupEntry.Builds others second) :
    List.Forall₂ TaskGroup.Resembles groups second := by
  induction resemble generalizing groups second with
  | nil =>
      cases built
      cases again
      exact .nil
  | cons here _ ih =>
      cases built with
      | cons first rest =>
          cases again with
          | cons other more =>
              obtain ⟨_, _, first⟩ := first
              obtain ⟨_, _, other⟩ := other
              exact .cons (here.build first other) (ih rest more)

/-- Reading a file again, with other identities at hand, gives the same groups but for identities. -/
theorem resembles_of_parse {text : String} {mint late after last : Mint}
    {groups second : List TaskGroup} (parsed : parse text mint = .ok (groups, after))
    (again : parse text late = .ok (second, last)) :
    List.Forall₂ TaskGroup.Resembles groups second := by
  obtain ⟨entries, read, built⟩ := builds_of_parse parsed
  obtain ⟨others, reread, rebuilt⟩ := builds_of_parse again
  refine resembles_of_builds ?_ built rebuilt
  unfold entries? at read reread
  cases found : Yaml.items? text with
  | none => simp [found] at read
  | some items =>
      have same : Corresponds _ ((readList GroupEntry.read).run (.list items) mint)
          ((readList GroupEntry.read).run (.list items) late) :=
        GroupEntry.agrees_read.list (.list items) .direct mint late
      simp only [found] at read reread
      generalize (readList GroupEntry.read).run (.list items) mint = left at same read
      generalize (readList GroupEntry.read).run (.list items) late = right at same reread
      cases same with
      | failed cause other => cases read
      | read middle between same =>
          cases read
          cases reread
          exact same

end GroupFile
end Convoy
