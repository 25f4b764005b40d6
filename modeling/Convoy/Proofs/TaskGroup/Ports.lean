import Convoy.Proofs.GroupFile
import Convoy.Proofs.Schedule.Grants
import Convoy.Proofs.TaskGroup.Changes

/-!
# Published ports are reserved

The groups of a file reserve the ports that their containers map, once, when the file is read. No
change of a group afterwards takes a port away, and none makes a container publish one that was not
reserved: a container that Docker does not run has lost its mappings by then. So a group is launched
only with all ports that it publishes, and no other group gets them.
-/
namespace Convoy

/-- The ports that the Docker section maps, also where Docker does not run the container. -/
def Container.mapped (container : Container) : List UInt64 :=
  (container.docker.getD {}).portMappings.map fun mapping => mapping.hostPort.toUInt64

theorem Container.mapped_normalize (container : Container) :
    container.normalize.mapped =
      match container.kind with
      | .docker => container.mapped
      | .mesos => [] := by
  unfold normalize
  cases container.kind <;> rfl

namespace Task

variable {task after : Task} {port : UInt64}

/-- Docker runs the task's container and maps the port of the agent. -/
def Publishes (task : Task) (port : UInt64) : Prop :=
  ∃ container docker mapping, task.container = some container ∧ container.kind = .docker ∧
    container.docker = some docker ∧ mapping ∈ docker.portMappings ∧
    port = mapping.hostPort.toUInt64

/-- The task has every port that its container may come to publish. -/
def Reserves (task : Task) : Prop :=
  ∀ container, task.container = some container → ∀ port ∈ container.mapped,
    task.Carries "ports" port

theorem Reserves.carries (reserves : task.Reserves) (publishes : task.Publishes port) :
    task.Carries "ports" port := by
  obtain ⟨container, docker, mapping, found, -, given, member, rfl⟩ := publishes
  refine reserves container found _ ?_
  rw [Container.mapped, given]
  exact List.mem_map_of_mem member

theorem Carries.mono {name : String} (carries : task.Carries name port)
    (within : task.resources ⊆ after.resources) : after.Carries name port := by
  obtain ⟨resource, member, lists⟩ := carries
  exact ⟨resource, within member, lists⟩

theorem dockerPorts_of_kind {container : Container} (found : task.container = some container)
    (docker : container.kind = .docker) : task.dockerPorts = container.mapped := by
  unfold dockerPorts Container.mapped
  rw [found]
  dsimp only
  rw [docker]
  cases container.docker <;> rfl

theorem carries_reservingPorts (member : port ∈ task.dockerPorts) :
    task.reservingPorts.Carries "ports" port :=
  ⟨.ranges "ports" [⟨port, port⟩],
    List.mem_append_right _ (List.mem_map_of_mem member),
    rfl, rfl, ⟨port, port⟩, List.mem_cons_self, UInt64.le_refl _, UInt64.le_refl _⟩

theorem reserves_reservingPorts (task : Task) : task.normalize.reservingPorts.Reserves := by
  intro container found port member
  obtain rfl : (task.container.getD {}).normalize = container := Option.some.inj found
  have kind : (task.container.getD {}).kind = .docker := by
    cases kind : (task.container.getD {}).kind with
    | docker => rfl
    | mesos => simp [Container.mapped_normalize, kind] at member
  refine carries_reservingPorts ?_
  rw [dockerPorts_of_kind rfl]
  · exact member
  · unfold Container.normalize
    rw [kind]

theorem Reserves.inDocker (reserves : task.Reserves) : task.inDocker.Reserves := by
  intro container found port member
  obtain rfl : ({ task.container.getD {} with kind := .docker } : Container).normalize = container :=
    Option.some.inj found
  rw [Container.mapped_normalize] at member
  cases declared : task.container with
  | none => simp [declared, Container.mapped] at member
  | some known =>
      rw [declared] at member
      exact (reserves known declared port member).mono (List.subset_append_left _ _)

theorem Reserves.inRole (reserves : task.Reserves) (role : String) :
    Reserves { task with resources := task.resources.map (Resource.inRole role) } := by
  intro container found port member
  obtain ⟨resource, listed, lists⟩ := reserves container found port member
  exact ⟨resource.inRole role, List.mem_map_of_mem listed, lists⟩

theorem Reserves.edit (reserves : task.Reserves) (edit : task.Edit after) : after.Reserves := by
  cases edit with
  | same => exact reserves
  | onAgent agent => exact reserves
  | inRole role => exact reserves.inRole role
  | inDocker => exact reserves.inDocker
  | reservingPorts =>
      exact fun container found port member =>
        (reserves container found port member).mono (List.subset_append_left _ _)
  | renew id => exact reserves

end Task

namespace TaskGroup

variable {group : TaskGroup}

theorem reserves_of_builds {entry : GroupEntry} (builds : entry.Builds group) :
    ∀ task ∈ group.tasks, task.Reserves := by
  obtain ⟨mint, after, done⟩ := builds
  obtain ⟨hasTask, rfl⟩ := GroupEntry.group_of_build done
  refine List.forall_mem_map.mpr (List.forall_mem_map.mpr fun task _ => ?_)
  exact task.reserves_reservingPorts

theorem requirement_launchOn (group : TaskGroup) (agent : AgentId) (framework : FrameworkId) :
    group.requirement = Ledger.ofResources (group.launchOn agent framework).resources := by
  have bound : (group.onAgent agent).launch.resources = group.launch.resources :=
    resources_launch_mapTasks fun _ _ => rfl
  have framed : (group.launchOn agent framework).resources = (group.onAgent agent).launch.resources :=
    resources_launch_eq rfl rfl
  rw [requirement_eq, framed, bound]

/-- Groups that are launched the same way require the same. -/
theorem map_requirement_of_launchOn {groups others : List TaskGroup} {agent : AgentId}
    {framework : FrameworkId}
    (same : groups.map (·.launchOn agent framework) = others.map (·.launchOn agent framework)) :
    groups.map (·.requirement) = others.map (·.requirement) := by
  have asked (groups : List TaskGroup) : groups.map (·.requirement) =
      (groups.map (·.launchOn agent framework)).map fun operation =>
        Ledger.ofResources operation.resources := by
    rw [List.map_map]
    exact List.map_congr_left fun group _ => group.requirement_launchOn agent framework
  rw [asked, asked, same]

end TaskGroup

/-- A number that a launched group requires is on the offer, and no other group on it requires it. -/
theorem Schedule.sole_matchOffer {schedule later : Schedule} {offer : Offer}
    {framework : FrameworkId} {result : Match} {before rest : List TaskGroup} {group : TaskGroup}
    {name : String} {number : UInt64}
    (matched : schedule.matchOffer offer framework = (later, .ok result))
    (operations : result.operations =
      (before ++ group :: rest).map (·.launchOn offer.agent framework))
    (required : number ∈ group.requirement.range name) :
    (∃ resource ∈ offer.resources, resource.Lists name number) ∧
      ∀ other ∈ before ++ rest, number ∉ other.requirement.range name := by
  obtain ⟨launched, known, -, spends⟩ := spends_matchOffer matched
  have same := TaskGroup.map_requirement_of_launchOn (operations.symm.trans known)
  have sole := (((Divides.start _).spend spends).congr same).sole required
  exact ⟨Ledger.mem_range_ofResources.mp sole.1, sole.2⟩

namespace GroupFile

/-- Every port that a container of a group from a file publishes is among what the group requires,
whatever changes the group went through since. So it is on every offer on which the group is launched,
and no other group that is launched there requires it. -/
theorem reserved_parse {text : String} {mint after : Mint} {groups : List TaskGroup}
    {group : TaskGroup} (parsed : parse text mint = .ok (groups, after)) (member : group ∈ groups)
    (changes : List TaskGroup.Change) {task : Task} {port : UInt64}
    (present : task ∈ (group.changeAll changes).tasks) (publishes : task.Publishes port) :
    port ∈ (group.changeAll changes).requirement.range "ports" ∧
      ∀ (schedule later : Schedule) (offer : Offer) (framework : FrameworkId) (result : Match)
        (before rest : List TaskGroup),
        schedule.matchOffer offer framework = (later, .ok result) →
        result.operations = (before ++ group.changeAll changes :: rest).map
          (·.launchOn offer.agent framework) →
        (∃ resource ∈ offer.resources, resource.Lists "ports" port) ∧
          ∀ other ∈ before ++ rest, port ∉ other.requirement.range "ports" := by
  obtain ⟨entries, -, builds⟩ := builds_of_parse parsed
  obtain ⟨entry, -, built⟩ := built_of_builds builds member
  have reserves : task.Reserves :=
    TaskGroup.forall_tasks_changeAll (fun edit known => known.edit edit)
      (TaskGroup.reserves_of_builds built) changes task present
  have required := TaskGroup.mem_range_requirement present (reserves.carries publishes)
  refine ⟨required, fun schedule later offer framework result before rest matched operations => ?_⟩
  exact Schedule.sole_matchOffer matched operations required

set_option maxRecDepth 4000 in
theorem items_publishing :
    Yaml.items? ("- container:\n    type: DOCKER\n    docker:\n      port_mappings:\n" ++
      "      - host_port: 80\n        container_port: 8080\n- name: log\n") = some
    [.map [(.text "container", .map [(.text "type", .text "DOCKER"), (.text "docker", .map
        [(.text "port_mappings", .list
          [.map [(.text "host_port", .int 80), (.text "container_port", .int 8080)]])])])],
      .map [(.text "name", .text "log")]] := by
  unfold Yaml.items?
  conv in Yaml.tokens? _ => cbv
  rfl

/-- Two groups of a file on one offer, one of which publishes a port. -/
theorem reserved_parse_web :
    let text := "- container:\n    type: DOCKER\n    docker:\n      port_mappings:\n" ++
      "      - host_port: 80\n        container_port: 8080\n- name: log\n"
    let changes : List TaskGroup.Change := [.inDocker true, .inRole "dev", .renew ⟨4⟩]
    let offer : Offer :=
      { id := ⟨"offer", by decide⟩
        agent := ⟨"agent", by decide⟩
        resources := [.scalar "cpus" 1.0, .scalar "mem" 512.0, .scalar "disk" 512.0,
          .ranges "ports" [⟨80, 81⟩]] }
    let framework : FrameworkId := ⟨"framework", by decide⟩
    ∃ first second after, parse text ⟨0⟩ = .ok ([first, second], after) ∧
      let web := first.changeAll changes
      let log := (second.renew ⟨6⟩).1
      let schedule := Schedule.start [first.inDocker.inRole "dev", second] {} ⟨4⟩
      ∃ later result, schedule.matchOffer offer framework = (later, .ok result) ∧
        result.operations =
          ([] ++ web :: [log]).map (TaskGroup.launchOn · offer.agent framework) ∧
        ∃ task ∈ web.tasks, task.Publishes 80 ∧
          80 ∈ web.requirement.range "ports" ∧
          (∃ resource ∈ offer.resources, resource.Lists "ports" 80) ∧
          ∀ other ∈ [] ++ [log], 80 ∉ other.requirement.range "ports" := by
  intro text changes offer framework
  have run : ∃ first second after, parse text ⟨0⟩ = .ok ([first, second], after) ∧
      let web := first.changeAll changes
      let log := (second.renew ⟨6⟩).1
      let schedule := Schedule.start [first.inDocker.inRole "dev", second] {} ⟨4⟩
      ∃ later result, schedule.matchOffer offer framework = (later, .ok result) ∧
        result.operations =
          ([] ++ web :: [log]).map (TaskGroup.launchOn · offer.agent framework) ∧
        ∃ task ∈ web.tasks, task.Publishes 80 := by
    rw [parse, items_publishing]
    refine ⟨_, _, _, rfl, _, _, rfl, rfl, _, List.mem_cons_self, ?_⟩
    exact ⟨_, _, _, rfl, rfl, rfl, List.mem_cons_self, rfl⟩
  obtain ⟨first, second, after, parsed, later, result, matched, operations, task, present,
    publishes⟩ := run
  obtain ⟨required, sole⟩ := reserved_parse parsed List.mem_cons_self changes present publishes
  obtain ⟨offered, alone⟩ := sole _ later offer framework result [] _ matched operations
  exact ⟨first, second, after, parsed, later, result, matched, operations, task, present, publishes,
    required, offered, alone⟩

end GroupFile
end Convoy
