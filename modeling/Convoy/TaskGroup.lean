import Convoy.Failure
import Convoy.Ledger.Basic
import Convoy.Wire.Operation

/-!
# Task groups

A group is one or more tasks that are launched together on one agent. Several tasks share an
executor and are launched by one group operation; a task alone is launched on its own.

Building a group brings its tasks into normal form: they have a name, the standard resources and a
container with the section of its kind and no other.
-/
namespace Convoy

def defaultTaskName : String := "mesos-cli"

/-- What a task or an executor takes where nothing is declared. -/
def defaultCpus : Float := 0.1

def defaultMem : Float := 32.0

def defaultDisk : Float := 32.0

def standardResources : List Resource :=
  [.scalar "cpus" defaultCpus, .scalar "mem" defaultMem, .scalar "disk" defaultDisk]

namespace Container

/-- The container with the section of its kind, and no other. -/
def normalize (container : Container) : Container :=
  match container.kind with
  | .docker =>
    let docker := container.docker.getD {}
    { container with
      mesos := none
      docker := some { docker with network := some (docker.network.getD .host) } }
  | .mesos => { container with docker := none, mesos := some (container.mesos.getD {}) }

end Container

namespace Task

/-- The resources, and the standard ones that are not named among them. -/
def withStandard (resources : List Resource) : List Resource :=
  resources ++ standardResources.filter fun standard =>
    !resources.any fun known => known.name == standard.name

/-- The task with a name, the standard resources and a container in normal form. -/
def normalize (task : Task) : Task :=
  { task with
    name := if task.name = "" then defaultTaskName else task.name
    resources := withStandard task.resources
    container := some (task.container.getD {}).normalize }

def inDocker (task : Task) : Task :=
  { task with container := some { task.container.getD {} with kind := .docker } }.normalize

/-- The agent's ports that the task's Docker container maps. -/
def dockerPorts (task : Task) : List UInt64 :=
  match task.container with
  | some container =>
    match container.kind, container.docker with
    | .docker, some docker => docker.portMappings.map fun mapping => mapping.hostPort.toUInt64
    | _, _ => []
  | none => []

/-- The task, asking for every port that its Docker container maps. -/
def reservingPorts (task : Task) : Task :=
  { task with
    resources := task.resources ++ task.dockerPorts.map fun port =>
      Resource.ranges "ports" [⟨port, port⟩] }

/-- The task under a fresh identity, bound to no agent. -/
def renew (task : Task) (mint : Mint) : Task × Mint :=
  ({ task with id := mint.task.1, agent := none }, mint.task.2)

def renewAll : List Task → Mint → List Task × Mint
  | [], mint => ([], mint)
  | task :: rest, mint =>
    let (task, mint) := task.renew mint
    let (rest, mint) := renewAll rest mint
    (task :: rest, mint)

theorem length_renewAll (tasks : List Task) (mint : Mint) :
    (renewAll tasks mint).1.length = tasks.length := by
  induction tasks generalizing mint with
  | nil => rfl
  | cons task rest ih => simp [renewAll, ih]

end Task

/-- Tasks that are scheduled and launched together. -/
structure TaskGroup where
  tasks : List Task
  networks : List Network
  executor : Executor
  hasTask : tasks ≠ []

namespace TaskGroup

/-- The executor of a new group: it joins the group's networks. -/
def executorFor (networks : List Network) (id : ExecutorId) : Executor where
  id := id
  resources := standardResources
  container := some { networks := networks }

def build (tasks : List Task) (hasTask : tasks ≠ []) (networks : List Network) (mint : Mint) :
    TaskGroup × Mint :=
  let (id, mint) := mint.executor
  ({ tasks := tasks.map Task.normalize
     networks := networks
     executor := executorFor networks id
     hasTask := by simp [hasTask] }, mint)

def ofTasks (tasks : List Task) (networks : List Network) (mint : Mint) :
    Except Failure (TaskGroup × Mint) :=
  if hasTask : tasks ≠ [] then .ok (build tasks hasTask networks mint)
  else .error (.invalidGroup "a group needs at least one task")

def single (task : Task) (mint : Mint) : TaskGroup × Mint :=
  build [task] (by simp) [] mint

variable (group : TaskGroup)

def size : Nat := group.tasks.length

def isEmpty : Bool := group.tasks.isEmpty

/-- The names of the tasks, with commas between them. -/
def name : String :=
  String.intercalate "," (group.tasks.map (·.name))

def taskIds : List TaskId := group.tasks.map (·.id)

/-- Whether the tasks share the executor: a task alone does without it. -/
def usesExecutor : Bool := decide (1 < group.tasks.length)

/-- What an offer has to hold for the group to be launched on it. The executor counts only where it
is used. -/
def requirement : Ledger :=
  let tasks := Ledger.ofResources (group.tasks.flatMap (·.resources))
  if group.usesExecutor then tasks.merge (Ledger.ofResources group.executor.resources) else tasks

def find? (id : TaskId) : Option Task :=
  group.tasks.find? fun task => task.id == id

def launch : Operation :=
  if group.usesExecutor then .launchGroup group.executor group.tasks else .launch group.tasks

theorem tasks_launch : group.launch.tasks = group.tasks := by
  unfold launch
  split <;> rfl

def mapTasks (change : Task → Task) : TaskGroup :=
  { group with tasks := group.tasks.map change, hasTask := by simp [group.hasTask] }

/-- The group under fresh identities, bound to no agent. -/
def renew (mint : Mint) : TaskGroup × Mint :=
  let executor := { group.executor with id := mint.executor.1 }
  let renewed := Task.renewAll group.tasks mint.executor.2
  ({ group with
     tasks := renewed.1
     executor := executor
     hasTask := by
      intro none
      have := Task.length_renewAll group.tasks mint.executor.2
      simp only [renewed] at none
      simp only [none, List.length_nil] at this
      exact group.hasTask (List.eq_nil_of_length_eq_zero this.symm) }, renewed.2)

def onAgent (agent : AgentId) : TaskGroup :=
  group.mapTasks fun task => { task with agent := some agent }

def ofFramework (framework : FrameworkId) : TaskGroup :=
  { group with executor := { group.executor with framework := some framework } }

def inRole (role : String) : TaskGroup :=
  let tasks := group.mapTasks fun task =>
    { task with resources := task.resources.map (Resource.inRole role) }
  { tasks with
    executor := { group.executor with
      resources := group.executor.resources.map (Resource.inRole role) } }

def inDocker : TaskGroup :=
  group.mapTasks Task.inDocker

def reservingPorts : TaskGroup :=
  group.mapTasks Task.reservingPorts

end TaskGroup
end Convoy
