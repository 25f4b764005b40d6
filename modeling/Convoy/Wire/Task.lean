import Convoy.Wire.Identifier
import Convoy.Wire.Resource
import Convoy.Wire.Container

/-!
# Tasks and executors

A task is one command with the resources and the container it runs in; the tasks of a group share an
executor.
-/
namespace Convoy

open Data

structure Variable where
  name : String
  value : String
deriving Repr, DecidableEq

namespace Variable

def write (binding : Variable) : Datum :=
  record [field "name" (.text binding.name), field "value" (.text binding.value)]

def read : Reader Variable :=
  readRecord ["name", "value"] fun fields => do
    return { name := ← fields.required "name" readText
             value := ← fields.defaulted "value" readText (pure "") }

end Variable

def writeEnvironment (environment : List Variable) : Datum :=
  record [field "variables" (listOf Variable.write environment)]

def readEnvironment : Reader (List Variable) :=
  readRecord ["variables"] fun fields =>
    fields.defaulted "variables" (readList Variable.read) (pure [])

/-- What a task runs: a shell line, or a program with its arguments. -/
structure Command where
  shell : Option Bool := none
  value : Option String := none
  user : Option String := none
  arguments : List String := []
  environment : Option (List Variable) := none
deriving Repr, DecidableEq

namespace Command

def write (command : Command) : Datum :=
  record
    [fieldIfSome "shell" .bool command.shell,
     fieldIfSome "value" .text command.value,
     fieldIfSome "user" .text command.user,
     fieldUnlessEmpty "arguments" .text command.arguments,
     fieldIfSome "environment" writeEnvironment command.environment]

def read : Reader Command :=
  readRecord ["shell", "value", "user", "arguments", "environment"] fun fields => do
    return { shell := ← fields.optional "shell" readBool
             value := ← fields.optional "value" readText
             user := ← fields.optional "user" readText
             arguments := ← fields.defaulted "arguments" (readList readText) (pure [])
             environment := ← fields.optional "environment" readEnvironment }

end Command

/-- A task to launch. Its identity is fresh for every attempt. -/
structure Task where
  name : String
  id : TaskId
  agent : Option AgentId := none
  resources : List Resource := []
  command : Option Command := none
  container : Option Container := none
  labels : Option (List Label) := none

namespace Task

def fieldNames : List String :=
  ["name", "task_id", "agent_id", "resources", "command", "container", "labels"]

def write (task : Task) : Datum :=
  record
    [field "name" (.text task.name),
     field "task_id" task.id.write,
     fieldIfSome "agent_id" Identifier.write task.agent,
     field "resources" (listOf Resource.write task.resources),
     fieldIfSome "command" Command.write task.command,
     fieldIfSome "container" Container.write task.container,
     fieldIfSome "labels" writeLabels task.labels]

/-- Reads a task; one that names no identity gets a fresh one. -/
def read : Reader Task :=
  readRecord fieldNames fun fields => do
    return { name := ← fields.defaulted "name" readText (pure "")
             id := ← fields.defaulted "task_id" Identifier.read mintTask
             agent := ← fields.optional "agent_id" Identifier.read
             resources := ← fields.defaulted "resources" (readList Resource.read) (pure [])
             command := ← fields.optional "command" Command.read
             container := ← fields.optional "container" Container.read
             labels := ← fields.optional "labels" readLabels }

end Task

/-- Who provides an executor. -/
inductive ExecutorKind where
  | default | custom
deriving Repr, DecidableEq

namespace ExecutorKind

def names : List (String × ExecutorKind) := [("DEFAULT", .default), ("CUSTOM", .custom)]

def name : ExecutorKind → String
  | .default => "DEFAULT"
  | .custom => "CUSTOM"

def write (kind : ExecutorKind) : Datum := .text kind.name

def read : Reader ExecutorKind := readName names

end ExecutorKind

structure Executor where
  kind : ExecutorKind := .default
  id : ExecutorId
  framework : Option FrameworkId := none
  resources : List Resource := []
  container : Option Container := none

namespace Executor

def fieldNames : List String := ["type", "executor_id", "framework_id", "resources", "container"]

def write (executor : Executor) : Datum :=
  record
    [field "type" executor.kind.write,
     field "executor_id" executor.id.write,
     fieldIfSome "framework_id" Identifier.write executor.framework,
     field "resources" (listOf Resource.write executor.resources),
     fieldIfSome "container" Container.write executor.container]

def read : Reader Executor :=
  readRecord fieldNames fun fields => do
    return { kind := ← fields.defaulted "type" ExecutorKind.read (pure .default)
             id := ← fields.required "executor_id" Identifier.read
             framework := ← fields.optional "framework_id" Identifier.read
             resources := ← fields.defaulted "resources" (readList Resource.read) (pure [])
             container := ← fields.optional "container" Container.read }

end Executor
end Convoy
