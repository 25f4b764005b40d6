import Convoy.Files
import Convoy.TaskGroup
import Convoy.Yaml.Reader

/-!
# Group files

A group file lists task groups. An entry is a group with its networks, or a task that makes a group
of its own.
-/
namespace Convoy

open Data Text

inductive GroupEntry where
  | together (networks : List Network) (tasks : List Task)
  | alone (task : Task)

namespace GroupEntry

/-- A group: a map with a list of tasks. -/
def readGroup : Reader GroupEntry
  | .map entries => do
    let fields : Record := ⟨← liftM (Record.ofEntries ["networks", "tasks"] entries)⟩
    return .together
      (← fields.defaulted "networks" (readList Network.read) (pure []))
      (← fields.required "tasks" (readList Task.read))
  | _ => throw (.mismatch "group")

/-- An entry: what does not read as a group is read as a task. -/
def read : Reader GroupEntry := fun datum =>
  if datum.isReadable then
    tryCatch (readGroup datum) fun _ => return .alone (← Task.read datum)
  else throw .unreadable

/-- The group of an entry; it asks for the ports that its tasks map. -/
def build (entry : GroupEntry) (mint : Mint) : Except Failure (TaskGroup × Mint) := do
  let (group, mint) ←
    match entry with
    | .together networks tasks => TaskGroup.ofTasks tasks networks mint
    | .alone task => pure (TaskGroup.single task mint)
  return (group.reservingPorts, mint)

end GroupEntry

namespace GroupFile

inductive Error where
  | malformed
  /-- An entry, counted from zero, is no group. -/
  | invalidGroup (index : Nat) (cause : Failure)

def Error.message : Error → String
  | .malformed => "malformed group file"
  | .invalidGroup index cause =>
    "group " ++ Decimal.integerText index ++ ": " ++ cause.message

def buildAll (index : Nat) : List GroupEntry → Mint → Except Error (List TaskGroup × Mint)
  | [], mint => .ok ([], mint)
  | entry :: rest, mint =>
    match entry.build mint with
    | .error cause => .error (.invalidGroup index cause)
    | .ok (group, mint) =>
      match buildAll (index + 1) rest mint with
      | .error error => .error error
      | .ok (groups, mint) => .ok (group :: groups, mint)

def parse (text : String) (mint : Mint) : Except Error (List TaskGroup × Mint) :=
  match Yaml.items? text with
  | none => .error .malformed
  | some items =>
    match Reader.run (readList GroupEntry.read) (.list items) mint with
    | .error _ => .error .malformed
    | .ok (entries, mint) => buildAll 0 entries mint

inductive LoadError where
  | unreadableInput
  | unreadableFile (path : String)
  | unparsable (path : String) (cause : Error)

def LoadError.message : LoadError → String
  | .unreadableInput => "Failed to read Mesosfile from stdin"
  | .unreadableFile path => "Failed to read Mesosfile from " ++ quoted path
  | .unparsable path _ => "Failed to parse Mesosfile " ++ quoted path

/-- The wordings of a failure and of its causes; that of a file that cannot be read ends with the
first. -/
def LoadError.chain (error : LoadError) : List String :=
  match error with
  | .unparsable _ (.invalidGroup index cause) =>
    [error.message, "group " ++ Decimal.integerText index, cause.message]
  | _ => [error.message]

/-- The groups of a file; the path `-` stands for the standard input. -/
def load {m : Type → Type} [Monad m] (files : Files m) (input : m (Option String))
    (path : String) (mint : Mint) : m (Except LoadError (List TaskGroup × Mint)) := do
  let isInput := Path.isDash path
  match ← if isInput then input else files.text? path with
  | none => return .error (if isInput then .unreadableInput else .unreadableFile path)
  | some text =>
    match parse text mint with
    | .error cause => return .error (.unparsable path cause)
    | .ok result => return .ok result

end GroupFile

structure CommandSpec where
  name : String
  command : String
  shell : Bool
  user : Option String
  cpus : Float
  mem : Float
  disk : Float
  image : Option String

namespace TaskGroup

/-- The group of a task that runs one command, in a Docker container if it has an image. -/
def ofCommand (spec : CommandSpec) (mint : Mint) : TaskGroup × Mint :=
  let (id, mint) := mint.task
  single
    { name := spec.name
      id := id
      resources := [.scalar "cpus" spec.cpus, .scalar "mem" spec.mem, .scalar "disk" spec.disk]
      command := some { shell := some spec.shell, value := some spec.command, user := spec.user }
      container := spec.image.map fun image =>
        { kind := .docker, docker := some { image := image } } }
    mint

end TaskGroup
end Convoy
