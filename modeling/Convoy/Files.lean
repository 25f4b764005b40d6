import Convoy.Data.Table

/-!
# Files

What the program needs of a file system, and a file system in memory that offers it. Paths are
relative or absolute; `.` and empty parts say nothing.
-/
namespace Convoy

open Data

inductive FileNode where
  | directory
  | file (bytes : ByteArray)

/-- A file system as far as it is needed: whether a path leads anywhere, the text of a file, making
a directory with all above it, and writing a file. Each action tells whether it worked. -/
structure Files (m : Type → Type) where
  leadsSomewhere : String → m Bool
  text? : String → m (Option String)
  makeDirectory : String → m Bool
  write : String → String → m Bool

namespace Path

/-- The parts of a path that say something; an absolute path starts with the root. -/
def parts (path : String) : List String :=
  let named := (path.splitOn "/").filter fun part => part ≠ "" ∧ part ≠ "."
  if path.startsWith "/" then "/" :: named else named

/-- Whether a path can only lead to a directory. -/
def demandsDirectory (path : String) : Bool :=
  path.endsWith "/" || path.endsWith "/."

/-- Drops slashes and `.` parts from the end of a reversed path. -/
def trimEnd : List Char → List Char
  | '/' :: rest => trimEnd rest
  | '.' :: '/' :: rest => trimEnd rest
  | rest => rest

/-- The directory that a path stands in; a path without a last part has none. -/
def parent? (path : String) : Option String :=
  let reversed := trimEnd path.toList.reverse
  if reversed.isEmpty then none
  else
    match reversed.dropWhile (· != '/') with
    | [] => some ""
    | above =>
      let kept := trimEnd above
      some (String.ofList (if kept.isEmpty then ['/'] else kept.reverse))

/-- Whether a path is the one that stands for the standard input. -/
def isDash (path : String) : Bool :=
  path.startsWith "-" && parts path == ["-"]

end Path

/-- A file system in memory: what every path leads to, the path given by its parts. -/
abbrev Disk := Table FileNode

namespace Disk

def address (place : List String) : String :=
  String.intercalate "/" place.reverse

/-- What stands at a place, given by its parts from the last to the first. -/
def node? (disk : Disk) (place : List String) : Option FileNode :=
  if place = [] ∨ place = ["/"] then some .directory else disk.get? (address place)

def isDirectory (disk : Disk) (place : List String) : Bool :=
  match disk.node? place with
  | some .directory => true
  | _ => false

/-- The place that parts lead to from another; all places on the way have to be directories. -/
def resolve (disk : Disk) : List String → List String → Option (List String)
  | place, [] => some place
  | place, part :: rest =>
    let next := if part = ".." then place.drop 1 else part :: place
    if rest = [] ∨ disk.isDirectory next then resolve disk next rest else none

/-- The place that a path leads to; the empty path leads nowhere. -/
def place? (disk : Disk) (path : String) : Option (List String) :=
  if path = "" then none else disk.resolve [] (Path.parts path)

def find? (disk : Disk) (path : String) : Option FileNode :=
  match (disk.place? path).bind disk.node? with
  | some (.file bytes) => if Path.demandsDirectory path then none else some (.file bytes)
  | node => node

/-- Makes a directory; absent where a file stands in its place. -/
def makeOne? (disk : Disk) (parts : List String) : Option Disk :=
  match disk.resolve [] parts with
  | none => none
  | some place =>
    match disk.node? place with
    | some .directory => some disk
    | some (.file _) => none
    | none => some (disk.put (address place) .directory)

def makeDirectory? (disk : Disk) (path : String) : Option Disk :=
  let parts := Path.parts path
  (List.range parts.length).foldlM (fun disk count => disk.makeOne? (parts.take (count + 1))) disk

/-- Writes a file into a directory that exists; absent where a directory stands in its place. -/
def write? (disk : Disk) (path : String) (bytes : ByteArray) : Option Disk :=
  match disk.place? path with
  | none => none
  | some place =>
    if disk.isDirectory place || Path.demandsDirectory path then none
    else some (disk.put (address place) (.file bytes))

/-- An action that may change the disk and tells whether it worked. -/
def attempt (change : Disk → Option Disk) : StateM Disk Bool := do
  match change (← get) with
  | some disk => set disk; return true
  | none => return false

def files : Files (StateM Disk) where
  leadsSomewhere path := return ((← get).find? path).isSome
  text? path := do
    match (← get).find? path with
    | some (.file bytes) => return String.fromUTF8? bytes
    | _ => return none
  makeDirectory path := attempt (·.makeDirectory? path)
  write path text := attempt (·.write? path text.toUTF8)

end Disk
end Convoy
