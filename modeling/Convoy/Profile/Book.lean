import Convoy.Json.Reader
import Convoy.Json.Writer
import Convoy.Profile.Basic
import Convoy.Files

/-!
# Profile books

The profiles that a user keeps, by name, in one file. Where there is no file yet, one with a default
profile is written.
-/
namespace Convoy

open Data Text

structure ProfileBook where
  profiles : Table Profile

namespace ProfileBook

def defaultName : String := "default"

/-- The name of a user's book, in the home directory. -/
def fileName : String := ".mesos-cli.json"

def standard : ProfileBook where
  profiles := Table.empty.put defaultName {}

def write (book : ProfileBook) : Datum :=
  record
    [field "profiles"
      (.map (book.profiles.entries.map fun (name, profile) => (.text name, profile.write)))]

/-- Reads profiles into those read so far; the last of a name counts. -/
def readProfiles : Entries → Table Profile → Decode (Table Profile)
  | [], known => pure known
  | (.text name, datum) :: rest, known => do
    readProfiles rest (known.put name (← Profile.read datum))
  | _, _ => throw (.mismatch "profile name")

def readTable : Reader (Table Profile)
  | .map entries => readProfiles entries .empty
  | _ => throw (.mismatch "profiles")

def read : Reader ProfileBook :=
  readRecord ["profiles"] fun fields => do
    return ⟨← fields.defaulted "profiles" readTable (pure .empty)⟩

def ofText? (text : String) : Option ProfileBook :=
  match Json.read? text with
  | some datum =>
    match Reader.run read datum ⟨0⟩ with
    | .ok (book, _) => some book
    | .error _ => none
  | none => none

def text (book : ProfileBook) : String :=
  Json.pretty book.write

inductive Error where
  | unreadableFile (path : String)
  | malformed (path : String)
  | noDirectory (path : String)
  | unwritable (path : String)
  | unknownProfile (name : String) (known : List String)
deriving Repr, DecidableEq

def Error.message : Error → String
  | .unreadableFile path => "Failed to read config from " ++ quoted path
  | .malformed path => "Failed to parse config from " ++ quoted path
  | .noDirectory path => "Failed to create config directory " ++ quoted path
  | .unwritable path => "Failed to write config to " ++ quoted path
  | .unknownProfile name known =>
    "No profile " ++ quoted name ++ " (known: " ++ String.intercalate ", " known ++ ")"

inductive Origin where
  | existing
  | created
deriving Repr, DecidableEq

def Origin.name : Origin → String
  | .existing => "Existing"
  | .created => "Created"

def profile (book : ProfileBook) (name : String) : Except Error Profile :=
  match book.profiles.get? name with
  | some profile => .ok profile
  | none => .error (.unknownProfile name book.profiles.names)

variable {m : Type → Type} [Monad m]

/-- Makes the directory that a path stands in, where it is missing. -/
def makeParent (files : Files m) (path : String) : m (Except Error Unit) := do
  match Path.parent? path with
  | none | some "" => return .ok ()
  | some directory =>
    if ← files.makeDirectory directory then return .ok ()
    else return .error (.noDirectory directory)

/-- Writes a book, and the directories above it where they are missing. -/
def save (files : Files m) (book : ProfileBook) (path : String) : m (Except Error Unit) := do
  match ← makeParent files path with
  | .error error => return .error error
  | .ok () =>
    if ← files.write path book.text then return .ok () else return .error (.unwritable path)

/-- Loads the book of a path; where the path leads nowhere, the standard book is written there. -/
def load (files : Files m) (path : String) : m (Except Error (ProfileBook × Origin)) := do
  if ← files.leadsSomewhere path then
    match ← files.text? path with
    | none => return .error (.unreadableFile path)
    | some text =>
      match ofText? text with
      | some book => return .ok (book, .existing)
      | none => return .error (.malformed path)
  else
    match ← save files standard path with
    | .ok () => return .ok (standard, .created)
    | .error error => return .error error

end ProfileBook
end Convoy
