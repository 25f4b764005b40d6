import Convoy.Data.Datum
import Convoy.Identity.Mint

/-!
# Reading data as messages

A reader turns a datum into a value of some type. Records are read by field name from a map or by
position from a list; a fresh identity is minted where a task does not name one.
-/
namespace Convoy.Data

inductive DecodeError where
  | mismatch (expected : String)
  | missing (field : String)
  | repeated (field : String)
  | tooLong (limit : Nat)
  | outOfRange (type : String)
  | unknownName (name : String)
  | badIdentifier (reason : IdError)
  | unreadable
deriving Repr, DecidableEq

/-- How a datum is met: in its own text, or as a part of a tagged message, which is held whole
until its tag is known. In a held message an empty record may stand for a null and a tag may be
given by its position. -/
inductive Reading where
  | direct
  | held
deriving Repr, DecidableEq

/-- A computation that reads data and may mint identities. -/
abbrev Decode := ReaderT Reading (StateT Mint (Except DecodeError))

abbrev Reader (α : Type) := Datum → Decode α

variable {α : Type}

def Reader.run (read : Reader α) (datum : Datum) (mint : Mint) : Except DecodeError (α × Mint) :=
  (read datum .direct).run mint

def mintTask : Decode TaskId := fun _ mint => pure mint.task

def readText : Reader String
  | .text value => pure value
  | _ => throw (.mismatch "text")

def readBool : Reader Bool
  | .bool value => pure value
  | _ => throw (.mismatch "flag")

/-- A number; an integer stands for the float nearest to it. -/
def readFloat : Reader Float
  | .float value => pure value
  | .int value => pure (Float.ofInt value)
  | _ => throw (.mismatch "number")

def readUInt32 : Reader UInt32
  | .int value =>
    if 0 ≤ value ∧ value < UInt32.size then pure (UInt32.ofNat value.toNat)
    else throw (.outOfRange "32-bit natural")
  | _ => throw (.mismatch "integer")

def readUInt64 : Reader UInt64
  | .int value =>
    if 0 ≤ value ∧ value < UInt64.size then pure (UInt64.ofNat value.toNat)
    else throw (.outOfRange "64-bit natural")
  | _ => throw (.mismatch "integer")

def readInt32 : Reader Int32
  | .int value =>
    if Int32.minValue.toInt ≤ value ∧ value ≤ Int32.maxValue.toInt then pure (Int32.ofInt value)
    else throw (.outOfRange "32-bit integer")
  | _ => throw (.mismatch "integer")

def readList (read : Reader α) : Reader (List α)
  | .list items => items.mapM read
  | _ => throw (.mismatch "list")

def readFreeForm : Reader Datum := fun datum =>
  match datum.freeForm? with
  | some datum => pure datum
  | none => throw .unreadable

structure Record where
  fields : List (String × Datum)

/-- The field that a key selects, if any; a key that can name no field is an error. -/
def Key.field? (names : List String) : Key → Except DecodeError (Option String)
  | .text name => pure (if name ∈ names then some name else none)
  | .position index => pure names[index]?
  | .other => throw (.mismatch "field name")

/-- The fields among the entries of a map: other entries are skipped, a field given twice is an
error. -/
def Record.ofEntries (names : List String) : Entries → Except DecodeError (List (String × Datum))
  | [] => pure []
  | (key, value) :: rest => do
    let later ← Record.ofEntries names rest
    match ← key.field? names with
    | none => pure later
    | some name =>
      if (later.lookup name).isSome then throw (.repeated name)
      else pure ((name, value) :: later)

/-- The fields of a record, given by name in a map or in order in a list. -/
def Record.ofDatum (names : List String) : Datum → Except DecodeError Record
  | .map entries => return ⟨← Record.ofEntries names entries⟩
  | .list items =>
    if items.length ≤ names.length then pure ⟨names.zip items⟩ else throw (.tooLong names.length)
  | _ => throw (.mismatch "record")

namespace Record

variable (record : Record) (name : String) (read : Reader α)

def required : Decode α :=
  match record.fields.lookup name with
  | some datum => read datum
  | none => throw (.missing name)

def optional : Decode (Option α) :=
  match record.fields.lookup name with
  | none | some .null => pure none
  | some datum => return some (← read datum)

/-- A field with a value of its own where it is absent; a null is not absent. -/
def defaulted (value : Decode α) : Decode α :=
  match record.fields.lookup name with
  | none => value
  | some datum => read datum

end Record

def readRecord (names : List String) (read : Record → Decode α) : Reader α := fun datum => do
  read (← liftM (Record.ofDatum names datum))

/-- The named value that a key selects, by name or by position. -/
def Key.named? (named : List (String × α)) : Key → Option α
  | .text name => named.lookup name
  | .position index => (named[index]?).map Prod.snd
  | .other => none

/-- Whether a datum says nothing: a null, or an empty record in a held message. -/
def Datum.isVoid (reading : Reading) : Datum → Bool
  | .null => true
  | .map [] => reading == .held
  | _ => false

/-- One of several named values: the name alone, or a map from the name to nothing. -/
def readName (named : List (String × α)) : Reader α
  | .text name =>
    match named.lookup name with
    | some value => pure value
    | none => throw (.unknownName name)
  | .map [(key, payload)] => do
    match key.named? named with
    | some value =>
      if payload.isVoid (← read) then pure value else throw (.mismatch "null")
    | none => throw (.mismatch "name")
  | _ => throw (.mismatch "name")

inductive Tag where
  | name (tag : String)
  | ordinal (index : Nat)
deriving Repr, DecidableEq

/-- The known name that a tag stands for. An unknown name stands for none, and so does an ordinal beyond
the known names. -/
def Tag.resolve (names : List String) : Tag → Decode (Option String)
  | .name tag => pure (if tag ∈ names then some tag else none)
  | .ordinal index => pure names[index]?

/-- A tag: its name, or in a held message its position. -/
def readTag : Reader Tag
  | .text tag => pure (.name tag)
  | .int index => do
    if (← read) = .held ∧ 0 ≤ index then pure (.ordinal index.toNat) else throw (.mismatch "tag")
  | _ => throw (.mismatch "tag")

/-- Whether a key is the one that holds a message's tag. -/
def isTagKey (entry : Key × Datum) : Bool :=
  entry.1 == .text "type"

/-- Splits a tagged message into its tag and the rest: the entry `type` of a map, or the first item
of a list. The rest is held and has to be readable throughout. -/
def readTagged : Reader (Tag × Datum)
  | .map entries => do
    let rest := entries.filter fun entry => !isTagKey entry
    match entries.filter isTagKey with
    | [(_, tag)] =>
      if Datum.entriesReadable rest then return (← readTag tag, .map rest) else throw .unreadable
    | [] => throw (.missing "type")
    | _ => throw (.repeated "type")
  | .list (tag :: rest) => do
    if Datum.areReadable rest then return (← readTag tag, .list rest) else throw .unreadable
  | _ => throw (.mismatch "tagged message")

def held (read : Reader α) : Reader α := fun datum _ => read datum .held

/-- The rest of a message whose tag says everything: any map, or an empty list. -/
def readNothing : Reader Unit
  | .map _ | .list [] => pure ()
  | _ => throw (.mismatch "nothing")

def readPayload (name : String) (read : Reader α) : Reader α :=
  readRecord [name] fun fields => fields.required name read

end Convoy.Data
