/-!
# Data

A datum is the value of a data text before it is read as a message: nulls, flags, numbers, texts,
lists and maps. Maps keep their entries in written order, repeated keys included.
-/
namespace Convoy.Data

/-- The key of a map entry. A natural number selects a field by its position; any other key that is
not a text can name no field. -/
inductive Key where
  | text (name : String)
  | position (index : Nat)
  | other
deriving Repr, DecidableEq

/-- A value of a data text. `unreadable` stands for a part that is well formed but denotes no value,
such as a number out of range; it is an error only where somebody looks at it. -/
inductive Datum where
  | null
  | bool (value : Bool)
  | int (value : Int)
  | float (value : Float)
  | text (value : String)
  | list (items : List Datum)
  | map (entries : List (Key × Datum))
  | unreadable
deriving Inhabited

namespace Datum

mutual

def isReadable : Datum → Bool
  | .unreadable => false
  | .list items => areReadable items
  | .map entries => entriesReadable entries
  | _ => true

def areReadable : List Datum → Bool
  | [] => true
  | item :: rest => isReadable item && areReadable rest

def entriesReadable : List (Key × Datum) → Bool
  | [] => true
  | (_, value) :: rest => isReadable value && entriesReadable rest

end

/-- Puts an entry into a list of entries sorted by name, in place of one of the same name. -/
def putEntry (name : String) (value : Datum) : List (Key × Datum) → List (Key × Datum)
  | [] => [(.text name, value)]
  | (.text known, old) :: rest =>
    if name < known then (.text name, value) :: (.text known, old) :: rest
    else if name = known then (.text name, value) :: rest
    else (.text known, old) :: putEntry name value rest
  | entry :: rest => entry :: putEntry name value rest

mutual

/-- A datum as it is carried through unread: the entries of a map sorted by name with the last of a
name kept, and no number that is not finite. Absent if some part denotes no value or some key is
not a text. -/
def freeForm? : Datum → Option Datum
  | .null => some .null
  | .bool value => some (.bool value)
  | .int value => some (.int value)
  | .float value => some (if value.isFinite then .float value else .null)
  | .text value => some (.text value)
  | .list items => (freeFormItems? items).map .list
  | .map entries => (freeFormEntries? entries []).map .map
  | .unreadable => none

def freeFormItems? : List Datum → Option (List Datum)
  | [] => some []
  | item :: rest =>
    match freeForm? item, freeFormItems? rest with
    | some item, some rest => some (item :: rest)
    | _, _ => none

/-- The entries of a map as they are carried through, put into the entries read so far. -/
def freeFormEntries? : List (Key × Datum) → List (Key × Datum) → Option (List (Key × Datum))
  | [], sorted => some sorted
  | (.text name, value) :: rest, sorted =>
    match freeForm? value with
    | some value => freeFormEntries? rest (putEntry name value sorted)
    | none => none
  | (_, _) :: _, _ => none

end

end Datum

/-- Entries of a map under construction. -/
abbrev Entries := List (Key × Datum)

def field (name : String) (value : Datum) : Entries :=
  [(.text name, value)]

/-- A field that is written only where it has a value. -/
def fieldIfSome {α : Type} (name : String) (write : α → Datum) : Option α → Entries
  | some value => [(.text name, write value)]
  | none => []

/-- A list that is written only where it has items. -/
def fieldUnlessEmpty {α : Type} (name : String) (write : α → Datum) : List α → Entries
  | [] => []
  | items => [(.text name, .list (items.map write))]

def listOf {α : Type} (write : α → Datum) (items : List α) : Datum :=
  .list (items.map write)

def record (parts : List Entries) : Datum :=
  .map parts.flatten

end Convoy.Data
