import Convoy.Data.Decode

/-!
# Resources

A resource is a named quantity that an agent offers or a task asks for: an amount, a set of whole
numbers given by ranges, a set of items, or a text.
-/
namespace Convoy

open Data

/-- The role of a resource that does not name one. -/
def defaultRole : String := "*"

inductive ResourceKind where
  | scalar | ranges | set | text
deriving Repr, DecidableEq

namespace ResourceKind

def names : List (String × ResourceKind) :=
  [("SCALAR", .scalar), ("RANGES", .ranges), ("SET", .set), ("TEXT", .text)]

def name : ResourceKind → String
  | .scalar => "SCALAR"
  | .ranges => "RANGES"
  | .set => "SET"
  | .text => "TEXT"

def write (kind : ResourceKind) : Datum := .text kind.name

def read : Reader ResourceKind := readName names

end ResourceKind

/-- The whole numbers from `first` to `last`, both included. -/
structure Span where
  first : UInt64
  last : UInt64
deriving Repr, DecidableEq

namespace Span

def write (span : Span) : Datum :=
  record [field "begin" (.int span.first.toNat), field "end" (.int span.last.toNat)]

def read : Reader Span :=
  readRecord ["begin", "end"] fun fields => do
    return { first := ← fields.required "begin" readUInt64
             last := ← fields.required "end" readUInt64 }

end Span

def writeAmount (amount : Float) : Datum :=
  record [field "value" (.float amount)]

def readAmount : Reader Float :=
  readRecord ["value"] fun fields => fields.required "value" readFloat

def writeSpans (spans : List Span) : Datum :=
  record [field "range" (listOf Span.write spans)]

def readSpans : Reader (List Span) :=
  readRecord ["range"] fun fields => fields.defaulted "range" (readList Span.read) (pure [])

def writeItems (items : List String) : Datum :=
  record [field "item" (listOf .text items)]

def readItems : Reader (List String) :=
  readRecord ["item"] fun fields => fields.defaulted "item" (readList readText) (pure [])

/-- A named quantity. The part that belongs to its kind should be there, and nothing demands it. -/
structure Resource where
  name : String
  kind : ResourceKind
  amount : Option Float
  spans : Option (List Span)
  items : Option (List String)
  role : Option String

namespace Resource

def scalar (name : String) (amount : Float) : Resource where
  name := name
  kind := .scalar
  amount := some amount
  spans := none
  items := none
  role := some defaultRole

def ranges (name : String) (spans : List Span) : Resource where
  name := name
  kind := .ranges
  amount := none
  spans := some spans
  items := none
  role := some defaultRole

def scalarAmount? (resource : Resource) : Option Float :=
  match resource.kind with
  | .scalar => resource.amount
  | _ => none

def roleName (resource : Resource) : String :=
  resource.role.getD defaultRole

def inRole (role : String) (resource : Resource) : Resource :=
  { resource with role := some role }

def fieldNames : List String := ["name", "type", "scalar", "ranges", "set", "role"]

def write (resource : Resource) : Datum :=
  record
    [field "name" (.text resource.name),
     field "type" resource.kind.write,
     fieldIfSome "scalar" writeAmount resource.amount,
     fieldIfSome "ranges" writeSpans resource.spans,
     fieldIfSome "set" writeItems resource.items,
     fieldIfSome "role" .text resource.role]

def read : Reader Resource :=
  readRecord fieldNames fun fields => do
    return { name := ← fields.required "name" readText
             kind := ← fields.required "type" ResourceKind.read
             amount := ← fields.optional "scalar" readAmount
             spans := ← fields.optional "ranges" readSpans
             items := ← fields.optional "set" readItems
             role := ← fields.optional "role" readText }

end Resource
end Convoy
