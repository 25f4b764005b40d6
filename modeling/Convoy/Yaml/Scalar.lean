import Convoy.Data.Datum
import Convoy.Decimal.Reading
import Convoy.Yaml.Token

/-!
# YAML scalars

What a scalar denotes. A plain one is a null, a flag or a number if it is written like one, and a
text otherwise; a quoted one is a text.
-/
namespace Convoy.Yaml

open Data

/-- The prefix of the tags that are part of the language. -/
def coreTag (name : String) : String :=
  "tag:yaml.org,2002:" ++ name

def isNullWord (s : String) : Bool :=
  s = "null" || s = "Null" || s = "NULL" || s = "~"

def flagWord? (s : String) : Option Bool :=
  if s = "true" ∨ s = "True" ∨ s = "TRUE" then some true
  else if s = "false" ∨ s = "False" ∨ s = "FALSE" then some false
  else none

/-- The number that digits of a base spell, at least one digit. -/
def radixNumber? (base : Nat) (digits : List Char) : Option Nat :=
  if digits.isEmpty then none
  else
    digits.foldlM
      (fun n c =>
        match hexDigit? c with
        | some d => if d < base then some (n * base + d) else none
        | none => none) 0

/-- A zero followed by digits only, after an optional sign: written like a number, but none. -/
def isPaddedNumber (text : List Char) : Bool :=
  let digits :=
    match text with
    | '-' :: rest | '+' :: rest => rest
    | text => text
  match digits with
  | '0' :: c :: rest => (c :: rest).all Char.isDigit
  | _ => false

/-- The base of a number, and its digits behind the mark of the base. -/
def splitBase : List Char → Option (Nat × List Char)
  | '0' :: 'x' :: digits => some (16, digits)
  | '0' :: 'o' :: digits => some (8, digits)
  | '0' :: 'b' :: digits => some (2, digits)
  | _ => none

/-- The size of an integer written without a sign. -/
def integerSize? (text : List Char) : Option Nat :=
  match splitBase text with
  | some (base, digits) => radixNumber? base digits
  | none => if isPaddedNumber text then none else radixNumber? 10 text

/-- What an integer denotes: one of more than 64 bits is no value, and one of more than 128 bits is
no integer. -/
inductive Whole where
  | value (n : Int)
  | tooLarge

/-- A natural number, with an optional plus. -/
def natural? (text : List Char) : Option Whole := do
  let digits :=
    match text with
    | '+' :: rest => rest
    | text => text
  let size ← integerSize? digits
  if size < UInt64.size then some (.value size)
  else if size < Nat.pow 2 128 then some .tooLarge
  else none

/-- A number with a minus. -/
def negative? (text : List Char) : Option Whole :=
  match text with
  | '-' :: rest => do
    let size ← integerSize? rest
    if size ≤ Nat.pow 2 63 then some (.value (-size))
    else if size ≤ Nat.pow 2 127 then some .tooLarge
    else none
  | _ => none

def whole? (text : List Char) : Option Whole :=
  (natural? text).or (negative? text)

/-- A float: a finite decimal, or one of the words for what is not finite. -/
def float? (s : String) : Option Float :=
  let text := s.toList
  let unsigned :=
    match text with
    | '+' :: rest => rest
    | text => text
  let twoSigns :=
    text.head? == some '+' && (unsigned.head? == some '+' || unsigned.head? == some '-')
  let word := String.ofList unsigned
  if twoSigns then none
  else if word = ".inf" ∨ word = ".Inf" ∨ word = ".INF" then some (1.0 / 0.0)
  else if s = "-.inf" ∨ s = "-.Inf" ∨ s = "-.INF" then some (-1.0 / 0.0)
  else if s = ".nan" ∨ s = ".NaN" ∨ s = ".NAN" then some (0.0 / 0.0)
  else
    match Decimal.parseFloat? word with
    | some x => if x.isFinite then some x else none
    | none => none

/-- What a plain scalar without a tag denotes. -/
def plainDatum? (s : String) : Option Datum :=
  let text := s.toList
  if s = "" || isNullWord s then some .null
  else
    match flagWord? s with
    | some flag => some (.bool flag)
    | none =>
      match whole? text with
      | some (.value n) => some (.int n)
      | some .tooLarge => none
      | none =>
        match if isPaddedNumber text then none else float? s with
        | some x => some (.float x)
        | none => some (.text s)

/-- What a scalar denotes; absent if it contradicts its tag or is out of range. A tag of the user's
own stands for a type that no message has. -/
def scalarDatum? (tag : Option String) (plain : Bool) (s : String) : Option Datum :=
  match tag with
  | none => if plain then plainDatum? s else some (.text s)
  | some tag =>
    if tag.startsWith "!" then none
    else if tag = coreTag "bool" then (flagWord? s).map .bool
    else if tag = coreTag "int" then
      match whole? s.toList with
      | some (.value n) => some (.int n)
      | _ => none
    else if tag = coreTag "float" then (float? s).map .float
    else if tag = coreTag "null" then if isNullWord s then some .null else none
    else some (.text s)

end Convoy.Yaml
