import Convoy.Data.Datum
import Convoy.Decimal.Reading

/-!
# Reading JSON

`read?` reads one JSON text. Maps keep every entry, repeated names included. Three well-formed parts
denote no value: a number out of range, a string with half a surrogate pair, and a list or map
inside 127 others.
-/
namespace Convoy.Json

open Data

def isSpace (c : Char) : Bool :=
  c = ' ' || c = '\n' || c = '\t' || c = '\r'

def skipSpace (text : List Char) : List Char :=
  text.dropWhile isSpace

/-- How many lists and maps may stand around a value. -/
def depthLimit : Nat := 127

def hexValue? (c : Char) : Option Nat :=
  if c.isDigit then some (c.toNat - '0'.toNat)
  else if 'a' ≤ c ∧ c ≤ 'f' then some (c.toNat - 'a'.toNat + 10)
  else if 'A' ≤ c ∧ c ≤ 'F' then some (c.toNat - 'A'.toNat + 10)
  else none

def hexUnit? (a b c d : Char) : Option Nat :=
  match hexValue? a, hexValue? b, hexValue? c, hexValue? d with
  | some a, some b, some c, some d => some (((a * 16 + b) * 16 + c) * 16 + d)
  | _, _, _, _ => none

/-- A string whose closing quote has been found: its characters, or none if half a surrogate pair
stands in it. -/
abbrev Scanned := Option (List Char)

def escape? (c : Char) : Option Char :=
  match c with
  | '"' => some '"'
  | '\\' => some '\\'
  | '/' => some '/'
  | 'b' => some '\x08'
  | 'f' => some '\x0c'
  | 'n' => some '\n'
  | 'r' => some '\r'
  | 't' => some '\t'
  | _ => none

/-- The code units of a string up to its closing quote, and what follows; an escape by number gives
a code unit, every other character its code point. -/
def stringUnits : List Char → List (Nat ⊕ Char) → Option (List (Nat ⊕ Char) × List Char)
  | [], _ => none
  | '"' :: rest, units => some (units.reverse, rest)
  | '\\' :: 'u' :: a :: b :: c :: d :: rest, units =>
    match hexUnit? a b c d with
    | some unit => stringUnits rest (.inl unit :: units)
    | none => none
  | '\\' :: c :: rest, units =>
    match escape? c with
    | some char => stringUnits rest (.inr char :: units)
    | none => none
  | c :: rest, units =>
    if c.toNat < 0x20 ∨ c = '\\' then none else stringUnits rest (.inr c :: units)

/-- Joins surrogate pairs; absent if half a pair is left. -/
def joinUnits : List (Nat ⊕ Char) → Scanned
  | [] => some []
  | .inr c :: rest => (joinUnits rest).map (c :: ·)
  | .inl high :: .inl low :: rest =>
    if 0xD800 ≤ high ∧ high < 0xDC00 then
      if 0xDC00 ≤ low ∧ low < 0xE000 then
        (joinUnits rest).map
          (Char.ofNat (0x10000 + (high - 0xD800) * 0x400 + (low - 0xDC00)) :: ·)
      else none
    else if 0xDC00 ≤ high ∧ high < 0xE000 then none
    else (joinUnits (.inl low :: rest)).map (Char.ofNat high :: ·)
  | .inl unit :: rest =>
    if 0xD800 ≤ unit ∧ unit < 0xE000 then none
    else (joinUnits rest).map (Char.ofNat unit :: ·)

def scanString (text : List Char) : Option (Scanned × List Char) :=
  (stringUnits text []).map fun (units, rest) => (joinUnits units, rest)

def splitDigits (text : List Char) : List Char × List Char :=
  (text.takeWhile Char.isDigit, text.dropWhile Char.isDigit)

/-- The fraction of a number: a point is followed by at least one digit. -/
def scanFraction : List Char → Option (Option (List Char) × List Char)
  | '.' :: text =>
    let (digits, rest) := splitDigits text
    if digits.isEmpty then none else some (some digits, rest)
  | text => some (none, text)

/-- The exponent of a number: the letter and sign are followed by at least one digit. -/
def scanExponent : List Char → Option (Option Int × List Char)
  | e :: text =>
    if e = 'e' ∨ e = 'E' then
      let (negative, text) := Decimal.splitSign text
      let (digits, rest) := splitDigits text
      let size : Int := Decimal.exponentSize digits
      if digits.isEmpty then none else some (some (if negative then -size else size), rest)
    else some (none, e :: text)
  | [] => some (none, [])

/-- A number: no zero before other digits. -/
def scanNumber (negative : Bool) (text : List Char) : Option (Datum × List Char) := do
  let (whole, rest) := splitDigits text
  if whole.isEmpty || (whole.head? == some '0' && whole.length != 1) then none
  let (fraction, rest) ← scanFraction rest
  let (exponent, rest) ← scanExponent rest
  let numeral : Decimal.Numeral := ⟨negative, whole, fraction, exponent⟩
  match numeral.value? with
  | some (.integer n) => some (.int n, rest)
  | some (.real x) => some (.float x, rest)
  | none => some (.unreadable, rest)

def scanWord (word : List Char) (value : Datum) (text : List Char) : Option (Datum × List Char) :=
  if word.isPrefixOf text then some (value, text.drop word.length) else none

/-- A list or map at a depth; too deep a one denotes nothing. -/
def atDepth (depth : Nat) (value : Datum) : Datum :=
  if depth < depthLimit then value else .unreadable

/-- The names of a map's entries, or none if one of them denotes nothing. -/
def mapOf (entries : List (Scanned × Datum)) : Datum :=
  if entries.all fun entry => entry.1.isSome then
    .map (entries.map fun entry => (.text (String.ofList (entry.1.getD [])), entry.2))
  else .unreadable

mutual

/-- One value, at a depth; each call uses up one unit of fuel, and a call reads a character. -/
def scanValue : Nat → Nat → List Char → Option (Datum × List Char)
  | 0, _, _ => none
  | fuel + 1, depth, text =>
    match skipSpace text with
    | '"' :: rest =>
      (scanString rest).map fun (chars, rest) =>
        ((chars.map fun chars => Datum.text (String.ofList chars)).getD .unreadable, rest)
    | '[' :: rest =>
      match skipSpace rest with
      | ']' :: rest => some (atDepth depth (.list []), rest)
      | rest =>
        (scanItems fuel (depth + 1) rest []).map fun (items, rest) =>
          (atDepth depth (.list items), rest)
    | '\x7b' :: rest =>
      match skipSpace rest with
      | '\x7d' :: rest => some (atDepth depth (.map []), rest)
      | rest =>
        (scanEntries fuel (depth + 1) rest []).map fun (entries, rest) =>
          (atDepth depth (mapOf entries), rest)
    | '-' :: rest => scanNumber true rest
    | c :: rest =>
      if c.isDigit then scanNumber false (c :: rest)
      else if c = 't' then scanWord ['t', 'r', 'u', 'e'] (.bool true) (c :: rest)
      else if c = 'f' then scanWord ['f', 'a', 'l', 's', 'e'] (.bool false) (c :: rest)
      else if c = 'n' then scanWord ['n', 'u', 'l', 'l'] .null (c :: rest)
      else none
    | [] => none

def scanItems : Nat → Nat → List Char → List Datum → Option (List Datum × List Char)
  | 0, _, _, _ => none
  | fuel + 1, depth, text, items =>
    match scanValue fuel depth text with
    | none => none
    | some (item, rest) =>
      match skipSpace rest with
      | ',' :: rest => scanItems fuel depth rest (item :: items)
      | ']' :: rest => some ((item :: items).reverse, rest)
      | _ => none

def scanEntries : Nat → Nat → List Char → List (Scanned × Datum) →
    Option (List (Scanned × Datum) × List Char)
  | 0, _, _, _ => none
  | fuel + 1, depth, text, entries =>
    match skipSpace text with
    | '"' :: rest =>
      match scanString rest with
      | none => none
      | some (name, rest) =>
        match skipSpace rest with
        | ':' :: rest =>
          match scanValue fuel depth rest with
          | none => none
          | some (value, rest) =>
            match skipSpace rest with
            | ',' :: rest => scanEntries fuel depth rest ((name, value) :: entries)
            | '\x7d' :: rest => some (((name, value) :: entries).reverse, rest)
            | _ => none
        | _ => none
    | _ => none

end

def read? (s : String) : Option Datum :=
  let text := s.toList
  match scanValue (text.length + 1) 0 text with
  | some (value, rest) => if (skipSpace rest).isEmpty then some value else none
  | none => none

end Convoy.Json
