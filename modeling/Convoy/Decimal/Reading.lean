/-!
# Reading numerals

`Numeral` is a scanned decimal numeral. `Numeral.quick` is the rule for numerals in data: the
significand is cut where it outgrows 64 bits and scaled by one power of ten. `parseFloat?` is the
rule for numbers typed by people: the nearest float.
-/
namespace Convoy.Decimal

def digitValue (c : Char) : Nat :=
  c.toNat - '0'.toNat

def ofDigits (digits : List Char) : Nat :=
  digits.foldl (fun n c => n * 10 + digitValue c) 0

/-- A decimal numeral: sign, digits before and after the point, and the exponent. `fraction` is
absent where there is no point. -/
structure Numeral where
  negative : Bool
  whole : List Char
  fraction : Option (List Char)
  exponent : Option Int
deriving Repr, DecidableEq

inductive Number where
  | integer (n : Int)
  | real (x : Float)

/-- The largest significand that is kept. -/
def significandLimit : Nat := UInt64.size

/-- Appends digits to a significand as long as it stays below the limit; also gives the digits
left over. -/
def absorb (significand : Nat) : List Char → Nat × List Char
  | [] => (significand, [])
  | c :: rest =>
    if significand * 10 + digitValue c < significandLimit then
      absorb (significand * 10 + digitValue c) rest
    else (significand, c :: rest)

/-- Powers of ten that a float holds. -/
def powerOfTen (n : Nat) : Float :=
  Float.ofScientific 1 false n

/-- Divides a float by ten `count` times 308 at most, by the largest power first. -/
def scaleDown (x : Float) : Nat → Nat → Float
  | 0, _ => x
  | fuel + 1, count =>
    if count ≤ 308 then x / powerOfTen count
    else if x == 0.0 then x
    else scaleDown (x / powerOfTen 308) fuel (count - 308)

/-- A significand times a power of ten; absent where it is too large for a float. -/
def scale? (significand : Nat) (exponent : Int) : Option Float :=
  let x := (UInt64.ofNat significand).toFloat
  if exponent < 0 then some (scaleDown x 4 (min exponent.natAbs 1000))
  else if 308 < exponent then if significand = 0 then some x else none
  else
    let scaled := x * powerOfTen exponent.toNat
    if scaled.isInf then none else some scaled

/-- The largest exponent that is counted; beyond it a numeral is zero or out of range. -/
def exponentLimit : Nat := Nat.pow 2 31 - 1

/-- The value of a numeral in data: an integer if it has neither point nor exponent and fits in 64
bits, else a float. A minus before zero makes a float, and so does an integer below the signed
range. Absent where the value is out of range. -/
def Numeral.value? (numeral : Numeral) : Option Number :=
  let sign (x : Float) : Number := .real (if numeral.negative then -x else x)
  let (whole, dropped) := absorb 0 numeral.whole
  let (significand, fractionKept) :=
    match numeral.fraction with
    | none => (whole, 0)
    | some digits =>
      let (significand, left) := absorb whole digits
      (significand, digits.length - left.length)
  let start : Int := (dropped.length : Int) - (fractionKept : Int)
  match numeral.exponent with
  | some exponent =>
    if exponentLimit < exponent.natAbs then
      if significand ≠ 0 ∧ 0 ≤ exponent then none else some (sign 0.0)
    else (scale? significand (start + exponent)).map sign
  | none =>
    if numeral.fraction.isNone ∧ dropped = [] then
      if numeral.negative then
        if significand = 0 ∨ Nat.pow 2 63 < significand then
          some (sign (UInt64.ofNat significand).toFloat)
        else some (.integer (-(significand : Int)))
      else some (.integer significand)
    else (scale? significand start).map sign

/-- The float nearest to `digits * 10 ^ exponent`; exponents beyond every float are cut off. -/
def nearest (digits : List Char) (exponent : Int) : Float :=
  let kept := digits.dropWhile (· == '0')
  let top := (kept.length : Int) + exponent
  if kept.isEmpty then 0.0
  else if 400 < top then 1.0 / 0.0
  else if top < -400 then 0.0
  else Float.ofScientific (ofDigits kept) (decide (exponent < 0)) exponent.natAbs

def splitSign : List Char → Bool × List Char
  | '-' :: rest => (true, rest)
  | '+' :: rest => (false, rest)
  | text => (false, text)

/-- The size of an exponent; more than twelve significant digits count as the largest such. -/
def exponentSize (digits : List Char) : Nat :=
  let kept := digits.dropWhile (· == '0')
  if 12 < kept.length then Nat.pow 10 12 else ofDigits kept

/-- The exponent part of a numeral: absent if there is none, an error if it is malformed. -/
def exponentPart : List Char → Option (Option Int)
  | [] => some none
  | e :: rest =>
    if e = 'e' ∨ e = 'E' then
      let (negative, digits) := splitSign rest
      if digits.isEmpty || !digits.all Char.isDigit then none
      else
        let size : Int := exponentSize digits
        some (some (if negative then -size else size))
    else none

/-- Reads a finite decimal number: digits with an optional point among them or at either end, and
an optional exponent. -/
def parseDecimal? (text : List Char) : Option Float :=
  let whole := text.takeWhile Char.isDigit
  let rest := text.dropWhile Char.isDigit
  let (fraction, rest) :=
    match rest with
    | '.' :: rest => (rest.takeWhile Char.isDigit, rest.dropWhile Char.isDigit)
    | rest => ([], rest)
  if whole.isEmpty && fraction.isEmpty then none
  else
    (exponentPart rest).map fun exponent =>
      nearest (whole ++ fraction) (exponent.getD 0 - (fraction.length : Int))

/-- Reads a number as people type it: an optional sign, then a decimal number, `inf`, `infinity`
or `nan` in any case. -/
def parseFloat? (s : String) : Option Float :=
  let (negative, text) := splitSign s.toList
  let word := String.ofList (text.map Char.toLower)
  let size :=
    if word = "inf" ∨ word = "infinity" then some (1.0 / 0.0)
    else if word = "nan" then some (0.0 / 0.0)
    else parseDecimal? text
  size.map fun x => if negative then -x else x

end Convoy.Decimal
