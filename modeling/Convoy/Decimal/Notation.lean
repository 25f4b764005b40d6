import Convoy.Decimal.Shortest

/-!
# Decimal notation of floats

Two ways to write the shortest digits of a float: `plain`, for people, always positional; and
`wire`, for data, positional near one and scientific elsewhere.
-/
namespace Convoy.Decimal

def naturalDigits (n : Nat) : List Char :=
  Nat.toDigits 10 n

def integerText (n : Int) : String :=
  String.ofList (if n < 0 then '-' :: naturalDigits n.natAbs else naturalDigits n.toNat)

/-- `digits * 10 ^ exponent` in positional notation; a whole number is followed by `whole`. -/
def positional (digits : List Char) (exponent : Int) (whole : List Char) : List Char :=
  let point := (digits.length : Int) + exponent
  if 0 ≤ exponent then digits ++ List.replicate exponent.toNat '0' ++ whole
  else if 0 < point then digits.take point.toNat ++ '.' :: digits.drop point.toNat
  else '0' :: '.' :: List.replicate (-point).toNat '0' ++ digits

/-- `digits * 10 ^ exponent` with one digit before the point and a signed power of ten. -/
def scientific (digits : List Char) (exponent : Int) : List Char :=
  let power := (digits.length : Int) + exponent - 1
  let fraction := digits.drop 1
  digits.take 1 ++ (if fraction.isEmpty then [] else '.' :: fraction) ++
    ['e', if power < 0 then '-' else '+'] ++ naturalDigits power.natAbs

/-- A sign before a negative number, zero included. -/
def signed (negative : Bool) (text : List Char) : String :=
  String.ofList (if negative then '-' :: text else text)

/-- The text of a float for people: never an exponent, no fraction on a whole number. -/
def plain (x : Float) : String :=
  match Binary.ofFloat x with
  | .notANumber => "NaN"
  | .infinite negative => signed negative ['i', 'n', 'f']
  | .finite negative significand exponent =>
    let decimal := shortest significand exponent
    signed negative (positional (naturalDigits decimal.digits) decimal.exponent [])

/-- Whether the digits are written positionally on the wire: the leading digit stands between
10^-5 and 10^15. -/
def isPositional (digits : List Char) (exponent : Int) : Bool :=
  let point := (digits.length : Int) + exponent
  decide (-5 < point ∧ point ≤ 16)

/-- The text of a float in data: a whole number keeps `.0`, very large and very small numbers have
an exponent, and a float that is no number is `null`. -/
def wire (x : Float) : String :=
  match Binary.ofFloat x with
  | .notANumber | .infinite _ => "null"
  | .finite negative significand exponent =>
    let decimal := shortest significand exponent
    let digits := naturalDigits decimal.digits
    signed negative
      (if isPositional digits decimal.exponent then
        positional digits decimal.exponent ['.', '0']
      else scientific digits decimal.exponent)

end Convoy.Decimal
