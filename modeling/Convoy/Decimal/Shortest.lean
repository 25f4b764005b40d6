import Convoy.Decimal.Binary

/-!
# Shortest decimal digits

The fewest decimal digits that lie closer to a binary number than to either of its neighbours, and
of those the ones nearest to the number. All arithmetic is exact.
-/
namespace Convoy.Decimal

/-- Decimal digits and the power of ten of the last one: `digits * 10 ^ exponent`. -/
structure Scaled where
  digits : Nat
  exponent : Int
deriving Repr, DecidableEq

/-- A positive number as a quotient of naturals. -/
structure Quotient where
  numerator : Nat
  denominator : Nat
deriving Repr

/-- The reals that round to one binary number: its value, the ends, and whether the ends belong.
All three are multiples of `unit`. -/
structure Rounding where
  unit : Quotient
  low : Nat
  value : Nat
  high : Nat
  closed : Bool
deriving Repr

/-- The interval around `significand * 2 ^ exponent`. The lower neighbour of a power of two is
half as far away as the upper one; a number with an even significand owns its ends. -/
def Rounding.around (significand : Nat) (exponent : Int) : Rounding :=
  let quarter := exponent - 2
  let unit : Quotient :=
    if 0 ≤ quarter then ⟨Nat.pow 2 quarter.toNat, 1⟩ else ⟨1, Nat.pow 2 (-quarter).toNat⟩
  let below := if significand = Nat.pow 2 52 ∧ exponent ≠ -1074 then 1 else 2
  ⟨unit, 4 * significand - below, 4 * significand, 4 * significand + 2, significand % 2 == 0⟩

/-- Compares `count` units with `candidate` steps of `10 ^ exponent`. -/
def Quotient.compareSteps (unit : Quotient) (count candidate : Nat) (exponent : Int) : Ordering :=
  compare (count * unit.numerator * (if 0 ≤ exponent then 1 else Nat.pow 10 (-exponent).toNat))
    (candidate * unit.denominator * (if 0 ≤ exponent then Nat.pow 10 exponent.toNat else 1))

/-- How many whole steps of `10 ^ exponent` fit into `count` units. -/
def Quotient.steps (unit : Quotient) (count : Nat) (exponent : Int) : Nat :=
  (count * unit.numerator * (if 0 ≤ exponent then 1 else Nat.pow 10 (-exponent).toNat)) /
    (unit.denominator * (if 0 ≤ exponent then Nat.pow 10 exponent.toNat else 1))

namespace Rounding

/-- Whether `candidate * 10 ^ exponent` rounds to the number. -/
def holds (around : Rounding) (candidate : Nat) (exponent : Int) : Bool :=
  let fromLow := around.unit.compareSteps around.low candidate exponent
  let fromHigh := around.unit.compareSteps around.high candidate exponent
  (fromLow == .lt || around.closed && fromLow == .eq) &&
    (fromHigh == .gt || around.closed && fromHigh == .eq)

/-- The power of ten of the leading digit: the largest `p ≤ start` with `10 ^ p` at most the
number, found within `fuel` steps down. -/
def leading (around : Rounding) : Nat → Int → Int
  | 0, start => start
  | fuel + 1, start =>
    if around.unit.compareSteps around.value 1 start == .lt then around.leading fuel (start - 1)
    else start

/-- The candidate on the grid of `10 ^ exponent` that rounds to the number, if one of the number's
two neighbours on that grid does; the nearer of two, and the even one of two equally near. -/
def onGrid (around : Rounding) (exponent : Int) : Option Scaled :=
  let below := around.unit.steps around.value exponent
  match around.holds below exponent, around.holds (below + 1) exponent with
  | false, false => none
  | true, false => some ⟨below, exponent⟩
  | false, true => some ⟨below + 1, exponent⟩
  | true, true =>
    match around.unit.compareSteps (2 * around.value) (2 * below + 1) exponent with
    | .lt => some ⟨below, exponent⟩
    | .gt => some ⟨below + 1, exponent⟩
    | .eq => some ⟨if below % 2 = 0 then below else below + 1, exponent⟩

/-- Tries ever finer grids, from the leading digit down. -/
def refine (around : Rounding) : Nat → Int → Scaled
  | 0, exponent => ⟨around.unit.steps around.value exponent, exponent⟩
  | fuel + 1, exponent =>
    match around.onGrid exponent with
    | some decimal => decimal
    | none => around.refine fuel (exponent - 1)

end Rounding

def Scaled.strip (decimal : Scaled) : Nat → Scaled
  | 0 => decimal
  | fuel + 1 =>
    if decimal.digits ≠ 0 ∧ decimal.digits % 10 = 0 then
      Scaled.strip ⟨decimal.digits / 10, decimal.exponent + 1⟩ fuel
    else decimal

/-- The shortest decimal that rounds to `significand * 2 ^ exponent`. Seventeen digits always do. -/
def shortest (significand : Nat) (exponent : Int) : Scaled :=
  if significand = 0 then ⟨0, 0⟩
  else
    let around := Rounding.around significand exponent
    -- the number is below 2 ^ (bits + exponent), and 10 ^ p needs more than three bits a digit
    let bits : Int := (Nat.log2 significand : Int) + 1 + exponent
    let start : Int := if 0 ≤ bits then bits * 31 / 100 + 1 else bits * 30 / 100 + 1
    Scaled.strip (around.refine 18 (around.leading 40 start)) 20

end Convoy.Decimal
