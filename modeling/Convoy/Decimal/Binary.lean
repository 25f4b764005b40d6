/-!
# Binary form of a float

A finite float is a sign and `significand * 2 ^ exponent`.
-/
namespace Convoy.Decimal

inductive Binary where
  | finite (negative : Bool) (significand : Nat) (exponent : Int)
  | infinite (negative : Bool)
  | notANumber
deriving Repr, DecidableEq

namespace Binary

/-- Reads the 64 bits of a float: one of sign, eleven of exponent, 52 of significand. -/
def ofBits (bits : Nat) : Binary :=
  let negative := bits / Nat.pow 2 63 % 2 == 1
  let scale : Nat := bits / Nat.pow 2 52 % 2048
  let fraction := bits % Nat.pow 2 52
  if scale = 2047 then
    if fraction = 0 then .infinite negative else .notANumber
  else if scale = 0 then .finite negative fraction (-1074)
  else .finite negative (Nat.pow 2 52 + fraction) ((scale : Int) - 1075)

def ofFloat (x : Float) : Binary :=
  ofBits x.toBits.toNat

end Binary
end Convoy.Decimal
