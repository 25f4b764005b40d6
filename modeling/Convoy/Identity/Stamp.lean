/-!
# Stamps

A stamp is the part of a minted identifier that makes it unique: a number in 26 digits of the
base 32 that leaves out the letters I, L, O and U.
-/
namespace Convoy

/-- The 32 digits, by value. -/
def stampAlphabet : List Char :=
  "0123456789ABCDEFGHJKMNPQRSTVWXYZ".toList

def stampDigit (value : Nat) : Char :=
  stampAlphabet.getD value '0'

def stampValue? (c : Char) : Option Nat :=
  stampAlphabet.idxOf? c.toUpper

/-- The number of digits that a 128-bit number takes. -/
def stampLength : Nat := 26

/-- The `count` lowest digits of a number, lowest first. -/
def lowDigits : Nat → Nat → List Char
  | 0, _ => []
  | count + 1, n => stampDigit (n % 32) :: lowDigits count (n / 32)

/-- What precedes the 26 digits of a number that needs more of them: nothing below `2 ^ 130`. -/
def overflowDigits (n : Nat) : List Char :=
  if n = 0 then [] else Nat.toDigits 10 n

def stampDigits (n : Nat) : List Char :=
  overflowDigits (n / Nat.pow 32 stampLength) ++ (lowDigits stampLength n).reverse

def stamp (n : Nat) : String :=
  String.ofList (stampDigits n)

/-- Whether a text has the form of a stamp: 26 digits in either case. -/
def isStamp (s : List Char) : Bool :=
  s.length == stampLength && s.all fun c => (stampValue? c).isSome

theorem length_lowDigits (count n : Nat) : (lowDigits count n).length = count := by
  induction count generalizing n with
  | zero => rfl
  | succ count ih => simp [lowDigits, ih]

theorem stampDigit_injective {a b : Nat} (aSmall : a < 32) (bSmall : b < 32)
    (same : stampDigit a = stampDigit b) : a = b := by
  have distinct : ∀ i : Fin 32, ∀ j : Fin 32, stampDigit i = stampDigit j → i = j := by
    decide +kernel
  simpa using congrArg Fin.val (distinct ⟨a, aSmall⟩ ⟨b, bSmall⟩ same)

theorem lowDigits_eq {count a b : Nat} (same : lowDigits count a = lowDigits count b) :
    a % Nat.pow 32 count = b % Nat.pow 32 count := by
  induction count generalizing a b with
  | zero => rw [show Nat.pow 32 0 = 1 from rfl, Nat.mod_one, Nat.mod_one]
  | succ count ih =>
    simp only [lowDigits, List.cons.injEq] at same
    have low := stampDigit_injective (Nat.mod_lt a (by decide)) (Nat.mod_lt b (by decide)) same.1
    rw [show Nat.pow 32 (count + 1) = 32 * Nat.pow 32 count from Nat.mul_comm _ _, Nat.mod_mul,
      Nat.mod_mul, low, ih same.2]

end Convoy
