import Convoy.Identity.Identifier

/-!
# The mint

Hands out identifiers that were never handed out before.
-/
namespace Convoy

open Text

/-- Characters that may stand anywhere in an identifier. -/
def isStampChar (c : Char) : Bool :=
  !isBlank c && !isControl c

theorem isIdentifierText_of_forall {s : List Char} (someChar : s ≠ [])
    (allPlain : ∀ c ∈ s, isStampChar c = true) : isIdentifierText (String.ofList s) = true := by
  have edges : hasBlankEdge (String.ofList s) = false := by
    have first : ∀ c, s.head? = some c → isBlank c = false := fun c found => by
      simpa using (Bool.and_eq_true_iff.1 (allPlain c (List.mem_of_head? found))).1
    have last : ∀ c, s.getLast? = some c → isBlank c = false := fun c found => by
      simpa using (Bool.and_eq_true_iff.1 (allPlain c (List.mem_of_getLast? found))).1
    simp only [hasBlankEdge, String.toList_ofList, Bool.or_eq_false_iff]
    constructor
    · cases found : s.head? with
      | none => rfl
      | some c => exact first c found
    · cases found : s.getLast? with
      | none => rfl
      | some c => exact last c found
  have controls : s.any isControl = false := by
    rw [List.any_eq_false]
    intro c member
    simpa using (Bool.and_eq_true_iff.1 (allPlain c member)).2
  simp [isIdentifierText, edges, controls, someChar]

theorem isStampChar_stampDigit (n : Nat) : isStampChar (stampDigit n) = true := by
  by_cases small : n < 32
  · have all : ∀ i : Fin 32, isStampChar (stampDigit i) = true := by decide +kernel
    exact all ⟨n, small⟩
  · have : stampDigit n = '0' := by
      unfold stampDigit
      rw [List.getD_eq_getElem?_getD, List.getElem?_eq_none]
      · rfl
      · have : stampAlphabet.length = 32 := by decide
        omega
    rw [this]; decide

theorem isStampChar_of_mem_lowDigits {count n : Nat} {c : Char} (member : c ∈ lowDigits count n) :
    isStampChar c = true := by
  induction count generalizing n with
  | zero => simp [lowDigits] at member
  | succ count ih =>
    rcases List.mem_cons.1 member with rfl | later
    · exact isStampChar_stampDigit _
    · exact ih later

theorem isStampChar_of_isDigit {c : Char} (digit : c.isDigit = true) : isStampChar c = true := by
  have bounds : '0'.toNat ≤ c.toNat ∧ c.toNat ≤ '9'.toNat := by
    have parts := Bool.and_eq_true_iff.1 digit
    exact ⟨UInt32.le_iff_toNat_le.1 (of_decide_eq_true parts.1),
      UInt32.le_iff_toNat_le.1 (of_decide_eq_true parts.2)⟩
  have low : 48 ≤ c.toNat := bounds.1
  have high : c.toNat ≤ 57 := bounds.2
  have all : ∀ i : Fin 10, isStampChar (Char.ofNat (48 + i)) = true := by decide +kernel
  have value : c = Char.ofNat (48 + (⟨c.toNat - 48, by omega⟩ : Fin 10)) := by
    simp only [show 48 + (c.toNat - 48) = c.toNat by omega, Char.ofNat_toNat]
  rw [value]
  exact all _

theorem isStampChar_of_mem_stampDigits {n : Nat} {c : Char} (member : c ∈ stampDigits n) :
    isStampChar c = true := by
  rcases List.mem_append.1 member with early | late
  · unfold overflowDigits at early
    split at early
    · simp at early
    · exact isStampChar_of_isDigit (Nat.isDigit_of_mem_toDigits (by decide) (by decide) early)
  · exact isStampChar_of_mem_lowDigits (List.mem_reverse.1 late)

/-- The identifiers of a kind with a label, one for every number. -/
def Identifier.stamped (kind : IdKind) (label : List Char)
    (plain : label.all isStampChar = true) (n : Nat) : Identifier kind where
  text := String.ofList (label ++ '_' :: stampDigits n)
  wellFormed := isIdentifierText_of_forall (by simp) fun c member => by
    rcases List.mem_append.1 member with early | late
    · exact List.all_eq_true.1 plain c early
    · rcases List.mem_cons.1 late with rfl | digit
      · decide
      · exact isStampChar_of_mem_stampDigits digit

def TaskId.stamped : Nat → TaskId :=
  Identifier.stamped .task ['t', 'a', 's', 'k'] (by decide)

def ExecutorId.stamped : Nat → ExecutorId :=
  Identifier.stamped .executor ['e', 'x', 'e', 'c'] (by decide)

/-- Counts the stamps handed out so far. -/
structure Mint where
  issued : Nat
deriving Repr, DecidableEq

namespace Mint

def task (mint : Mint) : TaskId × Mint :=
  (TaskId.stamped mint.issued, ⟨mint.issued + 1⟩)

def executor (mint : Mint) : ExecutorId × Mint :=
  (ExecutorId.stamped mint.issued, ⟨mint.issued + 1⟩)

end Mint
end Convoy
