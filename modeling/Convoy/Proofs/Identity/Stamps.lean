import Convoy.Identity.Mint

/-!
# Stamps are never repeated

Different numbers have different stamps, so a mint that only counts up never hands out an identifier
twice. Numbers of more than 26 digits are told apart by what precedes their lowest digits.
-/
namespace Convoy

theorem overflowDigits_injective {a b : Nat} (same : overflowDigits a = overflowDigits b) :
    a = b := by
  have digits (n : Nat) : Nat.ofDigitChars 10 (overflowDigits n) 0 = n := by
    unfold overflowDigits
    split
    · rename_i none
      simp [none]
    · simp
  rw [← digits a, same, digits b]

theorem stampDigits_injective {a b : Nat} (same : stampDigits a = stampDigits b) : a = b := by
  have lengths : (lowDigits stampLength a).reverse.length =
      (lowDigits stampLength b).reverse.length := by
    simp only [List.length_reverse, length_lowDigits]
  obtain ⟨high, low⟩ := List.append_inj' same lengths
  have quotients := overflowDigits_injective high
  have remainders := lowDigits_eq (List.reverse_inj.mp low)
  rw [← Nat.div_add_mod a (Nat.pow 32 stampLength), quotients, remainders, Nat.div_add_mod]

theorem Identifier.stamped_injective {kind : IdKind} {label : List Char}
    {plain : label.all isStampChar = true} {a b : Nat}
    (same : stamped kind label plain a = stamped kind label plain b) : a = b := by
  have characters := congrArg (fun id => id.text.toList) same
  simp only [stamped, String.toList_ofList] at characters
  have digits := List.append_cancel_left characters
  exact stampDigits_injective (List.cons.inj digits).2

theorem TaskId.stamped_injective {a b : Nat} (same : TaskId.stamped a = TaskId.stamped b) :
    a = b :=
  Identifier.stamped_injective same

theorem ExecutorId.stamped_injective {a b : Nat}
    (same : ExecutorId.stamped a = ExecutorId.stamped b) : a = b :=
  Identifier.stamped_injective same

end Convoy
