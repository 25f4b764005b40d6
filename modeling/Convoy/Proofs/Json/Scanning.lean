import Convoy.Json.Reader
import Convoy.Json.Writer
import Mathlib.Data.List.TakeWhile

/-!
# Scanning what was written

The parts of a JSON text, and how each is scanned where something follows: a number up to the first
character that cannot be a part of it, a string up to its closing quote.
-/
namespace Convoy.Json

open Data Decimal

variable {text rest : List Char}

/-- Whether a number before a text cannot go on in it. -/
def EndsNumber (rest : List Char) : Prop :=
  ∀ c ∈ rest.head?, c.isDigit = false ∧ c ∉ ['.', 'e', 'E', '+', '-']

theorem endsNumber_nil : EndsNumber [] :=
  nofun

theorem endsNumber_comma : EndsNumber (',' :: rest) := by
  rintro _ ⟨⟩
  decide

theorem endsNumber_newLine (level : Nat) : EndsNumber ((newLine level).toList ++ rest) := by
  rw [newLine, String.toList_ofList]
  rintro _ ⟨⟩
  decide

theorem splitDigits_cons_of_isDigit {c : Char} (digit : c.isDigit = true) :
    splitDigits (c :: text) = (c :: (splitDigits text).1, (splitDigits text).2) := by
  simp [splitDigits, digit]

theorem splitDigits_cons_of_not_isDigit {c : Char} (other : c.isDigit = false) :
    splitDigits (c :: text) = ([], c :: text) := by
  simp [splitDigits, other]

theorem EndsNumber.splitDigits_append (ends : EndsNumber rest) (text : List Char) :
    splitDigits (text ++ rest) = ((splitDigits text).1, (splitDigits text).2 ++ rest) := by
  induction text with
  | nil =>
    cases rest with
    | nil => rfl
    | cons c rest => exact splitDigits_cons_of_not_isDigit (ends c rfl).1
  | cons c text ih =>
    cases digit : c.isDigit with
    | true =>
      rw [List.cons_append, splitDigits_cons_of_isDigit digit, ih,
        splitDigits_cons_of_isDigit digit]
    | false =>
      rw [List.cons_append, splitDigits_cons_of_not_isDigit digit,
        splitDigits_cons_of_not_isDigit digit]
      rfl

theorem scanFraction_of_ne (other : ∀ digits, text ≠ '.' :: digits) :
    scanFraction text = some (none, text) := by
  unfold scanFraction
  split
  · exact absurd rfl (other _)
  · rfl

theorem EndsNumber.scanFraction_append (ends : EndsNumber rest) (text : List Char) :
    scanFraction (text ++ rest) =
      (scanFraction text).map fun found => (found.1, found.2 ++ rest) := by
  by_cases point : ∃ digits, text = '.' :: digits
  · obtain ⟨digits, rfl⟩ := point
    simp only [List.cons_append, scanFraction, ends.splitDigits_append]
    split <;> rfl
  · have absent : ∀ digits, text ≠ '.' :: digits := fun digits same => point ⟨digits, same⟩
    rw [scanFraction_of_ne absent, scanFraction_of_ne]
    · rfl
    · intro digits same
      cases text with
      | nil =>
        cases rest with
        | nil => cases same
        | cons c rest => cases same; exact (ends '.' rfl).2 (by decide)
      | cons c text => cases same; exact absent text rfl

theorem EndsNumber.splitSign_append (ends : EndsNumber rest) (text : List Char) :
    splitSign (text ++ rest) = ((splitSign text).1, (splitSign text).2 ++ rest) := by
  cases text with
  | nil =>
    cases rest with
    | nil => rfl
    | cons c rest =>
      have other := (ends c rfl).2
      unfold splitSign
      split <;> simp_all
  | cons c text =>
    rw [List.cons_append]
    unfold splitSign
    split <;> simp_all

theorem EndsNumber.scanExponent_append (ends : EndsNumber rest) (text : List Char) :
    scanExponent (text ++ rest) =
      (scanExponent text).map fun found => (found.1, found.2 ++ rest) := by
  cases text with
  | nil =>
    cases rest with
    | nil => rfl
    | cons c rest =>
      have other := (ends c rfl).2
      have letter : ¬(c = 'e' ∨ c = 'E') := by simp_all
      simp [scanExponent, letter]
  | cons c text =>
    by_cases letter : c = 'e' ∨ c = 'E'
    · simp only [List.cons_append, scanExponent, if_pos letter, ends.splitSign_append,
        ends.splitDigits_append]
      split <;> rfl
    · simp [scanExponent, letter]

/-- What follows a number is left alone. -/
theorem EndsNumber.scanNumber_append (ends : EndsNumber rest) (negative : Bool)
    (text : List Char) :
    scanNumber negative (text ++ rest) =
      (scanNumber negative text).map fun found => (found.1, found.2 ++ rest) := by
  simp only [scanNumber, ends.splitDigits_append]
  split
  · rfl
  · cases fraction : scanFraction (splitDigits text).2 with
    | none => simp [ends.scanFraction_append, fraction]
    | some found =>
      cases exponent : scanExponent found.2 with
      | none => simp [ends.scanFraction_append, ends.scanExponent_append, fraction, exponent]
      | some power =>
        simp only [ends.scanFraction_append, ends.scanExponent_append, fraction, exponent,
          Option.map_some, Option.bind_eq_bind, Option.bind_some]
        split <;> simp_all

theorem suffix_of_scanFraction {found : Option (List Char) × List Char}
    (scanned : scanFraction text = some found) : found.2 <:+ text := by
  unfold scanFraction at scanned
  split at scanned
  · dsimp only at scanned
    split at scanned
    · cases scanned
    · cases scanned
      exact (List.dropWhile_suffix _).trans (List.suffix_cons _ _)
  · cases scanned
    exact List.suffix_refl _

theorem suffix_splitSign (text : List Char) : (splitSign text).2 <:+ text := by
  unfold splitSign
  split
  · exact List.suffix_cons _ _
  · exact List.suffix_cons _ _
  · exact List.suffix_refl _

theorem suffix_of_scanExponent {found : Option Int × List Char}
    (scanned : scanExponent text = some found) : found.2 <:+ text := by
  unfold scanExponent at scanned
  split at scanned
  · rename_i letter text
    dsimp only at scanned
    split at scanned
    · split at scanned
      · cases scanned
      · cases scanned
        exact ((List.dropWhile_suffix _).trans (suffix_splitSign text)).trans
          (List.suffix_cons _ _)
    · cases scanned
      exact List.suffix_refl _
  · cases scanned
    exact List.suffix_refl _

/-- A number takes characters off the front of a text. -/
theorem suffix_of_scanNumber {negative : Bool} {found : Datum × List Char}
    (scanned : scanNumber negative text = some found) : found.2 <:+ text := by
  unfold scanNumber at scanned
  dsimp only at scanned
  split at scanned
  · cases scanned
  · cases fraction : scanFraction (splitDigits text).2 with
    | none => simp [fraction] at scanned
    | some part =>
      cases exponent : scanExponent part.2 with
      | none => simp [fraction, exponent] at scanned
      | some power =>
        have same : found.2 = power.2 := by
          simp only [fraction, exponent, Option.bind_eq_bind, Option.bind_some] at scanned
          split at scanned <;> (cases scanned; rfl)
        rw [same]
        exact ((suffix_of_scanExponent exponent).trans (suffix_of_scanFraction fraction)).trans
          (List.dropWhile_suffix _)

theorem le_ofDigitChars (digits : List Char) (start : Nat) :
    start ≤ Nat.ofDigitChars 10 digits start := by
  induction digits generalizing start with
  | nil => exact Nat.le_refl _
  | cons c digits ih =>
    rw [Nat.ofDigitChars_cons]
    exact Nat.le_trans (by omega) (ih _)

theorem absorb_of_lt {digits : List Char} {start : Nat}
    (small : Nat.ofDigitChars 10 digits start < significandLimit) :
    absorb start digits = (Nat.ofDigitChars 10 digits start, []) := by
  induction digits generalizing start with
  | nil => rfl
  | cons c digits ih =>
    rw [Nat.ofDigitChars_cons, Nat.mul_comm 10 start] at small
    have next : start * 10 + digitValue c < significandLimit :=
      Nat.lt_of_le_of_lt (le_ofDigitChars digits _) small
    rw [absorb, if_pos next, Nat.ofDigitChars_cons, Nat.mul_comm 10 start]
    exact ih small

theorem isDigit_of_mem_naturalDigits {n : Nat} {c : Char} (member : c ∈ naturalDigits n) :
    c.isDigit = true :=
  Nat.isDigit_of_mem_toDigits (by decide) (by decide) member

theorem splitDigits_naturalDigits (n : Nat) :
    splitDigits (naturalDigits n) = (naturalDigits n, []) := by
  rw [splitDigits, List.takeWhile_eq_self_iff.2 fun _ => isDigit_of_mem_naturalDigits,
    List.dropWhile_eq_nil_iff.2 fun _ => isDigit_of_mem_naturalDigits]

/-- The digits of a number start with a zero only where it is zero. -/
theorem eq_zero_of_head_naturalDigits (n : Nat) (zero : (naturalDigits n).head? = some '0') :
    n = 0 := by
  induction n using Nat.strongRecOn with
  | ind n ih =>
    rw [naturalDigits, Nat.toDigits_eq_if (by decide)] at zero
    split at zero
    · simpa using zero
    · have smaller : n / 10 < n := by omega
      have front : (naturalDigits (n / 10)).head? = some '0' := by
        rw [List.head?_append] at zero
        cases known : (Nat.toDigits 10 (n / 10)).head? with
        | none => exact absurd (List.head?_eq_none_iff.1 known) Nat.toDigits_ne_nil
        | some c => simpa [known, naturalDigits] using zero
      have := ih _ smaller front
      omega

theorem naturalDigits_begins (n : Nat) :
    ((naturalDigits n).isEmpty ||
      ((naturalDigits n).head? == some '0' && (naturalDigits n).length != 1)) = false := by
  have filled : naturalDigits n ≠ [] := Nat.toDigits_ne_nil
  by_cases zero : (naturalDigits n).head? = some '0'
  · obtain rfl := eq_zero_of_head_naturalDigits n zero
    rfl
  · simp [filled, zero]

theorem absorb_naturalDigits {n : Nat} (small : n < significandLimit) :
    absorb 0 (naturalDigits n) = (n, []) := by
  have value : Nat.ofDigitChars 10 (naturalDigits n) 0 = n := Nat.ofDigitChars_ten_toDigits
  rw [absorb_of_lt (value.symm ▸ small), value]

theorem scanNumber_naturalDigits (negative : Bool) (n : Nat) {value : Int}
    (counted : Numeral.value? ⟨negative, naturalDigits n, none, none⟩ = some (.integer value)) :
    scanNumber negative (naturalDigits n) = some (.int value, []) := by
  have begins := naturalDigits_begins n
  simp only [scanNumber, splitDigits_naturalDigits]
  rw [if_neg (by simp [begins])]
  simp [scanFraction, scanExponent, counted]

theorem scanNumber_of_nonneg {n : Nat} (small : n < significandLimit) :
    scanNumber false (naturalDigits n) = some (.int n, []) := by
  refine scanNumber_naturalDigits false n ?_
  simp [Numeral.value?, absorb_naturalDigits small]

theorem scanNumber_of_neg {n : Nat} (positive : n ≠ 0) (small : n ≤ Nat.pow 2 63) :
    scanNumber true (naturalDigits n) = some (.int (-n), []) := by
  have within : n < significandLimit := Nat.lt_of_le_of_lt small (by decide)
  refine scanNumber_naturalDigits true n ?_
  simp [Numeral.value?, absorb_naturalDigits within, positive, Nat.not_lt.2 small]

/-- What is scanned of a character that was written: a control without a letter of its own is
written by number. -/
def charUnit (c : Char) : Nat ⊕ Char :=
  if c.toNat < 0x20 ∧ c ∉ ['\n', '\r', '\t', '\x08', '\x0c'] then .inl c.toNat else .inr c

theorem hexUnit?_of_lt {n : Nat} (small : n < 0x20) :
    hexUnit? '0' '0' (Nat.digitChar (n / 16)) (Nat.digitChar (n % 16)) = some n := by
  revert n
  decide

theorem stringUnits_plain {c : Char} (quote : c ≠ '"') (slash : c ≠ '\\') (high : ¬c.toNat < 0x20)
    (units : List (Nat ⊕ Char)) :
    stringUnits (c :: rest) units = stringUnits rest (.inr c :: units) := by
  rw [stringUnits.eq_def]
  split
  case h_5 =>
    rename_i same
    cases same
    rw [if_neg (not_or.mpr ⟨high, slash⟩)]
  all_goals simp_all

theorem stringUnits_stringChar (c : Char) (units : List (Nat ⊕ Char)) :
    stringUnits (stringChar c ++ rest) units = stringUnits rest (charUnit c :: units) := by
  unfold stringChar
  split
  · subst_vars; rfl
  split
  · subst_vars; rfl
  split
  · subst_vars; rfl
  split
  · subst_vars; rfl
  split
  · subst_vars; rfl
  split
  · subst_vars; rfl
  split
  · subst_vars; rfl
  split
  · rename_i control
    have byNumber : charUnit c = .inl c.toNat := by simp_all [charUnit]
    simp only [List.cons_append, List.nil_append]
    rw [stringUnits, hexUnit?_of_lt control, byNumber]
  · rename_i quote slash _ _ _ _ _ high
    have itself : charUnit c = .inr c := by simp [charUnit, high]
    rw [List.singleton_append, stringUnits_plain quote slash high, itself]

theorem stringUnits_flatMap (chars : List Char) (units : List (Nat ⊕ Char)) :
    stringUnits (chars.flatMap stringChar ++ '"' :: rest) units =
      some (units.reverse ++ chars.map charUnit, rest) := by
  induction chars generalizing units with
  | nil => simp [stringUnits]
  | cons c chars ih =>
    rw [List.flatMap_cons, List.append_assoc, stringUnits_stringChar, ih]
    simp

theorem joinUnits_inl_of_lt {n : Nat} (small : n < 0x20) (units : List (Nat ⊕ Char)) :
    joinUnits (.inl n :: units) = (joinUnits units).map (Char.ofNat n :: ·) := by
  have low : ¬(0xD800 ≤ n ∧ n < 0xDC00) := by omega
  have high : ¬(0xDC00 ≤ n ∧ n < 0xE000) := by omega
  have whole : ¬(0xD800 ≤ n ∧ n < 0xE000) := by omega
  rcases units with - | ⟨unit | c, units⟩
  · simp [joinUnits, whole]
  · rw [joinUnits, if_neg low, if_neg high]
  · simp [joinUnits, whole]

theorem joinUnits_map_charUnit (chars : List Char) :
    joinUnits (chars.map charUnit) = some chars := by
  induction chars with
  | nil => rfl
  | cons c chars ih =>
    by_cases control : c.toNat < 0x20 ∧ c ∉ ['\n', '\r', '\t', '\x08', '\x0c']
    · have byNumber : charUnit c = .inl c.toNat := if_pos control
      rw [List.map_cons, byNumber, joinUnits_inl_of_lt control.1, ih]
      simp
    · have itself : charUnit c = .inr c := if_neg control
      rw [List.map_cons, itself, joinUnits, ih]
      rfl

/-- A string is scanned as it was written, up to its closing quote. -/
theorem scanString_flatMap (chars : List Char) :
    scanString (chars.flatMap stringChar ++ '"' :: rest) = some (some chars, rest) := by
  rw [scanString, stringUnits_flatMap]
  simp [joinUnits_map_charUnit]

end Convoy.Json
