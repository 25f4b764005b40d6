import Convoy.Proofs.Identity.Stamps
import Convoy.Proofs.Json.RoundTrip
import Convoy.Wire.Identifier
import Mathlib.Data.List.DropRight
import Mathlib.Tactic.Ring

/-!
# Minted identifiers on the wire

The stamp of a 128-bit number has 26 digits, and the number is read back from them. An identifier
that is minted of such a number is told from every other, is known as minted in its own kind and in
no other, and comes back from its record and from the JSON text of it. A text comes back as an
identifier if and only if it is a name: not empty, with nothing to trim and no control character.
-/
namespace Convoy

open Data Text

/-- A number with one more digit behind it. -/
def appendDigit? (number : Nat) (c : Char) : Option Nat :=
  (stampValue? c).map (32 * number + ·)

/-- The number that a stamp is of. -/
def stampNumber? (s : List Char) : Option Nat :=
  if s.length = stampLength then s.foldlM appendDigit? 0 else none

theorem isSome_foldlM_appendDigit? (s : List Char) (number : Nat) :
    (s.foldlM appendDigit? number).isSome = s.all fun c => (stampValue? c).isSome := by
  induction s generalizing number with
  | nil => rfl
  | cons c rest ih =>
      rw [List.foldlM_cons, List.all_cons, appendDigit?]
      cases stampValue? c with
      | none => rfl
      | some value => exact ih (32 * number + value)

/-- A text has the form of a stamp if it is the stamp of a number. -/
theorem isStamp_eq (s : List Char) : isStamp s = (stampNumber? s).isSome := by
  rw [isStamp, stampNumber?]
  by_cases length : s.length = stampLength
  · rw [if_pos length, isSome_foldlM_appendDigit?, length, beq_self_eq_true, Bool.true_and]
  · rw [if_neg length, beq_false_of_ne length]
    rfl

theorem stampValue?_stampDigit {value : Nat} (small : value < 32) :
    stampValue? (stampDigit value) = some value := by
  have all : ∀ i : Fin 32, stampValue? (stampDigit i) = some i.val := by decide +kernel
  exact all ⟨value, small⟩

theorem mem_stampAlphabet_of_mem_lowDigits {count n : Nat} {c : Char}
    (member : c ∈ lowDigits count n) : c ∈ stampAlphabet := by
  have all : ∀ i : Fin 32, stampDigit i ∈ stampAlphabet := by decide +kernel
  induction count generalizing n with
  | zero => contradiction
  | succ count ih =>
      rcases List.mem_cons.mp member with rfl | later
      · exact all ⟨n % 32, Nat.mod_lt n (by decide)⟩
      · exact ih later

theorem foldlM_lowDigits (count n number : Nat) :
    (lowDigits count n).reverse.foldlM appendDigit? number =
      some (number * 32 ^ count + n % 32 ^ count) := by
  induction count generalizing n with
  | zero => simp [lowDigits, Nat.mod_one]
  | succ count ih =>
      have digit := stampValue?_stampDigit (Nat.mod_lt n (by decide : 0 < 32))
      have parts : n % 32 ^ (count + 1) = n % 32 + 32 * (n / 32 % 32 ^ count) := by
        rw [Nat.pow_succ', Nat.mod_mul]
      rw [lowDigits, List.reverse_cons, List.foldlM_append, ih, parts]
      simp only [Option.bind_eq_bind, Option.bind_some, List.foldlM_cons, List.foldlM_nil,
        appendDigit?, digit, Option.map_some]
      congr 1
      ring

/-- A 128-bit number takes no more than the 26 digits of a stamp. -/
theorem stampDigits_of_lt {n : Nat} (small : n < 2 ^ 128) :
    stampDigits n = (lowDigits stampLength n).reverse := by
  have none : n / Nat.pow 32 stampLength = 0 :=
    Nat.div_eq_of_lt (Nat.lt_trans small (by decide))
  rw [stampDigits, none]
  rfl

theorem length_stampDigits {n : Nat} (small : n < 2 ^ 128) :
    (stampDigits n).length = stampLength := by
  rw [stampDigits_of_lt small, List.length_reverse, length_lowDigits]

theorem mem_stampAlphabet_of_mem_stampDigits {n : Nat} (small : n < 2 ^ 128) {c : Char}
    (member : c ∈ stampDigits n) : c ∈ stampAlphabet := by
  rw [stampDigits_of_lt small, List.mem_reverse] at member
  exact mem_stampAlphabet_of_mem_lowDigits member

theorem stampNumber?_stampDigits {n : Nat} (small : n < 2 ^ 128) :
    stampNumber? (stampDigits n) = some n := by
  have whole : n % 32 ^ stampLength = n := Nat.mod_eq_of_lt (Nat.lt_trans small (by decide))
  rw [stampNumber?, if_pos (length_stampDigits small), stampDigits_of_lt small, foldlM_lowDigits,
    whole, Nat.zero_mul, Nat.zero_add]

/-- A text without the blanks at its ends. -/
def Text.trim (s : String) : String :=
  String.ofList ((s.toList.dropWhile isBlank).rdropWhile isBlank)

theorem Text.trim_eq_self_iff {s : String} : trim s = s ↔ hasBlankEdge s = false := by
  have same : trim s = s ↔ (s.toList.dropWhile isBlank).rdropWhile isBlank = s.toList := by
    rw [← String.toList_inj, trim, String.toList_ofList]
  have first : s.toList.dropWhile isBlank = s.toList ↔ s.toList.head?.any isBlank = false := by
    rw [List.dropWhile_eq_self_iff]
    cases s.toList <;> simp
  have last : s.toList.rdropWhile isBlank = s.toList ↔
      s.toList.getLast?.any isBlank = false := by
    rw [List.rdropWhile_eq_self_iff]
    by_cases empty : s.toList = []
    · simp [empty]
    · simp [List.getLast?_eq_some_getLast, empty]
  rw [same, hasBlankEdge, Bool.or_eq_false_iff, ← first, ← last]
  constructor
  · intro whole
    -- Nothing is cut off in the end, so nothing was cut off in front.
    have front : s.toList.dropWhile isBlank = s.toList := by
      have cut := (List.rdropWhile_prefix isBlank (s.toList.dropWhile isBlank)).length_le
      rw [whole] at cut
      exact (List.dropWhile_suffix isBlank).eq_of_length_le cut
    rw [front] at whole
    exact ⟨front, whole⟩
  · rintro ⟨front, back⟩
    rw [front, back]

namespace Identifier

/-- What may name a party. -/
def IsName (s : String) : Prop :=
  s ≠ "" ∧ trim s = s ∧ ∀ c ∈ s.toList, isControl c = false

theorem isName_iff {s : String} : IsName s ↔ isIdentifierText s = true := by
  simp [IsName, isIdentifierText, trim_eq_self_iff, and_assoc]

variable {kind : IdKind}

/-- The record that a text travels in. -/
def recordOf (s : String) : Datum :=
  record [field "value" (.text s)]

theorem read_recordOf (s : String) :
    (read : Reader (Identifier kind)) (recordOf s) =
      match parse kind s with
      | .ok id => pure id
      | .error reason => throw (.badIdentifier reason) :=
  rfl

theorem parse_eq_ok_iff {s : String} {id : Identifier kind} :
    parse kind s = .ok id ↔ id.text = s := by
  constructor
  · intro parsed
    unfold parse at parsed
    split at parsed
    · cases parsed
      rfl
    · split at parsed <;> cases parsed
  · rintro rfl
    exact parse_text id

theorem exists_text_iff {s : String} : (∃ id : Identifier kind, id.text = s) ↔ IsName s := by
  rw [isName_iff]
  constructor
  · rintro ⟨id, rfl⟩
    exact id.wellFormed
  · intro wellFormed
    exact ⟨⟨s, wellFormed⟩, rfl⟩

/-- A name is read as an identifier that is written as the same record; no other text is read. -/
theorem read_recordOf_iff (kind : IdKind) (s : String) (reading : Reading) (mint : Mint) :
    ((∃ id : Identifier kind, read (recordOf s) reading mint = .ok (id, mint) ∧
      id.write = recordOf s) ↔ IsName s) ∧
    ((∃ cause, (read : Reader (Identifier kind)) (recordOf s) reading mint = .error cause) ↔
      ¬ IsName s) := by
  rw [← @exists_text_iff kind, read_recordOf]
  cases parsed : parse kind s with
  | ok id =>
      have same := parse_eq_ok_iff.mp parsed
      have named : ∃ id : Identifier kind, id.text = s := ⟨id, same⟩
      have written : id.write = recordOf s := by rw [write, recordOf, same]
      exact ⟨iff_of_true ⟨id, rfl, written⟩ named, iff_of_false nofun (not_not_intro named)⟩
  | error reason =>
      have unnamed : ¬ ∃ id : Identifier kind, id.text = s := by
        rintro ⟨id, same⟩
        rw [parse_eq_ok_iff.mpr same] at parsed
        cases parsed
      exact ⟨iff_of_false nofun unnamed, iff_of_true ⟨_, rfl⟩ unnamed⟩

/-- What stands before the first underscore, and the stamp behind it, decide whether an identifier
is minted. -/
theorem isMinted_of_text {id : Identifier kind} {label : String} {before digits : List Char}
    (labeled : kind.label? = some label) (text : id.text.toList = before ++ '_' :: digits)
    (first : '_' ∉ before) :
    id.isMinted = (before == label.toList && isStamp digits) := by
  have different : ∀ c ∈ before, (c != '_') = true := fun c member =>
    bne_iff_ne.mpr fun same => first (same ▸ member)
  simp [isMinted, labeled, text, List.takeWhile_append_of_pos different,
    List.dropWhile_append_of_pos different]

/-- The identifiers that are minted of the 128-bit numbers under a label. -/
structure MintedAs (label : String) (other : IdKind) (minted : BitVec 128 → Identifier kind) :
    Prop where
  parsed : ∀ u, parse kind (label ++ "_" ++ stamp u.toNat) = .ok (minted u)
  back : ∀ u reading mint, read (minted u).write reading mint = .ok (minted u, mint)
  known : ∀ u, (minted u).isMinted = true
  /-- The same text is an identifier of the other kind, but not a minted one. -/
  strange : ∀ u, ∃ id : Identifier other,
    parse other (minted u).text = .ok id ∧ id.isMinted = false
  distinct : Function.Injective minted

theorem text_stamped {label : List Char} (plain : label.all isStampChar = true) (n : Nat) :
    (stamped kind label plain n).text = String.ofList label ++ "_" ++ stamp n := by
  rw [stamped, ← String.toList_inj]
  simp [stamp]

theorem mintedAs_stamped {other : IdKind} {label foreign : List Char}
    (labeled : kind.label? = some (String.ofList label))
    (elsewhere : other.label? = some (String.ofList foreign)) (differ : label ≠ foreign)
    (first : '_' ∉ label) (plain : label.all isStampChar = true) :
    MintedAs (String.ofList label) other fun u => stamped kind label plain u.toNat where
  parsed u := by rw [← text_stamped plain, parse_text]
  back u reading mint := by
    rw [write, ← recordOf, read_recordOf, parse_text]
    rfl
  known u := by
    have text : (stamped kind label plain u.toNat).text.toList =
        label ++ '_' :: stampDigits u.toNat := String.toList_ofList
    rw [isMinted_of_text labeled text first, isStamp_eq, stampNumber?_stampDigits u.isLt]
    simp
  strange u := by
    let id := stamped other label plain u.toNat
    have text : id.text.toList = label ++ '_' :: stampDigits u.toNat := String.toList_ofList
    refine ⟨id, id.parse_text, ?_⟩
    rw [isMinted_of_text elsewhere text first]
    simp [differ]
  distinct _ _ same := BitVec.eq_of_toNat_eq (stamped_injective same)

/-- The stamp of a 128-bit number consists of 26 digits from which the number is read back. What is
minted of such numbers is read, recognized and told apart as its own kind, and recognized in no
other. The record of a text is read as an identifier if and only if the text is a name, and it
survives as a JSON text in any case. -/
theorem minted_survive :
    (∀ s, isStamp s = (stampNumber? s).isSome) ∧
    (∀ u : BitVec 128, (stampDigits u.toNat).length = 26 ∧
      (∀ c ∈ stampDigits u.toNat, c ∈ stampAlphabet) ∧
      stampNumber? (stampDigits u.toNat) = some u.toNat) ∧
    MintedAs "task" .executor (fun u => (Mint.mk u.toNat).task.1) ∧
    MintedAs "exec" .task (fun u => (Mint.mk u.toNat).executor.1) ∧
    ∀ (kind : IdKind) (s : String) (reading : Reading) (mint : Mint),
      ((∃ id : Identifier kind, read (recordOf s) reading mint = .ok (id, mint) ∧
        id.write = recordOf s) ↔ IsName s) ∧
      ((∃ cause, (read : Reader (Identifier kind)) (recordOf s) reading mint = .error cause) ↔
        ¬ IsName s) ∧
      Json.read? (Json.compact (recordOf s)) = some (recordOf s) := by
  refine ⟨isStamp_eq, fun u => ?stamps, mintedAs_stamped rfl rfl (by decide) (by decide) (by decide),
    mintedAs_stamped rfl rfl (by decide) (by decide) (by decide),
    fun kind s reading mint => ?records⟩
  case stamps =>
    exact ⟨length_stampDigits u.isLt, fun c => mem_stampAlphabet_of_mem_stampDigits u.isLt,
      stampNumber?_stampDigits u.isLt⟩
  case records =>
    obtain ⟨named, refused⟩ := read_recordOf_iff kind s reading mint
    exact ⟨named, refused, Json.read?_compact_text "value" s⟩

end Identifier
end Convoy
