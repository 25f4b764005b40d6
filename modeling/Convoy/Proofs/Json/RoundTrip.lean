import Convoy.Proofs.Data.Leaves
import Convoy.Proofs.Json.Scanning

/-!
# The round trip of JSON

The indented text of a datum is read as the datum where every part of it can be written: names are
texts, integers fit in 64 bits, floats are read back, and nothing is too deep. A record with one
text is also read back from its compact text.
-/
namespace Convoy.Json

open Data Decimal

variable {text rest : List Char}

theorem skipSpace_skipSpace (text : List Char) : skipSpace (skipSpace text) = skipSpace text := by
  induction text with
  | nil => rfl
  | cons c text ih =>
    by_cases space : isSpace c
    · simpa [skipSpace, space] using ih
    · simp [skipSpace, space]

theorem skipSpace_of_not_isSpace {c : Char} (solid : isSpace c = false) :
    skipSpace (c :: text) = c :: text := by
  simp [skipSpace, solid]

theorem skipSpace_newLine (level : Nat) (rest : List Char) :
    skipSpace ((newLine level).toList ++ rest) = skipSpace rest := by
  have blank : ∀ c ∈ (newLine level).toList, isSpace c = true := by
    intro c member
    rw [newLine, String.toList_ofList, List.mem_cons, List.mem_replicate] at member
    obtain rfl | ⟨-, rfl⟩ := member <;> rfl
  exact List.dropWhile_append_of_pos blank

theorem scanValue_of_skipSpace {fuel depth : Nat} {other : List Char}
    (same : skipSpace text = skipSpace other) :
    scanValue fuel depth text = scanValue fuel depth other := by
  cases fuel with
  | zero => simp only [scanValue]
  | succ fuel => simp only [scanValue, same]

theorem scanItems_skipSpace (fuel depth : Nat) (text : List Char) (items : List Datum) :
    scanItems fuel depth (skipSpace text) items = scanItems fuel depth text items := by
  cases fuel with
  | zero => simp only [scanItems]
  | succ fuel => simp only [scanItems, scanValue_of_skipSpace (skipSpace_skipSpace text)]

theorem scanEntries_skipSpace (fuel depth : Nat) (text : List Char)
    (entries : List (Scanned × Datum)) :
    scanEntries fuel depth (skipSpace text) entries = scanEntries fuel depth text entries := by
  cases fuel with
  | zero => simp only [scanEntries]
  | succ fuel => simp only [scanEntries, skipSpace_skipSpace]

theorem not_isSpace_of_isDigit {c : Char} (digit : c.isDigit = true) : isSpace c = false := by
  by_contra space
  simp only [isSpace, Bool.or_eq_true, decide_eq_true_eq, Bool.not_eq_false] at space
  rcases space with ((rfl | rfl) | rfl) | rfl <;> exact absurd digit (by decide)

theorem scanValue_minus (fuel depth : Nat) :
    scanValue (fuel + 1) depth ('-' :: text) = scanNumber true text := by
  rw [scanValue, skipSpace_of_not_isSpace rfl]
  rfl

theorem scanValue_digit {c : Char} (digit : c.isDigit = true) (fuel depth : Nat) :
    scanValue (fuel + 1) depth (c :: text) = scanNumber false (c :: text) := by
  have solid := not_isSpace_of_isDigit digit
  rw [scanValue, skipSpace_of_not_isSpace solid]
  split <;> simp_all

theorem atDepth_ne_float {depth : Nat} {value : Datum} {x : Float} (other : value ≠ .float x) :
    atDepth depth value ≠ .float x := by
  unfold atDepth
  split
  · exact other
  · nofun

theorem mapOf_ne_float {entries : List (Scanned × Datum)} {x : Float} :
    mapOf entries ≠ .float x := by
  unfold mapOf
  split <;> nofun

/-- A float is the value of a number only. -/
theorem number_of_scanValue {fuel depth : Nat} {x : Float} (solid : skipSpace text = text)
    (scanned : scanValue (fuel + 1) depth text = some (.float x, rest)) :
    (∃ digits, text = '-' :: digits ∧ scanNumber true digits = some (.float x, rest)) ∨
      ∃ c digits, text = c :: digits ∧ c.isDigit = true ∧
        scanNumber false text = some (.float x, rest) := by
  rw [scanValue, solid] at scanned
  split at scanned
  · obtain ⟨⟨chars, after⟩, -, same⟩ := Option.map_eq_some_iff.1 scanned
    cases chars <;> cases same
  · split at scanned
    · exact absurd (congrArg Prod.fst (Option.some.inj scanned)) (atDepth_ne_float nofun)
    · obtain ⟨_, -, same⟩ := Option.map_eq_some_iff.1 scanned
      exact absurd (congrArg Prod.fst same) (atDepth_ne_float nofun)
  · split at scanned
    · exact absurd (congrArg Prod.fst (Option.some.inj scanned)) (atDepth_ne_float nofun)
    · obtain ⟨_, -, same⟩ := Option.map_eq_some_iff.1 scanned
      exact absurd (congrArg Prod.fst same) (atDepth_ne_float mapOf_ne_float)
  · exact .inl ⟨_, rfl, scanned⟩
  · rename_i c digits _ _ _ _
    split at scanned
    · exact .inr ⟨c, digits, rfl, ‹_›, scanned⟩
    · simp only [scanWord] at scanned
      repeat' split at scanned
      all_goals simp at scanned
  · cases scanned

/-- The characters that a number is written with. -/
def isNumeric (c : Char) : Bool :=
  c.isDigit || ['.', 'e', '+', '-'].contains c

theorem not_isSpace_of_isNumeric {c : Char} (numeric : isNumeric c = true) :
    isSpace c = false := by
  rw [isNumeric, Bool.or_eq_true] at numeric
  rcases numeric with digit | mark
  · exact not_isSpace_of_isDigit digit
  · simp only [List.contains_iff_mem, List.mem_cons, List.not_mem_nil, or_false] at mark
    rcases mark with rfl | rfl | rfl | rfl <;> rfl

theorem isNumeric_naturalDigits {n : Nat} : (naturalDigits n).all isNumeric = true :=
  List.all_eq_true.2 fun c member => by simp [isNumeric, isDigit_of_mem_naturalDigits member]

theorem isNumeric_positional {digits whole : List Char} {exponent : Int}
    (digitsNumeric : digits.all isNumeric = true) (wholeNumeric : whole.all isNumeric = true) :
    (positional digits exponent whole).all isNumeric = true := by
  have zero : isNumeric '0' = true := rfl
  have point : isNumeric '.' = true := rfl
  rw [List.all_eq_true] at digitsNumeric wholeNumeric ⊢
  unfold positional
  intro c member
  dsimp only at member
  repeat' split at member
  all_goals
    simp only [List.mem_append, List.mem_cons, List.mem_replicate] at member
  · rcases member with (member | member) | member
    · exact digitsNumeric c member
    · exact member.2 ▸ zero
    · exact wholeNumeric c member
  · rcases member with member | rfl | member
    · exact digitsNumeric c (List.mem_of_mem_take member)
    · exact point
    · exact digitsNumeric c (List.mem_of_mem_drop member)
  · rcases member with (rfl | rfl | member) | member
    · exact zero
    · exact point
    · exact member.2 ▸ zero
    · exact digitsNumeric c member

theorem isNumeric_scientific {digits : List Char} {exponent : Int}
    (digitsNumeric : digits.all isNumeric = true) :
    (scientific digits exponent).all isNumeric = true := by
  have part : ∀ {few : List Char}, few ⊆ digits → few.all isNumeric = true := fun within =>
    List.all_eq_true.2 fun c member => List.all_eq_true.1 digitsNumeric c (within member)
  simp only [scientific, List.all_append, Bool.and_eq_true]
  refine ⟨⟨⟨part (List.take_subset _ _), ?_⟩, ?_⟩, isNumeric_naturalDigits⟩
  · split
    · rfl
    · exact Bool.and_eq_true_iff.2 ⟨rfl, part (List.drop_subset _ _)⟩
  · split <;> rfl

/-- The text of a float has no space in it. -/
theorem not_isSpace_of_mem_wire {x : Float} {c : Char} (member : c ∈ (wire x).toList) :
    isSpace c = false := by
  have word : ∀ c ∈ "null".toList, isSpace c = false := by simp [isSpace]
  unfold wire at member
  split at member
  · exact word c member
  · exact word c member
  · rename_i negative significand exponent _
    have numeric : ∀ whole : List Char, whole.all isNumeric = true →
        ∀ c ∈ (signed negative whole).toList, isSpace c = false := by
      intro whole all c inside
      rw [signed, String.toList_ofList] at inside
      have known : c = '-' ∨ c ∈ whole := by
        split at inside
        · exact List.mem_cons.1 inside
        · exact .inr inside
      rcases known with rfl | within
      · rfl
      · exact not_isSpace_of_isNumeric (List.all_eq_true.1 all c within)
    refine numeric _ ?_ c member
    split
    · exact isNumeric_positional isNumeric_naturalDigits rfl
    · exact isNumeric_scientific isNumeric_naturalDigits

/-- Whether a float is read back from its text. -/
def IsExact (x : Float) : Prop :=
  read? (wire x) = some (.float x)

theorem IsExact.scanValue_wire {x : Float} (exact : IsExact x) (ends : EndsNumber rest)
    (fuel depth : Nat) :
    scanValue (fuel + 1) depth ((wire x).toList ++ rest) = some (.float x, rest) := by
  have solid : ∀ text : List Char, text <:+ (wire x).toList → skipSpace text = text := by
    intro text suffix
    cases text with
    | nil => rfl
    | cons c text =>
      have inside : c ∈ (wire x).toList := suffix.subset List.mem_cons_self
      exact skipSpace_of_not_isSpace (not_isSpace_of_mem_wire inside)
  unfold IsExact read? at exact
  dsimp only at exact
  split at exact
  · rename_i value after scanned
    split at exact
    · rename_i spaces
      cases exact
      obtain ⟨digits, whole, number⟩ | ⟨c, digits, whole, digit, number⟩ :=
        number_of_scanValue (solid _ (List.suffix_refl _)) scanned
      · have behind : after <:+ (wire x).toList :=
          whole ▸ (suffix_of_scanNumber number).trans (List.suffix_cons _ _)
        obtain rfl : after = [] := List.isEmpty_iff.1 (solid after behind ▸ spaces)
        rw [whole, List.cons_append, scanValue_minus, ends.scanNumber_append, number]
        rfl
      · have behind : after <:+ (wire x).toList := suffix_of_scanNumber number
        obtain rfl : after = [] := List.isEmpty_iff.1 (solid after behind ▸ spaces)
        rw [whole, List.cons_append, scanValue_digit digit, ← List.cons_append, ← whole,
          ends.scanNumber_append, number]
        rfl
    · cases exact
  · cases exact

mutual

/-- Whether a text can tell all of a datum, at a depth. -/
def IsWritable (depth : Nat) : Datum → Prop
  | .null | .bool _ | .text _ => True
  | .int value => -(Nat.pow 2 63 : Int) ≤ value ∧ value < UInt64.size
  | .float value => IsExact value
  | .list items => depth < depthLimit ∧ AreWritable (depth + 1) items
  | .map entries => depth < depthLimit ∧ EntriesWritable (depth + 1) entries
  | .unreadable => False

def AreWritable (depth : Nat) : List Datum → Prop
  | [] => True
  | item :: rest => IsWritable depth item ∧ AreWritable depth rest

def EntriesWritable (depth : Nat) : Entries → Prop
  | [] => True
  | (.text _, value) :: rest => IsWritable depth value ∧ EntriesWritable depth rest
  | _ => False

end

@[simp]
theorem isWritable_text {depth : Nat} {value : String} : IsWritable depth (.text value) := by
  simp only [IsWritable]

@[simp]
theorem isWritable_bool {depth : Nat} {value : Bool} : IsWritable depth (.bool value) := by
  simp only [IsWritable]

@[simp]
theorem isWritable_float {depth : Nat} {value : Float} :
    IsWritable depth (.float value) ↔ IsExact value := by
  simp only [IsWritable]

theorem entriesWritable_append {depth : Nat} {first second : Entries} :
    EntriesWritable depth (first ++ second) ↔
      EntriesWritable depth first ∧ EntriesWritable depth second := by
  induction first with
  | nil => simp [EntriesWritable]
  | cons entry rest ih =>
    obtain ⟨name | index | -, value⟩ := entry <;> simp [EntriesWritable, ih, and_assoc]

@[simp]
theorem isWritable_record {depth : Nat} {parts : List Entries} :
    IsWritable depth (record parts) ↔
      depth < depthLimit ∧ ∀ part ∈ parts, EntriesWritable (depth + 1) part := by
  have all : EntriesWritable (depth + 1) parts.flatten ↔
      ∀ part ∈ parts, EntriesWritable (depth + 1) part := by
    induction parts with
    | nil => simp [EntriesWritable]
    | cons part parts ih => simp [entriesWritable_append, ih]
  simp only [record, IsWritable, all]

@[simp]
theorem entriesWritable_field {depth : Nat} {name : String} {value : Datum} :
    EntriesWritable depth (field name value) ↔ IsWritable depth value := by
  simp [field, EntriesWritable]

@[simp]
theorem entriesWritable_fieldIfSome {α : Type} {depth : Nat} {name : String} {write : α → Datum}
    {value : Option α} :
    EntriesWritable depth (fieldIfSome name write value) ↔
      ∀ known ∈ value, IsWritable depth (write known) := by
  cases value <;> simp [fieldIfSome, EntriesWritable]

theorem EntriesWritable.filter {depth : Nat} {entries : Entries}
    (writable : EntriesWritable depth entries) (keep : Key × Datum → Bool) :
    EntriesWritable depth (entries.filter keep) := by
  induction entries with
  | nil => exact writable
  | cons entry rest ih =>
    obtain ⟨name | index | -, value⟩ := entry
    · cases kept : keep (.text name, value) with
      | true =>
        rw [List.filter_cons_of_pos kept]
        exact ⟨writable.1, ih writable.2⟩
      | false =>
        rw [List.filter_cons_of_neg (by simp [kept])]
        exact ih writable.2
    · exact writable.elim
    · exact writable.elim

/-- Whether a number among the leaves of a datum is read back. -/
def TellsNumber : Datum → Prop
  | .float value => IsExact value
  | _ => True

@[simp]
theorem tellsNumber_float {value : Float} : TellsNumber (.float value) ↔ IsExact value :=
  .rfl

theorem every_tellsNumber {datum : Datum} (exact : ∀ value ∈ datum.floats, IsExact value) :
    datum.Every TellsNumber := by
  intro leaf member
  cases leaf with
  | float value => exact exact value (List.mem_filterMap.2 ⟨_, member, rfl⟩)
  | _ => trivial

theorem scanValue_integerText {value : Int} (low : -(Nat.pow 2 63 : Int) ≤ value)
    (high : value < UInt64.size) (ends : EndsNumber rest) (fuel depth : Nat) :
    scanValue (fuel + 1) depth ((integerText value).toList ++ rest) = some (.int value, rest) := by
  rw [integerText, String.toList_ofList]
  split
  · rename_i negative
    have positive : value.natAbs ≠ 0 := by omega
    have small : value.natAbs ≤ Nat.pow 2 63 := by omega
    rw [List.cons_append, scanValue_minus, ends.scanNumber_append,
      scanNumber_of_neg positive small]
    simp only [Option.map_some, List.nil_append, Option.some.injEq, Prod.mk.injEq,
      Datum.int.injEq, and_true]
    omega
  · have small : value.toNat < significandLimit := by
      rw [significandLimit]
      omega
    have number := ends.scanNumber_append false (naturalDigits value.toNat)
    rw [scanNumber_of_nonneg small] at number
    cases digits : naturalDigits value.toNat with
    | nil => exact absurd digits Nat.toDigits_ne_nil
    | cons c digits =>
      have digit : c.isDigit = true :=
        isDigit_of_mem_naturalDigits (n := value.toNat) (by simp [digits])
      rw [digits, List.cons_append] at number
      rw [List.cons_append, scanValue_digit digit, number]
      simp only [Option.map_some, List.nil_append, Option.some.injEq, Prod.mk.injEq,
        Datum.int.injEq, and_true]
      omega

theorem scanValue_string (s : String) (fuel depth : Nat) :
    scanValue (fuel + 1) depth ((string s).toList ++ rest) = some (.text s, rest) := by
  have quoted : (string s).toList ++ rest =
      '"' :: (s.toList.flatMap stringChar ++ '"' :: rest) := by
    simp [string]
  rw [quoted, scanValue, skipSpace_of_not_isSpace rfl]
  simp [scanString_flatMap]

theorem scanItems_of_close {fuel depth : Nat} {items : List Datum} {after : List Char}
    (closed : skipSpace text = ']' :: after) : scanItems fuel depth text items = none := by
  cases fuel with
  | zero => simp only [scanItems]
  | succ fuel =>
    have nothing : scanValue fuel depth text = none := by
      cases fuel with
      | zero => simp only [scanValue]
      | succ fuel =>
        rw [scanValue, closed]
        rfl
    simp only [scanItems, nothing]

theorem scanValue_bracket (fuel depth : Nat) (text : List Char) :
    scanValue (fuel + 1) depth ('[' :: text) =
      match skipSpace text with
      | ']' :: rest => some (atDepth depth (.list []), rest)
      | rest =>
        (scanItems fuel (depth + 1) rest []).map fun (items, rest) =>
          (atDepth depth (.list items), rest) := by
  rw [scanValue, skipSpace_of_not_isSpace rfl]
  rfl

theorem scanValue_brace (fuel depth : Nat) (text : List Char) :
    scanValue (fuel + 1) depth ('\x7b' :: text) =
      match skipSpace text with
      | '\x7d' :: rest => some (atDepth depth (.map []), rest)
      | rest =>
        (scanEntries fuel (depth + 1) rest []).map fun (entries, rest) =>
          (atDepth depth (mapOf entries), rest) := by
  rw [scanValue, skipSpace_of_not_isSpace rfl]
  rfl

theorem scanValue_list {fuel depth : Nat} {items : List Datum} (shallow : depth < depthLimit)
    (scanned : scanItems fuel (depth + 1) text [] = some (items, rest)) :
    scanValue (fuel + 1) depth ('[' :: text) = some (.list items, rest) := by
  rw [scanValue_bracket]
  split
  · rename_i closed
    rw [scanItems_of_close closed] at scanned
    cases scanned
  · rw [scanItems_skipSpace, scanned]
    simp [atDepth, shallow]

theorem scanEntries_of_close {fuel depth : Nat} {entries : List (Scanned × Datum)}
    {after : List Char} (closed : skipSpace text = '\x7d' :: after) :
    scanEntries fuel depth text entries = none := by
  cases fuel with
  | zero => simp only [scanEntries]
  | succ fuel =>
    rw [scanEntries, closed]
    rfl

/-- What is scanned of the entries of a map that was written. -/
def scannedEntries (entries : Entries) : List (Scanned × Datum) :=
  entries.map fun entry => (some (keyText entry.1).toList, entry.2)

theorem mapOf_scannedEntries {depth : Nat} {entries : Entries}
    (writable : EntriesWritable depth entries) : mapOf (scannedEntries entries) = .map entries := by
  have named : ((scannedEntries entries).map fun entry =>
      (Key.text (String.ofList (entry.1.getD [])), entry.2)) = entries := by
    induction entries with
    | nil => rfl
    | cons entry rest ih =>
      obtain ⟨name | index | -, value⟩ := entry
      · have later := ih writable.2
        simpa [scannedEntries, keyText] using later
      · exact writable.elim
      · exact writable.elim
  rw [mapOf, if_pos (by simp [scannedEntries]), named]

theorem scanValue_map {fuel depth : Nat} {entries : List (Scanned × Datum)}
    (shallow : depth < depthLimit)
    (scanned : scanEntries fuel (depth + 1) text [] = some (entries, rest)) :
    scanValue (fuel + 1) depth ('\x7b' :: text) = some (mapOf entries, rest) := by
  rw [scanValue_brace]
  split
  · rename_i closed
    rw [scanEntries_of_close closed] at scanned
    cases scanned
  · rw [scanEntries_skipSpace, scanned]
    simp [atDepth, shallow]

theorem scanItems_step {fuel depth level : Nat} {item : Datum} {items : List Datum}
    {text : List Char} (scanned : scanValue fuel depth text = some (item, rest)) :
    scanItems (fuel + 1) depth ((newLine level).toList ++ text) items =
      match skipSpace rest with
      | ',' :: rest => scanItems fuel depth rest (item :: items)
      | ']' :: rest => some ((item :: items).reverse, rest)
      | _ => none := by
  rw [scanItems, scanValue_of_skipSpace (skipSpace_newLine level text)]
  exact scanned ▸ rfl

theorem scanEntries_step {fuel depth level : Nat} {name : String} {value : Datum}
    {entries : List (Scanned × Datum)} {text : List Char}
    (scanned : scanValue fuel depth text = some (value, rest)) :
    scanEntries (fuel + 1) depth
        ((newLine level).toList ++ ((string name).toList ++ (": ".toList ++ text))) entries =
      match skipSpace rest with
      | ',' :: rest => scanEntries fuel depth rest ((some name.toList, value) :: entries)
      | '\x7d' :: rest => some (((some name.toList, value) :: entries).reverse, rest)
      | _ => none := by
  have quoted : (string name).toList ++ (": ".toList ++ text) =
      '"' :: (name.toList.flatMap stringChar ++ '"' :: ':' :: ' ' :: text) := by
    simp [string]
  have spaced : scanValue fuel depth (' ' :: text) = some (value, rest) := by
    rw [← scanned]
    exact scanValue_of_skipSpace (by simp [skipSpace, isSpace])
  have colon : skipSpace (':' :: ' ' :: text) = ':' :: ' ' :: text :=
    skipSpace_of_not_isSpace rfl
  rw [scanEntries, skipSpace_newLine, quoted, skipSpace_of_not_isSpace rfl]
  simp only [scanString_flatMap, colon]
  exact spaced ▸ rfl

-- Along the datum. Every level, item and entry takes one unit of fuel and at least one character, so
-- the length of the text is fuel enough.
mutual

theorem scanValue_indented {depth : Nat} (level fuel : Nat) (rest : List Char) :
    {datum : Datum} → IsWritable depth datum → EndsNumber rest →
    (indented level datum).toList.length ≤ fuel →
    scanValue (fuel + 1) depth ((indented level datum).toList ++ rest) = some (datum, rest)
  | .null, _, _, _ => by
    simp [indented, scalar, scanValue, skipSpace, isSpace, scanWord]
  | .bool true, _, _, _ => by
    simp [indented, scalar, scanValue, skipSpace, isSpace, scanWord]
  | .bool false, _, _, _ => by
    simp [indented, scalar, scanValue, skipSpace, isSpace, scanWord]
  | .int value, writable, ends, _ =>
    scanValue_integerText writable.1 writable.2 ends fuel depth
  | .float value, writable, ends, _ => IsExact.scanValue_wire writable ends fuel depth
  | .text value, _, _, _ => scanValue_string value fuel depth
  | .list [], writable, _, _ => by
    have empty : (indented level (.list [])).toList ++ rest = '[' :: ']' :: rest := by
      simp [indented]
    rw [empty, scanValue_bracket, skipSpace_of_not_isSpace rfl]
    simp [atDepth, writable.1]
  | .list (item :: items), writable, _, enough => by
    have whole : (indented level (.list (item :: items))).toList ++ rest =
        '[' :: ((indentedItems (level + 1) (item :: items)).toList ++
          ((newLine level).toList ++ ']' :: rest)) := by
      simp [indented]
    have inner : (indentedItems (level + 1) (item :: items)).toList.length < fuel := by
      simp [indented] at enough
      omega
    obtain ⟨fuel, rfl⟩ : ∃ less, fuel = less + 1 := ⟨fuel - 1, by omega⟩
    rw [whole]
    exact scanValue_list writable.1
      (scanItems_indented (level + 1) level fuel rest [] (List.cons_ne_nil _ _) writable.2
        (by omega))
  | .map [], writable, _, _ => by
    have empty : (indented level (.map [])).toList ++ rest = '\x7b' :: '\x7d' :: rest := by
      simp [indented]
    rw [empty, scanValue_brace, skipSpace_of_not_isSpace rfl]
    simp [atDepth, writable.1]
  | .map (entry :: entries), writable, _, enough => by
    have whole : (indented level (.map (entry :: entries))).toList ++ rest =
        '\x7b' :: ((indentedEntries (level + 1) (entry :: entries)).toList ++
          ((newLine level).toList ++ '\x7d' :: rest)) := by
      simp [indented]
    have inner : (indentedEntries (level + 1) (entry :: entries)).toList.length < fuel := by
      simp [indented] at enough
      omega
    obtain ⟨fuel, rfl⟩ : ∃ less, fuel = less + 1 := ⟨fuel - 1, by omega⟩
    have scanned := scanEntries_indented (level + 1) level fuel rest []
      (List.cons_ne_nil entry entries) writable.2 (by omega)
    rw [whole, scanValue_map writable.1 scanned]
    exact congrArg (fun value => some (value, rest)) (mapOf_scannedEntries writable.2)
  | .unreadable, writable, _, _ => writable.elim

theorem scanItems_indented {depth : Nat} (level outer fuel : Nat) (rest : List Char)
    (before : List Datum) :
    {items : List Datum} → items ≠ [] → AreWritable depth items →
    (indentedItems level items).toList.length ≤ fuel →
    scanItems (fuel + 1) depth
        ((indentedItems level items).toList ++ ((newLine outer).toList ++ ']' :: rest)) before =
      some (before.reverse ++ items, rest)
  | [], filled, _, _ => absurd rfl filled
  | [item], _, writable, enough => by
    have blank : 0 < (newLine level).toList.length := by simp [newLine]
    simp only [indentedItems, String.toList_append, List.length_append] at enough
    obtain ⟨fuel, rfl⟩ : ∃ less, fuel = less + 1 := ⟨fuel - 1, by omega⟩
    have scanned := scanValue_indented level fuel ((newLine outer).toList ++ ']' :: rest)
      writable.1 (endsNumber_newLine outer) (by omega)
    rw [indentedItems, String.toList_append, List.append_assoc, scanItems_step scanned,
      skipSpace_newLine, skipSpace_of_not_isSpace rfl]
    simp
  | item :: next :: items, _, writable, enough => by
    have blank : 0 < (newLine level).toList.length := by simp [newLine]
    have whole : (indentedItems level (item :: next :: items)).toList =
        (newLine level).toList ++ ((indented level item).toList ++
          ',' :: (indentedItems level (next :: items)).toList) := by
      simp [indentedItems]
    rw [whole] at enough ⊢
    simp only [List.length_append, List.length_cons] at enough
    obtain ⟨fuel, rfl⟩ : ∃ less, fuel = less + 1 := ⟨fuel - 1, by omega⟩
    have scanned := scanValue_indented level fuel
      (',' :: ((indentedItems level (next :: items)).toList ++
        ((newLine outer).toList ++ ']' :: rest))) writable.1 endsNumber_comma (by omega)
    have later := scanItems_indented level outer fuel rest (item :: before)
      (List.cons_ne_nil next items) writable.2 (by omega)
    rw [List.append_assoc, List.append_assoc, List.cons_append, scanItems_step scanned,
      skipSpace_of_not_isSpace rfl]
    simpa using later

theorem scanEntries_indented {depth : Nat} (level outer fuel : Nat) (rest : List Char)
    (before : List (Scanned × Datum)) :
    {entries : Entries} → entries ≠ [] → EntriesWritable depth entries →
    (indentedEntries level entries).toList.length ≤ fuel →
    scanEntries (fuel + 1) depth
        ((indentedEntries level entries).toList ++ ((newLine outer).toList ++ '\x7d' :: rest))
        before =
      some (before.reverse ++ scannedEntries entries, rest)
  | [], filled, _, _ => absurd rfl filled
  | [(.text name, value)], _, writable, enough => by
    have blank : 0 < (newLine level).toList.length := by simp [newLine]
    simp only [indentedEntries, keyText, String.toList_append, List.length_append] at enough
    obtain ⟨fuel, rfl⟩ : ∃ less, fuel = less + 1 := ⟨fuel - 1, by omega⟩
    have scanned := scanValue_indented level fuel ((newLine outer).toList ++ '\x7d' :: rest)
      writable.1 (endsNumber_newLine outer) (by omega)
    rw [indentedEntries, keyText, String.toList_append, String.toList_append,
      String.toList_append, List.append_assoc, List.append_assoc, List.append_assoc,
      scanEntries_step scanned, skipSpace_newLine, skipSpace_of_not_isSpace rfl]
    simp [scannedEntries, keyText]
  | (.text name, value) :: next :: entries, _, writable, enough => by
    have blank : 0 < (newLine level).toList.length := by simp [newLine]
    have whole : (indentedEntries level ((.text name, value) :: next :: entries)).toList =
        (newLine level).toList ++ ((string name).toList ++ (": ".toList ++
          ((indented level value).toList ++
            ',' :: (indentedEntries level (next :: entries)).toList))) := by
      simp [indentedEntries, keyText]
    rw [whole] at enough ⊢
    simp only [List.length_append, List.length_cons] at enough
    obtain ⟨fuel, rfl⟩ : ∃ less, fuel = less + 1 := ⟨fuel - 1, by omega⟩
    have scanned := scanValue_indented level fuel
      (',' :: ((indentedEntries level (next :: entries)).toList ++
        ((newLine outer).toList ++ '\x7d' :: rest))) writable.1 endsNumber_comma (by omega)
    have later := scanEntries_indented level outer fuel rest ((some name.toList, value) :: before)
      (List.cons_ne_nil next entries) writable.2 (by omega)
    rw [List.append_assoc, List.append_assoc, List.append_assoc, List.append_assoc,
      List.cons_append, scanEntries_step scanned, skipSpace_of_not_isSpace rfl]
    simpa [scannedEntries, keyText] using later
  | (.position _, _) :: _, _, writable, _ => writable.elim
  | (.other, _) :: _, _, writable, _ => writable.elim

end

/-- The indented text of a datum is read as the datum. -/
theorem read?_pretty {datum : Datum} (writable : IsWritable 0 datum) :
    read? (pretty datum) = some datum := by
  have scanned : scanValue ((pretty datum).toList.length + 1) 0 (pretty datum).toList =
      some (datum, []) := by
    rw [← List.append_nil (pretty datum).toList]
    exact scanValue_indented 0 _ [] writable endsNumber_nil (by simp [pretty])
  simp [read?, scanned, skipSpace]

theorem scanEntries_text (name s : String) (fuel depth : Nat) (rest : List Char) :
    scanEntries (fuel + 2) depth
        ((string name).toList ++ ':' :: ((string s).toList ++ '\x7d' :: rest)) [] =
      some ([(some name.toList, .text s)], rest) := by
  have quoted : (string name).toList ++ ':' :: ((string s).toList ++ '\x7d' :: rest) =
      '"' :: (name.toList.flatMap stringChar ++
        '"' :: ':' :: ((string s).toList ++ '\x7d' :: rest)) := by
    simp [string]
  have colon : skipSpace (':' :: ((string s).toList ++ '\x7d' :: rest)) =
      ':' :: ((string s).toList ++ '\x7d' :: rest) :=
    skipSpace_of_not_isSpace rfl
  have brace : skipSpace ('\x7d' :: rest) = '\x7d' :: rest := skipSpace_of_not_isSpace rfl
  have scanned : scanValue (fuel + 1) depth ((string s).toList ++ '\x7d' :: rest) =
      some (.text s, '\x7d' :: rest) :=
    scanValue_string s fuel depth
  rw [scanEntries, quoted, skipSpace_of_not_isSpace rfl]
  simp only [scanString_flatMap, colon, scanned, brace]
  rfl

/-- A record with one text is read back from its compact text, whatever the text. -/
theorem read?_compact_text (name s : String) :
    read? (compact (record [field name (.text s)])) = some (record [field name (.text s)]) := by
  have whole : (compact (record [field name (.text s)])).toList =
      '\x7b' :: ((string name).toList ++ ':' :: ((string s).toList ++ ['\x7d'])) := by
    simp [record, field, compact, compactEntries, keyText, scalar]
  have enough : 2 ≤ (compact (record [field name (.text s)])).toList.length := by
    simp [whole]
    omega
  obtain ⟨fuel, length⟩ := Nat.exists_eq_add_of_le' enough
  have scanned := scanValue_map (by decide) (scanEntries_text name s fuel 1 [])
  have value : mapOf [(some name.toList, .text s)] = record [field name (.text s)] := by
    simp [mapOf, record, field]
  rw [← whole, ← length, value] at scanned
  simp [read?, scanned, skipSpace]

end Convoy.Json
