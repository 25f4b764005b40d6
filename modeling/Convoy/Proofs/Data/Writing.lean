import Convoy.Proofs.Data.Survival

/-!
# Records that are written

A record is written part by part, each part being one field or nothing. What is read for a field is
what the part of its name gives, so a record reads back where its parts are laid in the order of the
names that its reader knows.
-/
namespace Convoy.Data

open Decode

variable {α : Type} {admits : Float → Prop} {read : Reader α} {write : α → Datum}

/-- The fields that entries give by name. -/
def namedFields (entries : Entries) : List (String × Datum) :=
  entries.filterMap fun
    | (.text name, value) => some (name, value)
    | _ => none

/-- A list as it is written where it has items. -/
def listIfAny (write : α → Datum) : List α → Option Datum
  | [] => none
  | items => some (listOf write items)

/-- A part that is at most the field of a name. -/
def IsPart (name : String) (part : Entries) : Prop :=
  part = [] ∨ ∃ value, part = [(.text name, value)]

variable {name other : String} {value : Datum} {option : Option α} {items : List α}

@[simp]
theorem isPart_field : IsPart name (field name value) :=
  .inr ⟨value, rfl⟩

@[simp]
theorem isPart_fieldIfSome : IsPart name (fieldIfSome name write option) := by
  cases option with
  | none => exact .inl rfl
  | some known => exact .inr ⟨_, rfl⟩

@[simp]
theorem isPart_fieldUnlessEmpty : IsPart name (fieldUnlessEmpty name write items) := by
  cases items with
  | nil => exact .inl rfl
  | cons item rest => exact .inr ⟨_, rfl⟩

theorem namedFields_append (first second : Entries) :
    namedFields (first ++ second) = namedFields first ++ namedFields second :=
  List.filterMap_append ..

theorem namedFields_text (rest : Entries) :
    namedFields ((.text name, value) :: rest) = (name, value) :: namedFields rest :=
  rfl

/-- The record that is read where these parts were written. -/
def Record.ofParts (parts : List Entries) : Record where
  fields := namedFields parts.flatten

@[simp]
theorem lookup_nil : (Record.ofParts []).fields.lookup name = none :=
  rfl

@[simp]
theorem lookup_cons {part : Entries} {parts : List Entries} :
    (Record.ofParts (part :: parts)).fields.lookup name =
      ((namedFields part).lookup name).or ((Record.ofParts parts).fields.lookup name) := by
  rw [Record.ofParts, List.flatten_cons, namedFields_append, List.lookup_append]
  rfl

@[simp]
theorem lookup_field :
    (namedFields (field other value)).lookup name = if name = other then some value else none := by
  rw [field, namedFields_text, List.lookup_cons]
  split <;> simp_all [namedFields]

@[simp]
theorem lookup_fieldIfSome :
    (namedFields (fieldIfSome other write option)).lookup name =
      if name = other then option.map write else none := by
  cases option with
  | none => exact (ite_self _).symm
  | some known => exact lookup_field

@[simp]
theorem lookup_fieldUnlessEmpty :
    (namedFields (fieldUnlessEmpty other write items)).lookup name =
      if name = other then listIfAny write items else none := by
  cases items with
  | nil => exact (ite_self _).symm
  | cons item rest => exact lookup_field

@[simp]
theorem required_ofParts {parts : List Entries} :
    (Record.ofParts parts).required name read =
      readIfGiven read (throw (.missing name)) ((Record.ofParts parts).fields.lookup name) := by
  unfold Record.required readIfGiven
  cases (Record.ofParts parts).fields.lookup name <;> rfl

@[simp]
theorem optional_ofParts {parts : List Entries} :
    (Record.ofParts parts).optional name read =
      readIfSome read ((Record.ofParts parts).fields.lookup name) :=
  (rfl)

@[simp]
theorem defaulted_ofParts {parts : List Entries} {value : Decode α} :
    (Record.ofParts parts).defaulted name read value =
      readIfGiven read value ((Record.ofParts parts).fields.lookup name) :=
  (rfl)

@[simp]
theorem readIfGiven_listIfAny
    (again : readList read (listOf write items) = pure items) :
    readIfGiven (readList read) (pure []) (listIfAny write items) = pure items := by
  cases items with
  | nil => rfl
  | cons item rest => exact again

/-- Parts for the fields of a record, in the order of their names. -/
abbrev Laid (names : List String) (parts : List Entries) : Prop :=
  List.Forall₂ IsPart names parts

theorem lookup_of_laid {names : List String} {parts : List Entries} (laid : Laid names parts)
    (absent : name ∉ names) : (Record.ofParts parts).fields.lookup name = none := by
  induction laid with
  | nil => rfl
  | @cons first part names parts single _ ih =>
    have later := ih (List.not_mem_of_not_mem_cons absent)
    obtain rfl | ⟨value, rfl⟩ := single
    · exact later
    · rw [lookup_cons, later, Option.or_none]
      exact lookup_field.trans (if_neg (List.ne_of_not_mem_cons absent))

theorem ofEntries_of_laid {names listed : List String} {parts : List Entries}
    (laid : Laid listed parts) (known : listed ⊆ names) (distinct : listed.Nodup) :
    Record.ofEntries names parts.flatten = .ok (Record.ofParts parts).fields := by
  induction laid with
  | nil => rfl
  | @cons first part listed parts single laid ih =>
    obtain ⟨known, rest⟩ := List.cons_subset.1 known
    obtain ⟨new, distinct⟩ := List.nodup_cons.1 distinct
    have later := ih rest distinct
    obtain rfl | ⟨value, rfl⟩ := single
    · exact later
    · have single := lookup_of_laid laid new
      change Record.ofEntries names ((.text first, value) :: parts.flatten) =
        .ok ((first, value) :: (Record.ofParts parts).fields)
      simp [Record.ofEntries, later, Key.field?, known, single, bind, pure, Except.bind,
        Except.pure]

theorem ofDatum_record {names : List String} {parts : List Entries} (laid : Laid names parts)
    (distinct : names.Nodup) : Record.ofDatum names (record parts) = .ok (.ofParts parts) := by
  simp [Record.ofDatum, record, ofEntries_of_laid laid (List.Subset.refl _) distinct, bind, pure,
    Except.bind, Except.pure]

theorem readRecord_record {names : List String} {body : Record → Decode α} {parts : List Entries}
    (laid : Laid names parts) (distinct : names.Nodup) :
    readRecord names body (record parts) = body (.ofParts parts) := by
  rw [readRecord, ofDatum_record laid distinct]
  rfl

/-- Something holds of every leaf of what entries give. -/
def EveryPart (holds : Datum → Prop) (part : Entries) : Prop :=
  ∀ entry ∈ part, entry.2.Every holds

section EveryPart

variable {holds : Datum → Prop}

@[simp]
theorem every_record {parts : List Entries} :
    (record parts).Every holds ↔ ∀ part ∈ parts, EveryPart holds part := by
  simp only [record, Datum.every_map, List.mem_flatten, EveryPart]
  constructor
  · intro all part member entry found
    exact all entry ⟨part, member, found⟩
  · rintro all entry ⟨part, member, found⟩
    exact all part member entry found

@[simp]
theorem everyPart_field : EveryPart holds (field name value) ↔ value.Every holds := by
  simp [EveryPart, field]

@[simp]
theorem everyPart_fieldIfSome :
    EveryPart holds (fieldIfSome name write option) ↔ EveryIfSome holds (option.map write) := by
  cases option <;> simp [EveryPart, EveryIfSome, fieldIfSome]

@[simp]
theorem everyPart_fieldUnlessEmpty :
    EveryPart holds (fieldUnlessEmpty name write items) ↔ (listOf write items).Every holds := by
  cases items <;> simp [EveryPart, fieldUnlessEmpty, listOf]

end EveryPart

/-- A value that is written as a record lasts where its fields survive. -/
theorem lasts_record {names : List String} {body : Record → Decode α} {write : α → Datum}
    {value : α} {parts : List Entries} (written : write value = record parts)
    (laid : Laid names parts) (distinct : names.Nodup)
    (again : body (.ofParts parts) = pure value)
    (fits : ∀ part ∈ parts, EveryPart (Datum.Fits admits) part) :
    Lasts admits (readRecord names body) write value := by
  rw [Lasts, Survives, written, readRecord_record laid distinct]
  exact ⟨⟨again, every_record.2 fits⟩, nofun⟩

/-- A reader of records saves what its writer writes where every value that is read from fields that
may be read survives. -/
theorem saves_record {names : List String} {body : Record → Decode α} {write : α → Datum}
    (each : ∀ fields : Record, fields.Source admits →
      (body fields).Ensures (Lasts admits (readRecord names body) write)) :
    Saves admits (readRecord names body) write :=
  saves_of_lasts fun _ source => ensures_record source each

theorem ensures_readTagged {datum : Datum} (source : datum.Source admits) :
    (readTagged datum).Ensures fun found => found.2.Source admits := by
  unfold readTagged
  split
  · have all := Datum.every_map.1 source
    dsimp only
    split
    · split
      · refine ensures_bind ensures_anything fun tag _ => ensures_pure (Datum.every_map.2 ?_)
        exact fun entry member => all entry (List.mem_filter.1 member).1
      · exact ensures_throw
    · exact ensures_throw
    · exact ensures_throw
  · have all := Datum.every_list.1 source
    split
    · refine ensures_bind ensures_anything fun tag _ => ensures_pure (Datum.every_list.2 ?_)
      exact fun item member => all item (List.mem_cons_of_mem _ member)
    · exact ensures_throw
  · exact ensures_throw

theorem ensures_payload {wanted : α → Prop} {datum : Datum} (source : datum.Source admits)
    (reads : ∀ inner, inner.Source admits → (read inner).Ensures wanted) :
    (readPayload name read datum).Ensures wanted :=
  ensures_record source fun _ source => Record.ensures_required_of source reads

theorem readTagged_record {tag : String} {payload : Entries}
    (untagged : ∀ entry ∈ payload, isTagKey entry = false)
    (readable : (record [payload]).isReadable = true) :
    readTagged (record [field "type" (.text tag), payload]) =
      pure (.name tag, record [payload]) := by
  have tagged : ((Key.text "type", Datum.text tag) :: payload).filter isTagKey =
      [(.text "type", .text tag)] := by
    rw [List.filter_cons_of_pos rfl, List.filter_eq_nil_iff.2]
    exact fun entry member => by simp [untagged entry member]
  have others : (((Key.text "type", Datum.text tag) :: payload).filter
      fun entry => !isTagKey entry) = payload := by
    rw [List.filter_cons_of_neg (by simp [isTagKey]), List.filter_eq_self]
    exact fun entry member => by simp [untagged entry member]
  have alone : record [payload] = .map payload := congrArg Datum.map (List.append_nil payload)
  rw [alone] at readable ⊢
  change readTagged (.map ((.text "type", .text tag) :: (payload ++ []))) = _
  rw [List.append_nil, readTagged]
  have kept : Datum.entriesReadable payload = true := readable
  simp only [tagged, others, kept, if_true]
  rfl

theorem held_eq_pure {datum : Datum} {known : α} (again : read datum = pure known) :
    held read datum = pure known := by
  unfold held
  rw [again]
  rfl

theorem readPayload_eq {inner : Datum} :
    readPayload name read (record [field name inner]) = read inner :=
  (readRecord_record (by simp) (by simp)).trans (by simp)

/-- A value that is written under its tag lasts where what reads the rest gives it back. -/
theorem lasts_tagged {write : α → Datum} {known : α} {tag : String} {payload : Entries}
    (rest : Reader α) (written : write known = record [field "type" (.text tag), payload])
    (untagged : ∀ entry ∈ payload, isTagKey entry = false)
    (branch : ∀ datum payload, readTagged datum = pure (.name tag, payload) →
      read datum = rest payload)
    (again : rest (record [payload]) = pure known)
    (fits : EveryPart (Datum.Fits admits) payload) :
    Lasts admits read write known := by
  have readable : (record [payload]).isReadable = true :=
    Datum.Copy.isReadable (every_record.2 (by simpa using fits))
  rw [Lasts, Survives, written]
  refine ⟨⟨?_, ?_⟩, nofun⟩
  · rw [branch _ _ (readTagged_record untagged readable), again]
  · exact every_record.2 (by simpa using fits)

/-- A value that is written as a record under its tag lasts where the fields of the record survive.
What reads the rest may hold it whole. -/
theorem lasts_payload {write : α → Datum} {known : α} {tag : String} {names : List String}
    {body : Record → Decode α} {parts : List Entries} (inner rest : Reader α)
    (same : inner = readRecord names body)
    (carries : ∀ {datum value}, readPayload name inner datum = pure value →
      rest datum = pure value)
    (written : write known = record [field "type" (.text tag), field name (record parts)])
    (untagged : name ≠ "type")
    (branch : ∀ datum payload, readTagged datum = pure (.name tag, payload) →
      read datum = rest payload)
    (laid : Laid names parts) (distinct : names.Nodup) (again : body (.ofParts parts) = pure known)
    (fits : ∀ part ∈ parts, EveryPart (Datum.Fits admits) part) :
    Lasts admits read write known := by
  refine lasts_tagged rest written ?_ branch (carries ?_) ?_
  · simp [field, isTagKey, untagged]
  · rw [readPayload_eq, same, readRecord_record laid distinct, again]
  · exact everyPart_field.2 (every_record.2 fits)

end Convoy.Data
