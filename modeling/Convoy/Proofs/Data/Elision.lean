import Convoy.Data.Table
import Convoy.Proofs.Data.Writing

/-!
# Fields that are left out

A field that says what its reader takes for an absent one need not be written. What a record says
of its other fields stays.
-/
namespace Convoy.Data

open Decode

variable {α : Type} {read : Reader α} {write : α → Datum} {names gone : List String}
  {name other : String} {part : Entries} {parts : List Entries}

/-- Whether an entry is one of those that are to go. -/
def isGone (gone : List String) : Key × Datum → Bool
  | (.text name, _) => gone.contains name
  | _ => false

/-- A map without the entries of some names. -/
def Datum.without (gone : List String) : Datum → Datum
  | .map entries => .map (entries.filter fun entry => !isGone gone entry)
  | datum => datum

/-- A map in which what stands under a name is changed. -/
def Datum.rewritten (name : String) (change : Datum → Datum) : Datum → Datum
  | .map entries =>
    .map (entries.map fun entry =>
      if entry.1 = .text name then (entry.1, change entry.2) else entry)
  | datum => datum

def cutPart (gone : List String) (part : Entries) : Entries :=
  part.filter fun entry => !isGone gone entry

theorem without_nil (datum : Datum) : datum.without [] = datum := by
  cases datum with
  | map entries =>
    refine congrArg Datum.map (List.filter_eq_self.2 fun entry _ => ?_)
    obtain ⟨name | index | -, value⟩ := entry <;> rfl
  | _ => rfl

theorem without_record : (record parts).without gone = record (parts.map (cutPart gone)) := by
  simp only [record, Datum.without, List.filter_flatten]
  rfl

theorem IsPart.cut (single : IsPart name part) : IsPart name (cutPart gone part) := by
  obtain rfl | ⟨value, rfl⟩ := single
  · exact .inl rfl
  · by_cases listed : gone.contains name
    · exact .inl (by simp [cutPart, isGone, List.contains_iff_mem.1 listed])
    · exact .inr ⟨value, by simpa [cutPart, isGone] using listed⟩

theorem Laid.cut (laid : Laid names parts) : Laid names (parts.map (cutPart gone)) :=
  List.forall₂_map_right_iff.2 (laid.imp fun _ _ => IsPart.cut)

theorem namedFields_cutPart :
    namedFields (cutPart gone part) =
      (namedFields part).filter fun entry => !gone.contains entry.1 := by
  induction part with
  | nil => rfl
  | cons entry rest ih =>
    obtain ⟨key, value⟩ := entry
    have later : namedFields (rest.filter fun entry => !isGone gone entry) =
        (namedFields rest).filter fun entry => !gone.contains entry.1 := ih
    cases key with
    | text name =>
      by_cases listed : gone.contains name <;>
        simp_all [cutPart, isGone, namedFields_text]
    | position index => simpa [cutPart, isGone, namedFields] using later
    | other => simpa [cutPart, isGone, namedFields] using later

theorem lookup_filter_not_mem (fields : List (String × Datum)) :
    (fields.filter fun entry => !gone.contains entry.1).lookup name =
      if name ∈ gone then none else fields.lookup name := by
  induction fields with
  | nil => exact (ite_self _).symm
  | cons entry rest ih =>
    obtain ⟨known, value⟩ := entry
    by_cases listed : known ∈ gone
    · have gap : name ∉ gone → name ≠ known := fun kept same => kept (same ▸ listed)
      rw [List.filter_cons_of_neg (by simpa using listed), ih, lookup_head]
      by_cases kept : name ∈ gone
      · rw [if_pos kept, if_pos kept]
      · rw [if_neg kept, if_neg kept, if_neg (gap kept)]
    · rw [List.filter_cons_of_pos (by simpa using listed), lookup_head, lookup_head, ih]
      by_cases same : name = known
      · subst same
        rw [if_pos rfl, if_neg listed, if_pos rfl]
      · rw [if_neg same, if_neg same]

/-- What parts say without some of their names. -/
@[simp]
theorem lookup_cutPart :
    (namedFields (cutPart gone part)).lookup name =
      if name ∈ gone then none else (namedFields part).lookup name := by
  rw [namedFields_cutPart, lookup_filter_not_mem]

def rewritePart (name : String) (change : Datum → Datum) (part : Entries) : Entries :=
  part.map fun entry => if entry.1 = .text name then (entry.1, change entry.2) else entry

variable {change : Datum → Datum} {option : Option α} {value : Datum}

theorem rewritten_record :
    (record parts).rewritten name change = record (parts.map (rewritePart name change)) := by
  simp only [record, Datum.rewritten, List.map_flatten]
  rfl

@[simp]
theorem rewritePart_field :
    rewritePart name change (field other value) =
      field other (if other = name then change value else value) := by
  by_cases same : other = name <;> simp [rewritePart, field, same]

@[simp]
theorem rewritePart_fieldIfSome :
    rewritePart name change (fieldIfSome other write option) =
      fieldIfSome other (fun known => if other = name then change (write known) else write known)
        option := by
  cases option with
  | none => rfl
  | some known => exact rewritePart_field

/-- A field may be left out where it is read as an absent one. -/
theorem readIfGiven_unless {standard : α} {datum : Datum}
    (spared : name ∈ gone → read datum = pure standard) :
    readIfGiven read (pure standard) (if name ∈ gone then none else some datum) = read datum := by
  split
  · exact (spared ‹_›).symm
  · rfl

theorem readIfGiven_unless_eq {standard known : α} {datum : Datum}
    (again : read datum = pure known) (spared : name ∈ gone → known = standard) :
    readIfGiven read (pure standard) (if name ∈ gone then none else some datum) = pure known := by
  rw [readIfGiven_unless fun listed => again.trans (congrArg pure (spared listed)), again]

/-- An optional value is read back where every value is, and none is written as a null. -/
theorem readIfSome_map {value : Option α} (again : ∀ known, read (write known) = pure known)
    (solid : ∀ known, write known ≠ .null) : readIfSome read (value.map write) = pure value := by
  cases value with
  | none => rfl
  | some known =>
    rw [Option.map_some, readIfSome_of_ne_null (solid known), again]
    rfl

theorem readIfSome_unless {value : Option α} (again : ∀ known, read (write known) = pure known)
    (solid : ∀ known, write known ≠ .null) (spared : name ∈ gone → value = none) :
    readIfSome read (if name ∈ gone then none else value.map write) = pure value := by
  split
  · rw [spared ‹_›]
    rfl
  · exact readIfSome_map again solid

/-- What a written record says of a field. -/
theorem field?_record (laid : Laid names parts) (distinct : names.Nodup) (known : name ∈ names) :
    (record parts).field? names name = (Record.ofParts parts).fields.lookup name :=
  (Record.lookup_ofDatum known (ofDatum_record laid distinct)).symm

end Convoy.Data
