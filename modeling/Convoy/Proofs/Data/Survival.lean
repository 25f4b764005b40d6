import Convoy.Proofs.Data.Decode
import Convoy.Proofs.Data.FreeForm

/-!
# Values that survive the wire

A value survives when what is written of it reads back as that value, whatever the reading and
without minting anything. A reader and a writer belong together when every value that is read
survives; this is proved once for each way of putting readers together.
-/
namespace Convoy.Data

variable {α β : Type}

namespace Decode

variable {wanted : α → Prop}

/-- Every value that a decoding gives is as wanted. -/
def Ensures (wanted : α → Prop) (decoding : Decode α) : Prop :=
  ∀ ⦃reading mint value after⦄, decoding reading mint = .ok (value, after) → wanted value

theorem ensures_pure {value : α} (holds : wanted value) : Ensures wanted (pure value) :=
  fun _ _ _ _ done => (pure_eq_ok.1 done).1 ▸ holds

theorem ensures_throw {cause : DecodeError} : Ensures wanted (throw cause) :=
  fun _ _ _ _ done => absurd done throw_ne_ok

theorem ensures_bind {first : Decode α} {next : α → Decode β} {final : β → Prop}
    (start : Ensures wanted first) (rest : ∀ value, wanted value → Ensures final (next value)) :
    Ensures final (first >>= next) := fun _ _ _ _ done => by
  obtain ⟨part, middle, early, late⟩ := bind_eq_ok.1 done
  exact rest part (start early) late

theorem ensures_lift {result : Except DecodeError α}
    (holds : ∀ value, result = .ok value → wanted value) : Ensures wanted (liftM result) :=
  fun _ _ _ _ done => holds _ (lift_eq_ok.1 done).1

theorem Ensures.imp {decoding : Decode α} {final : α → Prop} (ensured : Ensures wanted decoding)
    (rest : ∀ value, wanted value → final value) : Ensures final decoding :=
  fun _ _ value _ done => rest value (ensured done)

theorem ensures_anything {decoding : Decode α} : Ensures (fun _ => True) decoding :=
  fun _ _ _ _ _ => trivial

theorem ensures_held {read : Reader α} {datum : Datum} (reads : Ensures wanted (read datum)) :
    Ensures wanted (held read datum) :=
  fun _ _ _ _ done => reads done

end Decode

open Decode

/-- What is written of a value reads back as the value, and holds no floats but admitted ones. -/
abbrev Survives (admits : Float → Prop) (read : Reader α) (write : α → Datum) (value : α) : Prop :=
  read (write value) = pure value ∧ (write value).Copy admits

/-- Every value that is read survives, and only a null is ever written back as one. -/
def Saves (admits : Float → Prop) (read : Reader α) (write : α → Datum) : Prop :=
  ∀ datum, datum.Source admits → (read datum).Ensures fun value =>
    Survives admits read write value ∧ (datum ≠ .null → write value ≠ .null)

/-- A value survives, and is not written as a null. -/
abbrev Lasts (admits : Float → Prop) (read : Reader α) (write : α → Datum) (value : α) : Prop :=
  Survives admits read write value ∧ write value ≠ .null

variable {admits : Float → Prop} {read : Reader α} {write : α → Datum}

theorem saves_of_lasts (each : ∀ datum : Datum, datum.Source admits →
    (read datum).Ensures (Lasts admits read write)) : Saves admits read write :=
  fun _ source _ _ _ _ done => (each _ source done).imp_right fun present _ => present

theorem Saves.survives (saves : Saves admits read write) {datum : Datum}
    (source : datum.Source admits) : (read datum).Ensures (Survives admits read write) :=
  fun _ _ _ _ done => (saves datum source done).1

@[simp]
theorem readText_text (text : String) : readText (.text text) = pure text := rfl

@[simp]
theorem readBool_bool (flag : Bool) : readBool (.bool flag) = pure flag := rfl

@[simp]
theorem readFloat_float (value : Float) : readFloat (.float value) = pure value := rfl

@[simp]
theorem readUInt32_int (value : UInt32) : readUInt32 (.int value.toNat) = pure value := by
  rw [readUInt32, if_pos ⟨Int.natCast_nonneg _, Int.ofNat_lt.2 value.toNat_lt⟩,
    Int.toNat_natCast, UInt32.ofNat_toNat]

@[simp]
theorem readUInt64_int (value : UInt64) : readUInt64 (.int value.toNat) = pure value := by
  rw [readUInt64, if_pos ⟨Int.natCast_nonneg _, Int.ofNat_lt.2 value.toNat_lt⟩,
    Int.toNat_natCast, UInt64.ofNat_toNat]

@[simp]
theorem readInt32_int (value : Int32) : readInt32 (.int value.toInt) = pure value := by
  rw [readInt32, if_pos ⟨value.minValue_le_toInt, value.toInt_le⟩, Int32.ofInt_toInt]

/-- A reader and a writer under which every value survives, read or not. -/
def SavesAll (admits : Float → Prop) (read : Reader α) (write : α → Datum) : Prop :=
  ∀ value, Lasts admits read write value

theorem SavesAll.saves (all : SavesAll admits read write) : Saves admits read write :=
  fun _ _ _ _ value _ _ => (all value).imp_right fun present _ => present

theorem SavesAll.ensures (all : SavesAll admits read write) {decoding : Decode α} :
    decoding.Ensures (Survives admits read write) :=
  fun _ _ value _ _ => (all value).1

theorem savesAll_text : SavesAll admits readText .text :=
  fun value => by simp [Lasts, Survives]

theorem savesAll_bool : SavesAll admits readBool .bool :=
  fun value => by simp [Lasts, Survives]

theorem savesAll_uint32 : SavesAll admits readUInt32 fun value => .int value.toNat :=
  fun value => by simp [Lasts, Survives]

theorem savesAll_uint64 : SavesAll admits readUInt64 fun value => .int value.toNat :=
  fun value => by simp [Lasts, Survives]

theorem savesAll_int32 : SavesAll admits readInt32 fun value => .int value.toInt :=
  fun value => by simp [Lasts, Survives]

theorem savesAll_name {named : List (String × α)} {name : α → String}
    (listed : ∀ value, named.lookup (name value) = some value) :
    SavesAll admits (readName named) fun value => .text (name value) :=
  fun value => by simp [Lasts, Survives, readName, listed]

theorem saves_float : Saves admits readFloat .float := by
  intro datum source
  cases datum with
  | float value =>
    have admitted := (Datum.every_float.1 source).2
    exact ensures_pure (by simp [Survives, admitted])
  | int value =>
    have admitted := Datum.every_int.1 source
    exact ensures_pure (by simpa [Survives, Datum.Supplies] using admitted)
  | _ => exact ensures_throw

theorem saves_freeForm : Saves admits readFreeForm id := by
  intro datum source
  unfold readFreeForm
  split
  · rename_i copy found
    have settled := Datum.settled_of_freeForm source found
    exact ensures_pure ⟨⟨by simp [settled.same], settled.fits⟩,
      fun present => Datum.freeForm_ne_null source present found⟩
  · exact ensures_throw

theorem saves_list (saves : Saves admits read write) :
    Saves admits (readList read) (listOf write) := by
  intro datum source
  cases datum with
  | list items =>
    have each := Datum.every_list.1 source
    suffices all : (items.mapM read).Ensures (Survives admits (readList read) (listOf write)) from
      fun _ _ _ _ done => ⟨all done, nofun⟩
    clear source
    induction items with
    | nil =>
      rw [List.mapM_nil]
      exact ensures_pure ⟨rfl, by simp [listOf]⟩
    | cons item rest ih =>
      rw [List.mapM_cons]
      obtain ⟨first, later⟩ := List.forall_mem_cons.1 each
      refine ensures_bind (saves.survives first) fun value found => ?_
      refine ensures_bind (ih later) fun values known => ensures_pure ⟨?_, ?_⟩
      · have rest : (values.map write).mapM read = pure values := known.1
        simp [listOf, readList, found.1, rest]
      · simpa [listOf, found.2] using known.2
  | _ => exact ensures_throw

/-- Reads what a record gives for a field that may be absent. -/
def readIfSome (read : Reader α) : Option Datum → Decode (Option α)
  | none | some .null => pure none
  | some datum => return some (← read datum)

/-- Reads what a record gives for a field with a value of its own. -/
def readIfGiven (read : Reader α) (value : Decode α) : Option Datum → Decode α
  | none => value
  | some datum => read datum

-- Not a definitional rewrite: the check of one would compute the reading of `datum`.
@[simp]
theorem readIfGiven_some {value : Decode α} {datum : Datum} :
    readIfGiven read value (some datum) = read datum :=
  (rfl)

theorem readIfSome_of_ne_null {datum : Datum} (present : datum ≠ .null) :
    readIfSome read (some datum) = some <$> read datum := by
  cases datum with
  | null => exact absurd rfl present
  | _ => rfl

/-- Something holds of every leaf of a datum, if there is one. -/
def EveryIfSome (holds : Datum → Prop) (datum : Option Datum) : Prop :=
  ∀ known ∈ datum, known.Every holds

/-- What is written of an optional value reads back as it, and holds no floats but admitted ones. -/
abbrev Keeps (admits : Float → Prop) (read : Reader α) (write : α → Datum) (value : Option α) :
    Prop :=
  readIfSome read (value.map write) = pure value ∧
    EveryIfSome (Datum.Fits admits) (value.map write)

theorem SavesAll.keeps (all : SavesAll admits read write) (value : Option α) :
    Keeps admits read write value := by
  cases value with
  | none => exact ⟨rfl, nofun⟩
  | some known =>
    have lasts := all known
    refine ⟨?_, ?_⟩
    · simp [readIfSome_of_ne_null lasts.2, lasts.1.1]
    · rintro _ ⟨⟩
      exact lasts.1.2

namespace Record

variable {fields : Record} {name : String}

/-- A record of data that may be read. -/
def Source (admits : Float → Prop) (fields : Record) : Prop :=
  ∀ entry ∈ fields.fields, entry.2.Source admits

theorem Source.of_lookup (source : fields.Source admits) {datum : Datum}
    (found : fields.fields.lookup name = some datum) : datum.Source admits := by
  obtain ⟨before, after, split, -⟩ := List.lookup_eq_some_iff.1 found
  exact source (name, datum) (by simp [split])

theorem ensures_required_of {wanted : α → Prop} (source : fields.Source admits)
    (reads : ∀ datum, datum.Source admits → (read datum).Ensures wanted) :
    (fields.required name read).Ensures wanted := by
  unfold required
  split
  · exact reads _ (source.of_lookup ‹_›)
  · exact ensures_throw

theorem ensures_required (source : fields.Source admits) (saves : Saves admits read write) :
    (fields.required name read).Ensures (Survives admits read write) :=
  ensures_required_of source fun _ => saves.survives

theorem ensures_optional (source : fields.Source admits) (saves : Saves admits read write) :
    (fields.optional name read).Ensures (Keeps admits read write) := by
  unfold optional
  split
  · exact ensures_pure ⟨rfl, nofun⟩
  · exact ensures_pure ⟨rfl, nofun⟩
  · rename_i datum present found
    refine ensures_bind (saves _ (source.of_lookup found)) fun value known => ensures_pure ⟨?_, ?_⟩
    · have solid : write value ≠ .null := known.2 present
      simp [readIfSome_of_ne_null solid, known.1.1]
    · rintro _ ⟨⟩
      exact known.1.2

theorem ensures_defaulted {value : Decode α} (source : fields.Source admits)
    (saves : Saves admits read write) (absent : value.Ensures (Survives admits read write)) :
    (fields.defaulted name read value).Ensures (Survives admits read write) := by
  unfold defaulted
  split
  · exact absent
  · exact saves.survives (source.of_lookup ‹_›)

theorem ensures_preset {value : Decode α} (source : fields.Source admits)
    (all : SavesAll admits read write) :
    (fields.defaulted name read value).Ensures (Survives admits read write) :=
  ensures_defaulted source all.saves all.ensures

theorem ensures_list (source : fields.Source admits) (saves : Saves admits read write) :
    (fields.defaulted name (readList read) (pure [])).Ensures
      (Survives admits (readList read) (listOf write)) :=
  ensures_defaulted source (saves_list saves) (ensures_pure ⟨rfl, by simp [listOf]⟩)

theorem source_ofEntries {names : List String} {entries : Entries} {found : List (String × Datum)}
    (source : ∀ entry ∈ entries, entry.2.Source admits)
    (done : Record.ofEntries names entries = .ok found) :
    ∀ entry ∈ found, entry.2.Source admits := by
  induction entries generalizing found with
  | nil =>
    cases done
    exact fun _ member => absurd member List.not_mem_nil
  | cons entry rest ih =>
    obtain ⟨key, value⟩ := entry
    obtain ⟨first, source⟩ := List.forall_mem_cons.1 source
    cases earlier : Record.ofEntries names rest with
    | error cause => simp [Record.ofEntries, earlier, bind, Except.bind] at done
    | ok later =>
      have known := ih source earlier
      cases chosen : key.field? names with
      | error cause => simp [Record.ofEntries, earlier, chosen, bind, Except.bind] at done
      | ok field =>
        simp only [Record.ofEntries, earlier, chosen, bind, Except.bind] at done
        cases field with
        | none =>
          cases done
          exact known
        | some name =>
          dsimp only at done
          split at done
          · cases done
          · cases done
            exact List.forall_mem_cons.2 ⟨first, known⟩

theorem source_ofDatum {names : List String} {datum : Datum} (source : datum.Source admits)
    (done : Record.ofDatum names datum = .ok fields) : fields.Source admits := by
  cases datum with
  | map entries =>
    cases found : Record.ofEntries names entries with
    | error cause => simp [Record.ofDatum, found, bind, Except.bind] at done
    | ok known =>
      simp only [Record.ofDatum, found, bind, Except.bind, pure, Except.pure,
        Except.ok.injEq] at done
      subst done
      exact source_ofEntries (Datum.every_map.1 source) found
  | list items =>
    simp only [Record.ofDatum] at done
    split at done
    · cases done
      exact fun entry member => Datum.every_list.1 source _ (List.of_mem_zip member).2
    · cases done
  | _ => cases done

end Record

/-- A record that is read field by field, from fields that may be read. -/
theorem ensures_record {names : List String} {body : Record → Decode α} {wanted : α → Prop}
    {datum : Datum} (source : datum.Source admits)
    (each : ∀ fields : Record, fields.Source admits → (body fields).Ensures wanted) :
    (readRecord names body datum).Ensures wanted :=
  ensures_bind (ensures_lift fun _ done => Record.source_ofDatum source done) each

end Convoy.Data
