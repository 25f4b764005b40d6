import Convoy.Data.Decode
import Mathlib.Data.List.Forall2

/-!
# Readers

What is known of a value that was read, and of whether a datum can be read at all. A reader may mint
identities on its way, but where the minting starts decides nothing but these identities.
-/
namespace Convoy.Data

variable {α β : Type}

namespace Decode

variable {reading : Reading} {mint after : Mint}

theorem bind_eq_ok {first : Decode α} {next : α → Decode β} {value : β} :
    (first >>= next) reading mint = .ok (value, after) ↔
      ∃ part middle, first reading mint = .ok (part, middle) ∧
        next part reading middle = .ok (value, after) := by
  change ((first reading mint).bind fun result => next result.1 reading result.2) = _ ↔ _
  cases first reading mint with
  | error cause => simp [Except.bind]
  | ok result =>
    constructor
    · exact fun rest => ⟨result.1, result.2, rfl, rest⟩
    · rintro ⟨part, middle, ⟨⟩, rest⟩
      exact rest

theorem pure_eq_ok {part value : α} :
    (pure part : Decode α) reading mint = .ok (value, after) ↔ part = value ∧ mint = after := by
  change (Except.ok (part, mint) : Except DecodeError (α × Mint)) = _ ↔ _
  simp

theorem lift_eq_ok {result : Except DecodeError α} {value : α} :
    (liftM result : Decode α) reading mint = .ok (value, after) ↔
      result = .ok value ∧ mint = after := by
  cases result with
  | error cause => exact ⟨nofun, nofun⟩
  | ok known =>
    change (Except.ok (known, mint) : Except DecodeError (α × Mint)) = _ ↔ _
    simp

theorem throw_ne_ok {cause : DecodeError} {result : α × Mint} :
    (throw cause : Decode α) reading mint ≠ .ok result :=
  nofun

theorem tryCatch_of_ok {first : Decode α} {handler : DecodeError → Decode α} {result : α × Mint}
    (done : first reading mint = .ok result) :
    (tryCatch first handler) reading mint = .ok result := by
  change (tryCatch (first reading mint) fun cause => handler cause reading mint) = _
  rw [done]
  rfl

/-- What is read in place of a failed reading mints as if that had not been tried. -/
theorem tryCatch_of_error {first : Decode α} {handler : DecodeError → Decode α}
    {cause : DecodeError} (failed : first reading mint = .error cause) :
    (tryCatch first handler) reading mint = handler cause reading mint := by
  change (tryCatch (first reading mint) fun cause => handler cause reading mint) = _
  rw [failed]
  rfl

end Decode

/-- Either both decodings failed, or both gave values and these are related. -/
inductive Corresponds (related : α → β → Prop) :
    Except DecodeError (α × Mint) → Except DecodeError (β × Mint) → Prop where
  | failed (cause other : DecodeError) : Corresponds related (.error cause) (.error other)
  | read {first : α} {second : β} (mint other : Mint) (same : related first second) :
      Corresponds related (.ok (first, mint)) (.ok (second, other))

/-- Two decodings succeed in the same readings and give related values, wherever each of them starts
to mint. -/
def Agree (related : α → β → Prop) (first : Decode α) (second : Decode β) : Prop :=
  ∀ reading mint other, Corresponds related (first reading mint) (second reading other)

namespace Agree

variable {γ δ : Type} {related : α → β → Prop} {first : Decode α} {second : Decode β}

@[simp]
theorem of_pure {a : α} {b : β} (same : related a b) :
    Agree related (pure a : Decode α) (pure b : Decode β) :=
  fun _ mint other => .read mint other same

@[simp]
theorem of_throw (cause other : DecodeError) :
    Agree related (throw cause : Decode α) (throw other : Decode β) :=
  fun _ _ _ => .failed cause other

theorem of_bind {result : γ → δ → Prop} {next : α → Decode γ} {later : β → Decode δ}
    (start : Agree related first second)
    (rest : ∀ a b, related a b → Agree result (next a) (later b)) :
    Agree result (first >>= next) (second >>= later) := by
  intro reading mint other
  have same := start reading mint other
  change Corresponds result
    ((first reading mint).bind fun given => next given.1 reading given.2)
    ((second reading other).bind fun given => later given.1 reading given.2)
  generalize first reading mint = left at same
  generalize second reading other = right at same
  cases same with
  | failed cause other => exact .failed cause other
  | read middle between same => exact rest _ _ same reading middle between

/-- What comes after a part that is read the same under every mint may depend on the part. -/
theorem of_same_bind {result : γ → δ → Prop} {part : Decode α} {next : α → Decode γ}
    {later : α → Decode δ} (start : Agree Eq part part)
    (rest : ∀ value, Agree result (next value) (later value)) :
    Agree result (part >>= next) (part >>= later) :=
  start.of_bind fun value _ same => same ▸ rest value

theorem mono {weaker : α → β → Prop} (agree : Agree related first second)
    (weak : ∀ a b, related a b → weaker a b) : Agree weaker first second := by
  intro reading mint other
  have same := agree reading mint other
  generalize first reading mint = left at same
  generalize second reading other = right at same
  cases same with
  | failed cause other => exact .failed cause other
  | read middle between same => exact .read middle between (weak _ _ same)

theorem of_lift (result : Except DecodeError α) :
    Agree Eq (liftM result : Decode α) (liftM result) := by
  cases result with
  | error cause => exact fun _ _ _ => .failed cause cause
  | ok value => exact fun _ mint other => .read mint other rfl

theorem of_read_bind {next : Reading → Decode α} {later : Reading → Decode β}
    (rest : ∀ reading, Agree related (next reading) (later reading)) :
    Agree related (read >>= next) (read >>= later) :=
  fun reading mint other => rest reading reading mint other

/-- What is read in place of failed readings agrees if it does so for any causes. -/
theorem of_tryCatch {handler : DecodeError → Decode α} {handled : DecodeError → Decode β}
    (start : Agree related first second)
    (rest : ∀ cause other, Agree related (handler cause) (handled other)) :
    Agree related (tryCatch first handler) (tryCatch second handled) := by
  intro reading mint other
  have same := start reading mint other
  cases left : first reading mint with
  | error cause =>
    cases right : second reading other with
    | error reason =>
      rw [Decode.tryCatch_of_error left, Decode.tryCatch_of_error right]
      exact rest cause reason reading mint other
    | ok value =>
      rw [left, right] at same
      cases same
  | ok value =>
    cases right : second reading other with
    | error reason =>
      rw [left, right] at same
      cases same
    | ok known =>
      rw [Decode.tryCatch_of_ok left, Decode.tryCatch_of_ok right, ← left, ← right]
      exact same

theorem of_mapM {related : α → α → Prop} {read : Reader α}
    (each : ∀ datum, Agree related (read datum) (read datum)) (items : List Datum) :
    Agree (List.Forall₂ related) (items.mapM read) (items.mapM read) := by
  induction items with
  | nil => exact of_pure .nil
  | cons item rest ih =>
    rw [List.mapM_cons]
    exact (each item).of_bind fun _ _ here => ih.of_bind fun _ _ later => of_pure (.cons here later)

end Agree

/-- A reader of which a mint does not decide whether it succeeds. What it gives under two mints is
related. -/
def Reader.Agrees (related : α → α → Prop) (read : Reader α) : Prop :=
  ∀ datum, Agree related (read datum) (read datum)

/-- A reader that gives the same under every mint. -/
abbrev Reader.Steady (read : Reader α) : Prop :=
  read.Agrees Eq

theorem Reader.Agrees.list {related : α → α → Prop} {read : Reader α} (items : read.Agrees related) :
    (readList read).Agrees (List.Forall₂ related) := fun datum => by
  cases datum <;> simp only [readList]
  case list => exact Agree.of_mapM items _
  all_goals simp

theorem Reader.Agrees.record {related : α → α → Prop} {names : List String} {read : Record → Decode α}
    (fields : ∀ record, Agree related (read record) (read record)) :
    (readRecord names read).Agrees related :=
  fun _ => (Agree.of_lift _).of_same_bind fields

namespace Reader.Steady

@[simp]
theorem text : Steady readText := fun datum => by
  cases datum <;> simp [readText]

@[simp]
theorem bool : Steady readBool := fun datum => by
  cases datum <;> simp [readBool]

@[simp]
theorem float : Steady readFloat := fun datum => by
  cases datum <;> simp [readFloat]

@[simp]
theorem uint32 : Steady readUInt32 := fun datum => by
  cases datum <;> simp only [readUInt32] <;> try split
  all_goals simp

@[simp]
theorem uint64 : Steady readUInt64 := fun datum => by
  cases datum <;> simp only [readUInt64] <;> try split
  all_goals simp

@[simp]
theorem freeForm : Steady readFreeForm := fun datum => by
  simp only [readFreeForm]
  split <;> simp

@[simp]
theorem list {read : Reader α} (items : read.Steady) : Steady (readList read) := by
  have each := Agrees.list items
  rwa [List.forall₂_eq_eq_eq] at each

@[simp]
theorem name (named : List (String × α)) : Steady (readName named) := fun datum => by
  unfold readName
  split
  · split <;> simp
  · split
    · refine Agree.of_read_bind fun reading => ?_
      split <;> simp
    · simp
  · simp

end Reader.Steady

namespace Record

variable {related : α → α → Prop} {record : Record} {name : String} {read : Reader α}

theorem agree_required (part : read.Agrees related) :
    Agree related (record.required name read) (record.required name read) := by
  unfold required
  split
  · exact part _
  · simp

theorem agree_defaulted {value : Decode α} (part : read.Agrees related)
    (absent : Agree related value value) :
    Agree related (record.defaulted name read value) (record.defaulted name read value) := by
  unfold defaulted
  split
  · exact absent
  · exact part _

@[simp]
theorem steady_required (part : read.Steady) :
    Agree Eq (record.required name read) (record.required name read) :=
  agree_required part

@[simp]
theorem steady_optional (part : read.Steady) :
    Agree Eq (record.optional name read) (record.optional name read) := by
  unfold optional
  split
  · simp
  · simp
  · exact (part _).of_same_bind fun _ => Agree.of_pure rfl

@[simp]
theorem steady_defaulted {value : Decode α} (part : read.Steady) (absent : Agree Eq value value) :
    Agree Eq (record.defaulted name read value) (record.defaulted name read value) :=
  agree_defaulted part absent

end Record

/-- A datum of its own that a reader takes. -/
def Reader.Reads (read : Reader α) (datum : Datum) : Prop :=
  ∃ mint result, read.run datum mint = .ok result

namespace Reader

variable {read : Reader α} {datum : Datum}

theorem Reads.run {related : α → α → Prop} (reads : read.Reads datum) (agrees : read.Agrees related)
    (mint : Mint) : ∃ result, read.run datum mint = .ok result := by
  obtain ⟨known, result, done⟩ := reads
  have same := agrees datum .direct known mint
  change read datum .direct known = .ok result at done
  rw [done] at same
  cases found : read datum .direct mint with
  | error cause =>
    rw [found] at same
    cases same
  | ok result => exact ⟨result, found⟩

theorem mapM_eq_ok {items : List Datum} {values : List α} {mint after : Mint}
    (done : (items.mapM read) .direct mint = .ok (values, after)) :
    List.Forall₂ (fun item value => ∃ mint after, read.run item mint = .ok (value, after))
      items values := by
  induction items generalizing values mint after with
  | nil =>
    rw [List.mapM_nil] at done
    obtain ⟨rfl, -⟩ := Decode.pure_eq_ok.1 done
    exact .nil
  | cons item rest ih =>
    rw [List.mapM_cons] at done
    obtain ⟨value, middle, head, done⟩ := Decode.bind_eq_ok.1 done
    obtain ⟨values, last, tail, done⟩ := Decode.bind_eq_ok.1 done
    obtain ⟨rfl, -⟩ := Decode.pure_eq_ok.1 done
    exact .cons ⟨mint, middle, head⟩ (ih tail)

theorem list_eq_ok {values : List α} {mint after : Mint}
    (done : (readList read) datum .direct mint = .ok (values, after)) :
    ∃ items, datum = .list items ∧
      List.Forall₂ (fun item value => ∃ mint after, read.run item mint = .ok (value, after))
        items values := by
  cases datum with
  | list items => exact ⟨items, rfl, mapM_eq_ok done⟩
  | _ => exact absurd done Decode.throw_ne_ok

theorem reads_of_forall₂ {items : List Datum} {values : List α}
    (each : List.Forall₂ (fun item value => ∃ mint after, read.run item mint = .ok (value, after))
      items values) : ∀ item ∈ items, read.Reads item := by
  induction each with
  | nil => exact fun _ member => nomatch member
  | cons head _ ih =>
    obtain ⟨mint, after, found⟩ := head
    intro item member
    cases member with
    | head => exact ⟨mint, _, found⟩
    | tail _ later => exact ih item later

theorem reads_list {related : α → α → Prop} {items : List Datum} (agrees : read.Agrees related) :
    (readList read).Reads (.list items) ↔ ∀ item ∈ items, read.Reads item := by
  constructor
  · rintro ⟨mint, ⟨values, after⟩, done⟩ item member
    have each := mapM_eq_ok (show (items.mapM read) .direct mint = .ok (values, after) from done)
    exact reads_of_forall₂ each item member
  · intro each
    suffices all : ∀ mint, ∃ result, (items.mapM read) .direct mint = .ok result from
      ⟨⟨0⟩, all ⟨0⟩⟩
    induction items with
    | nil => exact fun mint => ⟨([], mint), rfl⟩
    | cons item rest ih =>
      intro mint
      obtain ⟨⟨value, middle⟩, head⟩ := (each item List.mem_cons_self).run agrees mint
      obtain ⟨⟨values, after⟩, tail⟩ :=
        ih (fun item member => each item (List.mem_cons_of_mem _ member)) middle
      refine ⟨(value :: values, after), ?_⟩
      rw [List.mapM_cons]
      exact Decode.bind_eq_ok.2 ⟨value, middle, head,
        Decode.bind_eq_ok.2 ⟨values, after, tail, Decode.pure_eq_ok.2 ⟨rfl, rfl⟩⟩⟩

end Reader

/-- Whether a key selects a field: by its name, or by its place among the names. -/
def Key.selects (names : List String) (name : String) : Key → Bool
  | .text known => known == name
  | .position index => names[index]? == some name
  | .other => false

/-- What a record gives for a field. -/
def Datum.field? (names : List String) (name : String) : Datum → Option Datum
  | .map entries => (entries.find? fun entry => entry.1.selects names name).map Prod.snd
  | .list items => items[names.idxOf name]?
  | _ => none

theorem Key.selects_of_field? {names : List String} {key : Key} {chosen : Option String}
    {name : String} (known : name ∈ names) (found : key.field? names = .ok chosen) :
    key.selects names name = (chosen == some name) := by
  cases key with
  | text other =>
    cases found
    by_cases same : other = name
    · simp [selects, same, known]
    · by_cases listed : other ∈ names <;> simp [selects, same, listed]
  | position index =>
    cases found
    rfl
  | other => cases found

namespace Record

variable {names : List String} {name : String}

theorem lookup_ofEntries {entries : Entries} {fields : List (String × Datum)}
    (known : name ∈ names) (done : Record.ofEntries names entries = .ok fields) :
    fields.lookup name = (Datum.map entries).field? names name := by
  induction entries generalizing fields with
  | nil =>
    cases done
    rfl
  | cons entry rest ih =>
    obtain ⟨key, value⟩ := entry
    simp only [Record.ofEntries] at done
    cases earlier : Record.ofEntries names rest with
    | error cause => simp [earlier, bind, Except.bind] at done
    | ok later =>
      have rest := ih earlier
      cases found : key.field? names with
      | error cause => simp [earlier, found, bind, Except.bind] at done
      | ok chosen =>
        have selected := Key.selects_of_field? known found
        simp only [earlier, found, bind, Except.bind] at done
        cases chosen with
        | none =>
          cases done
          simpa [Datum.field?, selected] using rest
        | some other =>
          dsimp only at done
          split at done
          · cases done
          · cases done
            by_cases same : other = name
            · subst same
              simp [Datum.field?, selected]
            · have differs : (name == other) = false := by simpa using Ne.symm same
              simpa [Datum.field?, selected, same, List.lookup_cons, differs] using rest

theorem lookup_zip (items : List Datum) (short : items.length ≤ names.length) :
    (names.zip items).lookup name = items[names.idxOf name]? := by
  induction names generalizing items with
  | nil => cases items <;> simp_all
  | cons first names ih =>
    cases items with
    | nil => simp
    | cons item items =>
      by_cases same : first = name
      · simp [same]
      · have differs : (name == first) = false := by simpa using Ne.symm same
        simpa [List.lookup_cons, differs, List.idxOf_cons, same] using
          ih items (Nat.le_of_succ_le_succ short)

theorem lookup_ofDatum {datum : Datum} {record : Record} (known : name ∈ names)
    (done : Record.ofDatum names datum = .ok record) :
    record.fields.lookup name = datum.field? names name := by
  cases datum with
  | map entries =>
    cases found : Record.ofEntries names entries with
    | error cause => simp [Record.ofDatum, found, bind, Except.bind] at done
    | ok fields =>
      simp only [Record.ofDatum, found, bind, Except.bind, pure, Except.pure,
        Except.ok.injEq] at done
      subst done
      exact lookup_ofEntries known found
  | list items =>
    simp only [Record.ofDatum] at done
    split at done
    · cases done
      exact lookup_zip items ‹_›
    · cases done
  | _ => cases done

end Record
end Convoy.Data
