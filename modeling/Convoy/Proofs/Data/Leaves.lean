import Convoy.Data.Datum

/-!
# The leaves of a datum

What a datum holds at the bottom of its lists and maps. Whatever is said of every leaf is said part
by part: of the items of a list, of the values of a map, of the parts that a record is written of.
-/
namespace Convoy.Data

namespace Datum

mutual

/-- The parts of a datum that are neither lists nor maps. -/
def leaves : Datum → List Datum
  | .list items => itemLeaves items
  | .map entries => entryLeaves entries
  | datum => [datum]

def itemLeaves : List Datum → List Datum
  | [] => []
  | item :: rest => leaves item ++ itemLeaves rest

def entryLeaves : Entries → List Datum
  | [] => []
  | (_, value) :: rest => leaves value ++ entryLeaves rest

end

/-- The floats that a datum holds. -/
def floats (datum : Datum) : List Float :=
  datum.leaves.filterMap fun
    | .float value => some value
    | _ => none

/-- The numbers that a datum holds, as the floats that they are read as. -/
def numbers (datum : Datum) : List Float :=
  datum.leaves.filterMap fun
    | .float value => some value
    | .int value => some (Float.ofInt value)
    | _ => none

variable {holds : Datum → Prop} {datum : Datum}

/-- Something holds of every leaf of a datum. -/
def Every (holds : Datum → Prop) (datum : Datum) : Prop :=
  ∀ leaf ∈ datum.leaves, holds leaf

theorem itemLeaves_eq (items : List Datum) : itemLeaves items = items.flatMap leaves := by
  induction items with
  | nil => rfl
  | cons item rest ih => simp [itemLeaves, ih]

theorem entryLeaves_eq (entries : Entries) :
    entryLeaves entries = entries.flatMap fun entry => entry.2.leaves := by
  induction entries with
  | nil => rfl
  | cons entry rest ih => simp [entryLeaves, ih]

@[simp]
theorem every_list {items : List Datum} :
    (Datum.list items).Every holds ↔ ∀ item ∈ items, item.Every holds := by
  simp only [Every, leaves, itemLeaves_eq, List.mem_flatMap]
  constructor
  · intro all item member leaf found
    exact all leaf ⟨item, member, found⟩
  · rintro all leaf ⟨item, member, found⟩
    exact all item member leaf found

@[simp]
theorem every_map {entries : Entries} :
    (Datum.map entries).Every holds ↔ ∀ entry ∈ entries, entry.2.Every holds := by
  simp only [Every, leaves, entryLeaves_eq, List.mem_flatMap]
  constructor
  · intro all entry member leaf found
    exact all leaf ⟨entry, member, found⟩
  · rintro all leaf ⟨entry, member, found⟩
    exact all entry member leaf found

@[simp]
theorem every_null : Datum.null.Every holds ↔ holds .null := by
  simp [Every, leaves]

@[simp]
theorem every_bool {value : Bool} : (Datum.bool value).Every holds ↔ holds (.bool value) := by
  simp [Every, leaves]

@[simp]
theorem every_int {value : Int} : (Datum.int value).Every holds ↔ holds (.int value) := by
  simp [Every, leaves]

@[simp]
theorem every_float {value : Float} :
    (Datum.float value).Every holds ↔ holds (.float value) := by
  simp [Every, leaves]

@[simp]
theorem every_text {value : String} : (Datum.text value).Every holds ↔ holds (.text value) := by
  simp [Every, leaves]

@[simp]
theorem every_unreadable : Datum.unreadable.Every holds ↔ holds .unreadable := by
  simp [Every, leaves]

mutual

theorem isReadable_of_every : {datum : Datum} → datum.Every (· ≠ .unreadable) →
    datum.isReadable = true
  | .list _, all => areReadable_of_every (every_list.1 all)
  | .map _, all => entriesReadable_of_every (every_map.1 all)
  | .unreadable, all => absurd rfl (every_unreadable.1 all)
  | .null, _ | .bool _, _ | .int _, _ | .float _, _ | .text _, _ => rfl

theorem areReadable_of_every : {items : List Datum} →
    (∀ item ∈ items, item.Every (· ≠ .unreadable)) → areReadable items = true
  | [], _ => rfl
  | item :: rest, all => by
    have first := isReadable_of_every (all item List.mem_cons_self)
    have later := areReadable_of_every fun item member => all item (List.mem_cons_of_mem _ member)
    simp [areReadable, first, later]

theorem entriesReadable_of_every : {entries : Entries} →
    (∀ entry ∈ entries, entry.2.Every (· ≠ .unreadable)) → entriesReadable entries = true
  | [], _ => rfl
  | (key, value) :: rest, all => by
    have first := isReadable_of_every (all (key, value) List.mem_cons_self)
    have later := entriesReadable_of_every fun entry member =>
      all entry (List.mem_cons_of_mem _ member)
    simp [entriesReadable, first, later]

end

variable {admits : Float → Prop}

/-- A leaf to read from: a number stands for an admitted float, and a float is finite. -/
def Supplies (admits : Float → Prop) : Datum → Prop
  | .int value => admits (Float.ofInt value)
  | .float value => value.isFinite = true ∧ admits value
  | _ => True

/-- A leaf to write: it denotes a value, and a float is an admitted one. -/
def Fits (admits : Float → Prop) : Datum → Prop
  | .float value => admits value
  | .unreadable => False
  | _ => True

@[simp]
theorem fits_text (value : String) : Fits admits (.text value) := trivial

@[simp]
theorem fits_bool (value : Bool) : Fits admits (.bool value) := trivial

@[simp]
theorem fits_int (value : Int) : Fits admits (.int value) := trivial

@[simp]
theorem fits_null : Fits admits .null := trivial

@[simp]
theorem fits_float {value : Float} : Fits admits (.float value) ↔ admits value := .rfl

/-- A datum whose leaves may be read. -/
abbrev Source (admits : Float → Prop) (datum : Datum) : Prop :=
  datum.Every (Supplies admits)

/-- A datum whose leaves may be written. -/
abbrev Copy (admits : Float → Prop) (datum : Datum) : Prop :=
  datum.Every (Fits admits)

theorem Copy.isReadable (fits : datum.Copy admits) : datum.isReadable = true :=
  isReadable_of_every fun leaf member => by
    rintro rfl
    exact fits _ member

theorem Copy.floats (fits : datum.Copy admits) {value : Float} (member : value ∈ datum.floats) :
    admits value := by
  obtain ⟨leaf, inside, found⟩ := List.mem_filterMap.1 member
  cases leaf with
  | float known =>
    cases found
    exact fits _ inside
  | _ => cases found

/-- A datum with finite floats may be read as giving the numbers that it holds. -/
theorem source_numbers (finite : ∀ value ∈ datum.floats, value.isFinite = true) :
    datum.Source (· ∈ datum.numbers) := by
  intro leaf member
  cases leaf with
  | int value => exact List.mem_filterMap.2 ⟨_, member, rfl⟩
  | float value =>
    exact ⟨finite _ (List.mem_filterMap.2 ⟨_, member, rfl⟩), List.mem_filterMap.2 ⟨_, member, rfl⟩⟩
  | _ => trivial

end Datum
end Convoy.Data
