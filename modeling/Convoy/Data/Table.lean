/-!
# Tables

A table maps names to values and lists them by name. `Table.get?_alter` says what a change does to
every name.
-/
namespace Convoy.Data

variable {α : Type}

/-- The entries with the value of one name replaced, or put in its place in the order. -/
def alterEntries (name : String) (change : Option α → α) :
    List (String × α) → List (String × α)
  | [] => [(name, change none)]
  | (known, value) :: rest =>
    if name < known then (name, change none) :: (known, value) :: rest
    else if name = known then (known, change (some value)) :: rest
    else (known, value) :: alterEntries name change rest

/-- Names come in ascending order, each once. -/
def IsSorted (entries : List (String × α)) : Prop :=
  entries.Pairwise fun a b => a.1 < b.1

theorem name_of_mem_alterEntries {name : String} {change : Option α → α}
    {entries : List (String × α)} {entry : String × α}
    (member : entry ∈ alterEntries name change entries) :
    entry.1 = name ∨ ∃ old ∈ entries, old.1 = entry.1 := by
  induction entries with
  | nil => simp [alterEntries] at member; simp [member]
  | cons head rest ih =>
    obtain ⟨known, value⟩ := head
    unfold alterEntries at member
    split at member
    · rcases List.mem_cons.1 member with rfl | old
      · exact .inl rfl
      · exact .inr ⟨entry, old, rfl⟩
    · split at member
      · rcases List.mem_cons.1 member with rfl | old
        · exact .inr ⟨(known, value), by simp, rfl⟩
        · exact .inr ⟨entry, by simp [old], rfl⟩
      · rcases List.mem_cons.1 member with rfl | later
        · exact .inr ⟨(known, value), by simp, rfl⟩
        · rcases ih later with same | ⟨old, found, same⟩
          · exact .inl same
          · exact .inr ⟨old, by simp [found], same⟩

theorem isSorted_alterEntries {name : String} {change : Option α → α}
    {entries : List (String × α)} (sorted : IsSorted entries) :
    IsSorted (alterEntries name change entries) := by
  induction entries with
  | nil => simp [alterEntries, IsSorted]
  | cons head rest ih =>
    obtain ⟨known, value⟩ := head
    obtain ⟨below, restSorted⟩ := List.pairwise_cons.1 sorted
    unfold alterEntries
    split
    · rename_i before
      refine List.pairwise_cons.2 ⟨fun entry member => ?_, sorted⟩
      rcases List.mem_cons.1 member with rfl | later
      · exact before
      · exact String.lt_trans before (below entry later)
    · rename_i notBefore
      split
      · exact List.pairwise_cons.2 ⟨below, restSorted⟩
      · rename_i different
        refine List.pairwise_cons.2 ⟨fun entry member => ?_, ih restSorted⟩
        rcases name_of_mem_alterEntries member with same | ⟨old, found, same⟩
        · show known < entry.1
          rw [same]
          exact Decidable.byContradiction fun notAfter =>
            different (String.le_antisymm (String.not_lt.1 notAfter) (String.not_lt.1 notBefore))
        · show known < entry.1
          rw [← same]
          exact below old found

theorem lookup_head (name known : String) (value : α) (rest : List (String × α)) :
    ((known, value) :: rest).lookup name =
      if name = known then some value else rest.lookup name := by
  by_cases same : name = known
  · rw [if_pos same, same, List.lookup_cons_self]
  · have different : (name == known) = false := beq_false_of_ne same
    rw [if_neg same, List.lookup_cons, different]

theorem lookup_eq_none_of_below {name : String} {entries : List (String × α)}
    (below : ∀ entry ∈ entries, name < entry.1) : entries.lookup name = none := by
  induction entries with
  | nil => rfl
  | cons head rest ih =>
    have different : name ≠ head.1 := String.ne_of_lt (below head (by simp))
    rw [show head :: rest = (head.1, head.2) :: rest from rfl, lookup_head, if_neg different]
    exact ih fun entry member => below entry (by simp [member])

theorem lookup_eq_some_iff_mem {name : String} {value : α} {entries : List (String × α)}
    (sorted : IsSorted entries) :
    entries.lookup name = some value ↔ (name, value) ∈ entries := by
  induction entries with
  | nil => simp
  | cons head rest ih =>
      obtain ⟨known, first⟩ := head
      obtain ⟨below, restSorted⟩ := List.pairwise_cons.1 sorted
      rw [lookup_head, List.mem_cons]
      by_cases same : name = known
      · subst known
        have absent : (name, value) ∉ rest := fun later =>
          String.lt_irrefl name (below (name, value) later)
        simp [absent, eq_comm]
      · simp [same, ih restSorted]

theorem lookup_alterEntries {change : Option α → α} {entries : List (String × α)}
    (sorted : IsSorted entries) (name other : String) :
    (alterEntries name change entries).lookup other =
      if other = name then some (change (entries.lookup name)) else entries.lookup other := by
  induction entries with
  | nil => simp [alterEntries, lookup_head]
  | cons head rest ih =>
    obtain ⟨known, value⟩ := head
    obtain ⟨below, restSorted⟩ := List.pairwise_cons.1 sorted
    unfold alterEntries
    split
    · rename_i before
      have absent : ((known, value) :: rest).lookup name = none :=
        lookup_eq_none_of_below fun entry member => by
          rcases List.mem_cons.1 member with rfl | later
          · exact before
          · exact String.lt_trans before (below entry later)
      rw [absent, lookup_head]
    · split
      · rename_i equal
        subst equal
        simp only [lookup_head]
        split <;> simp
      · rename_i different
        simp only [lookup_head, ih restSorted, if_neg different]
        by_cases same : other = name
        · simp [same, different]
        · simp [same]

theorem isSorted_filter {entries : List (String × α)} (keep : String × α → Bool)
    (sorted : IsSorted entries) : IsSorted (entries.filter keep) :=
  List.Pairwise.filter keep sorted

theorem lookup_filter_ne (entries : List (String × α)) (name other : String) :
    (entries.filter fun entry => entry.1 != name).lookup other =
      if other = name then none else entries.lookup other := by
  induction entries with
  | nil => simp
  | cons head rest ih =>
    obtain ⟨known, value⟩ := head
    by_cases gone : known = name
    · subst gone
      simp only [List.filter_cons, bne_self_eq_false, Bool.false_eq_true, if_false, ih, lookup_head]
      split <;> rfl
    · have kept : (known != name) = true := by simp [gone]
      simp only [List.filter_cons, kept, if_true, lookup_head, ih]
      by_cases same : other = name
      · simp only [same, if_true, ite_eq_right_iff, reduceCtorEq, imp_false]
        exact fun equal => gone equal.symm
      · simp [same]

/-- A finite map from names to values. -/
structure Table (α : Type) where
  entries : List (String × α)
  sorted : IsSorted entries

namespace Table

def empty : Table α where
  entries := []
  sorted := List.Pairwise.nil

instance : Inhabited (Table α) := ⟨empty⟩

def get? (table : Table α) (name : String) : Option α :=
  table.entries.lookup name

def names (table : Table α) : List String :=
  table.entries.map (·.1)

def isEmpty (table : Table α) : Bool :=
  table.entries.isEmpty

/-- Replaces the value of a name, or adds it. -/
def alter (table : Table α) (name : String) (change : Option α → α) : Table α where
  entries := alterEntries name change table.entries
  sorted := isSorted_alterEntries table.sorted

def put (table : Table α) (name : String) (value : α) : Table α :=
  table.alter name fun _ => value

def erase (table : Table α) (name : String) : Table α where
  entries := table.entries.filter fun entry => entry.1 != name
  sorted := isSorted_filter _ table.sorted

/-- Changes the value of a name that has one. -/
def adjust (table : Table α) (name : String) (change : α → α) : Table α :=
  match table.get? name with
  | some value => table.put name (change value)
  | none => table

@[simp]
theorem get?_empty (name : String) : (empty : Table α).get? name = none := rfl

theorem get?_alter (table : Table α) (name other : String) (change : Option α → α) :
    (table.alter name change).get? other =
      if other = name then some (change (table.get? name)) else table.get? other :=
  lookup_alterEntries table.sorted name other

theorem get?_put (table : Table α) (name other : String) (value : α) :
    (table.put name value).get? other = if other = name then some value else table.get? other :=
  table.get?_alter name other fun _ => value

theorem get?_erase (table : Table α) (name other : String) :
    (table.erase name).get? other = if other = name then none else table.get? other :=
  lookup_filter_ne table.entries name other

theorem get?_adjust (table : Table α) (name other : String) (change : α → α) :
    (table.adjust name change).get? other =
      if other = name then (table.get? other).map change else table.get? other := by
  unfold adjust
  cases known : table.get? name with
  | none =>
      by_cases same : other = name
      · simp [same, known]
      · rw [if_neg same]
  | some value =>
      rw [get?_put]
      by_cases same : other = name
      · simp [same, known]
      · rw [if_neg same, if_neg same]

/-- Each name among sorted entries is adjusted once. -/
theorem get?_foldl_adjust {β : Type} {entries : List (String × β)} (sorted : IsSorted entries)
    (table : Table α) (change : β → α → α) (name : String) :
    (entries.foldl (fun kept entry => kept.adjust entry.1 (change entry.2)) table).get? name =
      (entries.lookup name).elim (table.get? name) fun value =>
        (table.get? name).map (change value) := by
  induction entries generalizing table with
  | nil => rfl
  | cons head rest ih =>
      obtain ⟨known, value⟩ := head
      obtain ⟨below, restSorted⟩ := List.pairwise_cons.1 sorted
      rw [List.foldl_cons, ih restSorted, get?_adjust, lookup_head]
      by_cases same : name = known
      · subst known
        rw [if_pos rfl, if_pos rfl, lookup_eq_none_of_below below]
        rfl
      · rw [if_neg same, if_neg same]

/-- Each name among sorted entries is altered once. -/
theorem get?_foldl_alter {β : Type} {entries : List (String × β)} (sorted : IsSorted entries)
    (table : Table α) (change : β → Option α → α) (name : String) :
    (entries.foldl (fun kept entry => kept.alter entry.1 (change entry.2)) table).get? name =
      (entries.lookup name).elim (table.get? name) fun value =>
        some (change value (table.get? name)) := by
  induction entries generalizing table with
  | nil => rfl
  | cons head rest ih =>
      obtain ⟨known, value⟩ := head
      obtain ⟨below, restSorted⟩ := List.pairwise_cons.1 sorted
      rw [List.foldl_cons, ih restSorted, get?_alter, lookup_head]
      by_cases same : name = known
      · subst known
        rw [if_pos rfl, if_pos rfl, lookup_eq_none_of_below below]
        rfl
      · rw [if_neg same, if_neg same]

theorem mem_entries_iff {table : Table α} {name : String} {value : α} :
    (name, value) ∈ table.entries ↔ table.get? name = some value :=
  (lookup_eq_some_iff_mem table.sorted).symm

theorem mem_names_iff {table : Table α} {name : String} :
    name ∈ table.names ↔ (table.get? name).isSome := by
  simp only [names, List.mem_map, Prod.exists, exists_and_right, exists_eq_right,
    mem_entries_iff, Option.isSome_iff_exists]

instance [DecidableEq α] : DecidableEq (Table α) := fun a b =>
  if same : a.entries = b.entries then isTrue (by cases a; cases b; cases same; rfl)
  else isFalse fun equal => same (equal ▸ rfl)

end Table
end Convoy.Data
