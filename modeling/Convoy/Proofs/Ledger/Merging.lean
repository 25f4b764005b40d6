import Convoy.Proofs.Ledger.Amounts

/-!
# Ledgers add up

A ledger has one form for what it holds under each name, so merging is an operation on the entries
of one name: amounts are added, ranges are united, and an entry that only one side has stays as it
is. Hence merging is commutative and associative, and a list of resources can be flattened in any
order and in any parts. What a ledger covers can be taken away and merged back, for spans that a hole
has split are fused again.
-/
namespace Convoy

open Data

@[ext]
theorem Data.Table.ext {α : Type} {table other : Table α}
    (same : ∀ name, table.get? name = other.get? name) : table = other := by
  obtain ⟨entries, sorted⟩ := table
  obtain ⟨known, knownSorted⟩ := other
  have distinct {entries : List (String × α)} (sorted : IsSorted entries) : entries.Nodup := by
    refine List.Pairwise.imp (fun {first second} below equal => ?_) sorted
    subst equal
    exact String.lt_irrefl _ below
  have members (entry : String × α) : entry ∈ entries ↔ entry ∈ known := by
    rw [← lookup_eq_some_iff_mem sorted, ← lookup_eq_some_iff_mem knownSorted]
    exact Eq.congr_left (same entry.1)
  have perm : entries.Perm known :=
    (List.perm_ext_iff_of_nodup (distinct sorted) (distinct knownSorted)).mpr members
  have equal : entries = known :=
    perm.eq_of_pairwise (fun _ _ _ _ before after => absurd (String.lt_trans before after)
      (String.lt_irrefl _)) sorted knownSorted
  subst equal
  rfl

namespace Ledger

@[ext]
theorem ext {first second : Ledger}
    (amounts : ∀ name, first.amounts.get? name = second.amounts.get? name)
    (ranges : ∀ name, first.ranges.get? name = second.ranges.get? name) : first = second := by
  obtain ⟨amounts, ranges⟩ := first
  have sameAmounts := Table.ext amounts
  have sameRanges := Table.ext ranges
  subst sameAmounts sameRanges
  rfl

theorem merge_comm (first second : Ledger) : first.merge second = second.merge first := by
  ext1
  case amounts name =>
    rw [amounts_merge, amounts_merge]
    exact Std.Commutative.comm _ _
  case ranges name =>
    rw [ranges_merge, ranges_merge]
    exact Std.Commutative.comm _ _

theorem merge_assoc (first second third : Ledger) :
    (first.merge second).merge third = first.merge (second.merge third) := by
  ext1
  case amounts name =>
    simp only [amounts_merge]
    exact Std.Associative.assoc _ _ _
  case ranges name =>
    simp only [ranges_merge]
    exact Std.Associative.assoc _ _ _

theorem merge_addAmount (first second : Ledger) (name : String) (count : Int64) :
    first.merge (second.addAmount name count) = (first.merge second).addAmount name count := by
  ext1
  case amounts other =>
    simp only [amounts_merge, addAmount, Table.get?_alter]
    by_cases same : other = name
    · subst other
      rw [if_pos rfl, if_pos rfl]
      cases first.amounts.get? name <;> cases second.amounts.get? name <;> simp [Int64.add_assoc]
    · rw [if_neg same, if_neg same]
  case ranges other =>
    exact (ranges_merge first (second.addAmount name count) other).trans
      (ranges_merge first second other).symm

theorem merge_addSpans (first second : Ledger) (name : String) (spans : List Span) :
    first.merge (second.addSpans name spans) = (first.merge second).addSpans name spans := by
  ext1
  case amounts other =>
    exact (amounts_merge first (second.addSpans name spans) other).trans
      (amounts_merge first second other).symm
  case ranges other =>
    simp only [ranges_merge, addSpans, Table.get?_alter]
    by_cases same : other = name
    · subst other
      rw [if_pos rfl, if_pos rfl]
      cases first.ranges.get? name with
      | none => simp
      | some known =>
          have united (set : SpanSet) : known.union (set.insertAll spans) =
              (known.union set).insertAll spans := by
            ext number
            simp only [SpanSet.mem_union, SpanSet.mem_insertAll, or_assoc]
          cases second.ranges.get? name with
          | none =>
              have alone : known.union .empty = known := rfl
              simp [united, alone]
          | some set => simp [united]
    · rw [if_neg same, if_neg same]

theorem merge_add (first second : Ledger) (resource : Resource) :
    first.merge (second.add resource) = (first.merge second).add resource := by
  unfold add
  split
  · split
    · exact merge_addAmount first second _ _
    · rfl
  · exact merge_addSpans first second _ _
  · rfl
  · rfl

theorem foldl_add (ledger : Ledger) (resources : List Resource) :
    resources.foldl add ledger = ledger.merge (ofResources resources) := by
  suffices merged : ∀ known : Ledger,
      resources.foldl add (ledger.merge known) = ledger.merge (resources.foldl add known) from
    merged empty
  intro known
  induction resources generalizing known with
  | nil => rfl
  | cons resource rest ih =>
      rw [List.foldl_cons, List.foldl_cons, ← merge_add, ih]

theorem ofResources_append (first second : List Resource) :
    ofResources (first ++ second) = (ofResources first).merge (ofResources second) := by
  rw [ofResources, List.foldl_append, foldl_add]
  rfl

theorem ofResources_perm {first second : List Resource} (perm : first.Perm second) :
    ofResources first = ofResources second := by
  induction perm with
  | nil => rfl
  | cons resource _ ih =>
      rw [← List.singleton_append, ofResources_append, ih, ← ofResources_append,
        List.singleton_append]
  | swap one other rest =>
      have exchanged : ofResources [other, one] = ofResources [one, other] :=
        (ofResources_append [other] [one]).trans
          ((merge_comm _ _).trans (ofResources_append [one] [other]).symm)
      have first := ofResources_append [other, one] rest
      have second := ofResources_append [one, other] rest
      exact first.trans ((congrArg (·.merge (ofResources rest)) exchanged).trans second.symm)
  | trans _ _ ih later => exact ih.trans later

/-- Resources flatten to one ledger in any order and in any parts, for parts are put together by a
commutative and associative merge. -/
theorem regrouped_ofResources {first shuffled : List Resource} (perm : shuffled.Perm first)
    (second : List Resource) (one other third : Ledger) :
    ofResources shuffled = ofResources first ∧
      ofResources (first ++ second) = (ofResources first).merge (ofResources second) ∧
      one.merge other = other.merge one ∧
      (one.merge other).merge third = one.merge (other.merge third) :=
  ⟨ofResources_perm perm, ofResources_append first second, merge_comm one other,
    merge_assoc one other third⟩

/-- A name that stands for an amount and for ranges, with spans that touch, overlap or are reversed,
a quantity without its part, and kinds that are not counted. -/
theorem regrouped_mixed :
    let items : Resource := { Resource.ranges "ports" [⟨80, 90⟩] with kind := .set }
    let first : List Resource :=
      [.ranges "ports" [⟨91, 95⟩, ⟨9, 3⟩], .scalar "ports" 0.5, .scalar "cpus" (-1.5), items,
        { Resource.scalar "mem" 32.0 with amount := none }, .ranges "ports" [⟨80, 90⟩, ⟨85, 93⟩]]
    let second : List Resource := [.scalar "cpus" 2.0, .ranges "disks" []]
    let ledger := Ledger.ofResources
    first.reverse.Perm first ∧
      ledger first.reverse = ledger first ∧
      ledger (first ++ second) = (ledger first).merge (ledger second) ∧
      (ledger first).merge (ledger second) = (ledger second).merge (ledger first) ∧
      ((ledger first).merge (ledger second)).merge (ledger [items]) =
        (ledger first).merge ((ledger second).merge (ledger [items])) := by
  intro items first second ledger
  have perm : first.reverse.Perm first := List.reverse_perm first
  exact ⟨perm, regrouped_ofResources perm second (ledger first) (ledger second) (ledger [items])⟩

variable {ledger other : Ledger} {name : String}

theorem amount_merge_subtract (covers : ledger.contains other = true)
    (offered : 0 ≤ ledger.amount name) (required : 0 ≤ other.amount name) :
    ((ledger.subtract other).merge other).amount name = ledger.amount name := by
  rw [amount_merge, amount_subtract covers offered required]
  exact Int64.sub_add_cancel _ _

theorem range_merge_subtract (covers : ledger.contains other = true) :
    ((ledger.subtract other).merge other).range name = ledger.range name := by
  ext number
  rw [mem_range_merge, mem_range_subtract]
  constructor
  · rintro (⟨kept, _⟩ | back)
    · exact kept
    · exact mem_range_of_contains covers back
  · intro offered
    by_cases taken : number ∈ other.range name
    · exact .inr taken
    · exact .inl ⟨offered, taken⟩

/-- A name that has ranges keeps its entry, even if all of them are taken away. -/
theorem ranges_merge_subtract (covers : ledger.contains other = true) {set : SpanSet}
    (found : ledger.ranges.get? name = some set) :
    ((ledger.subtract other).merge other).ranges.get? name = some set := by
  have kept : ∃ restored, ((ledger.subtract other).merge other).ranges.get? name =
      some restored := by
    rw [ranges_merge, ranges_subtract, found]
    cases other.ranges.get? name with
    | none => exact ⟨_, rfl⟩
    | some taken => exact ⟨_, rfl⟩
  obtain ⟨restored, entry⟩ := kept
  have same : ((ledger.subtract other).merge other).range name = ledger.range name :=
    range_merge_subtract covers
  simp only [range, entry, found, Option.getD_some] at same
  rw [entry, same]

/-- A ledger covers another if it has enough of every amount and every number of each name. If no
amount is below zero, what is covered can be taken away and merged back: every amount is what it was,
and every entry of ranges is the one that it was. -/
theorem restored_merge_subtract (ledger other : Ledger) :
    (ledger.contains other = true ↔
      (∀ name, other.amount name ≤ 0 ∨ other.amount name ≤ ledger.amount name) ∧
        ∀ name number, number ∈ other.range name → number ∈ ledger.range name) ∧
      (ledger.contains other = true → ledger.Nonneg → other.Nonneg →
        (∀ name, ((ledger.subtract other).merge other).amount name = ledger.amount name) ∧
          ∀ name set, ledger.ranges.get? name = some set →
            ((ledger.subtract other).merge other).ranges.get? name = some set) := by
  refine ⟨contains_iff, fun covers offered required => ⟨fun name => ?_, fun name set found => ?_⟩⟩
  · exact amount_merge_subtract covers (offered name) (required name)
  · exact ranges_merge_subtract covers found

/-- A port is taken out of the middle of a span, together with a name that the ledger does not
have. -/
theorem restored_split :
    let ledger := (Ledger.empty.addAmount "cpus" 2000).addSpans "ports" [⟨80, 90⟩]
    let other := ((Ledger.empty.addAmount "cpus" 500).addAmount "gpus" 0).addSpans "ports"
      [⟨85, 85⟩]
    let set := SpanSet.ofSpans [⟨80, 90⟩]
    ledger.contains other = true ∧ ledger.Nonneg ∧ other.Nonneg ∧
      ledger.ranges.get? "ports" = some set ∧
      ((ledger.subtract other).ranges.get? "ports").map (·.spans) = some [⟨80, 84⟩, ⟨86, 90⟩] ∧
      (∀ name, ((ledger.subtract other).merge other).amount name = ledger.amount name) ∧
      ((ledger.subtract other).merge other).ranges.get? "ports" = some set := by
  intro ledger other set
  have covers : ledger.contains other = true := by decide
  have offered : ledger.Nonneg := by decide
  have required : other.Nonneg := by decide
  have found : ledger.ranges.get? "ports" = some set := by decide
  obtain ⟨amounts, ranges⟩ := (restored_merge_subtract ledger other).2 covers offered required
  exact ⟨covers, offered, required, found, by decide, amounts, ranges "ports" set found⟩

end Ledger
end Convoy
