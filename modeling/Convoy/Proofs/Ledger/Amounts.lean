import Convoy.Ledger.Basic
import Convoy.Proofs.Ledger.Spans
import Mathlib

/-!
# Ledgers by name

A ledger is known by the amount and the numbers that it has under each name. Adding resources sums
up what they count, and what is covered can be taken away without loss.
-/
namespace Convoy

open Data

/-- The thousandths that a resource adds to a name. -/
def Resource.count (resource : Resource) (name : String) : Int64 :=
  if resource.kind = .scalar ∧ resource.name = name then
    (resource.amount.map thousandths).getD 0
  else 0

/-- The resource has the number under the name. -/
def Resource.Lists (resource : Resource) (name : String) (number : UInt64) : Prop :=
  resource.kind = .ranges ∧ resource.name = name ∧ Among (resource.spans.getD []) number

namespace Ledger

variable {ledger other : Ledger} {name : String}

/-- No amount is below zero. -/
def Nonneg (ledger : Ledger) : Prop :=
  ∀ name, 0 ≤ ledger.amount name

theorem nonneg_iff :
    ledger.Nonneg ↔ (ledger.amounts.entries.all fun entry => decide (0 ≤ entry.2)) = true := by
  refine ⟨fun nonneg => List.all_eq_true.mpr fun entry member => ?_, fun all name => ?_⟩
  · have known := nonneg entry.1
    rw [amount, Table.mem_entries_iff.mp member, Option.getD_some] at known
    exact decide_eq_true known
  · unfold amount
    cases found : ledger.amounts.get? name with
    | none => exact Int64.le_refl 0
    | some count =>
        exact of_decide_eq_true (List.all_eq_true.mp all _ (Table.mem_entries_iff.mpr found))

instance (ledger : Ledger) : Decidable ledger.Nonneg := decidable_of_iff' _ nonneg_iff

/-- A difference does not wrap around if less is taken than there is. -/
theorem toInt_sub_of_le {known count : Int64} (low : 0 ≤ count) (enough : count ≤ known) :
    (known - count).toInt = known.toInt - count.toInt := by
  rw [Int64.le_iff_toInt_le] at low enough
  have most := Int64.toInt_lt known
  have zero : (0 : Int64).toInt = 0 := rfl
  rw [Int64.toInt_sub]
  exact Int.bmod_eq_of_le (by omega) (by omega)

theorem spend_eq (known count : Int64) :
    spend known count = if known - count ≤ 0 then 0 else known - count := rfl

theorem spend_nonneg (known count : Int64) : 0 ≤ spend known count := by
  rw [spend_eq]
  grind

theorem spend_of_le {known count : Int64} (low : 0 ≤ count) (enough : count ≤ known) :
    spend known count = known - count := by
  rw [spend_eq]
  grind

/-- The numbers of a name; a name without ranges has none. -/
def range (ledger : Ledger) (name : String) : SpanSet :=
  (ledger.ranges.get? name).getD .empty

theorem amount_addAmount (ledger : Ledger) (name known : String) (count : Int64) :
    (ledger.addAmount known count).amount name =
      ledger.amount name + if known = name then count else 0 := by
  simp only [amount, addAmount, Table.get?_alter]
  by_cases same : name = known
  · simp [same]
  · simp [same, Ne.symm same]

theorem amount_add (ledger : Ledger) (resource : Resource) (name : String) :
    (ledger.add resource).amount name = ledger.amount name + resource.count name := by
  unfold add Resource.count
  cases kind : resource.kind with
  | scalar =>
      cases resource.amount with
      | none => simp
      | some amount =>
          simp only [amount_addAmount, true_and, Option.map_some, Option.getD_some]
  | ranges => simp [addSpans, Ledger.amount]
  | set => simp
  | text => simp

theorem amount_foldl_add (ledger : Ledger) (resources : List Resource) (name : String) :
    (resources.foldl add ledger).amount name =
      ledger.amount name + (resources.map (·.count name)).sum := by
  induction resources generalizing ledger with
  | nil => simp
  | cons resource rest ih =>
      rw [List.foldl_cons, ih, amount_add, List.map_cons, List.sum_cons, Int64.add_assoc]

/-- A ledger of resources holds of a name what they have of it in all, in 64 bits. -/
theorem amount_ofResources (resources : List Resource) (name : String) :
    (ofResources resources).amount name = (resources.map (·.count name)).sum := by
  rw [ofResources, amount_foldl_add]
  simp [amount, empty]

theorem mem_range_addSpans {number : UInt64} {known : String} {spans : List Span} :
    number ∈ (ledger.addSpans known spans).range name ↔
      number ∈ ledger.range name ∨ known = name ∧ Among spans number := by
  simp only [range, addSpans, Table.get?_alter]
  by_cases same : name = known
  · subst name
    simp [SpanSet.mem_insertAll]
  · simp [same, Ne.symm same]

theorem mem_range_add {number : UInt64} {resource : Resource} :
    number ∈ (ledger.add resource).range name ↔
      number ∈ ledger.range name ∨ resource.Lists name number := by
  unfold add Resource.Lists
  cases kind : resource.kind with
  | scalar =>
      cases resource.amount with
      | none => simp
      | some amount => simp [addAmount, range]
  | ranges => simp [mem_range_addSpans]
  | set => simp
  | text => simp

theorem mem_range_foldl_add {number : UInt64} {resources : List Resource} :
    number ∈ (resources.foldl add ledger).range name ↔
      number ∈ ledger.range name ∨ ∃ resource ∈ resources, resource.Lists name number := by
  induction resources generalizing ledger with
  | nil => simp
  | cons resource rest ih =>
      rw [List.foldl_cons, ih, mem_range_add, or_assoc]
      simp only [List.mem_cons, exists_eq_or_imp]

theorem mem_range_ofResources {number : UInt64} {resources : List Resource} :
    number ∈ (ofResources resources).range name ↔
      ∃ resource ∈ resources, resource.Lists name number := by
  rw [ofResources, mem_range_foldl_add]
  exact or_iff_right SpanSet.not_mem_empty

/-! Merging works on the entries of one name: amounts are added, ranges are united, and an entry that
only one side has stays as it is. -/

theorem tables_foldl_addAmount (entries : List (String × Int64)) (ledger : Ledger) :
    entries.foldl (fun sum entry => sum.addAmount entry.1 entry.2) ledger = { ledger with
      amounts := entries.foldl
        (fun sum entry => sum.alter entry.1 fun known => known.getD 0 + entry.2)
        ledger.amounts } := by
  induction entries generalizing ledger with
  | nil => rfl
  | cons head rest ih => exact ih (ledger.addAmount head.1 head.2)

theorem tables_foldl_addSpans (entries : List (String × SpanSet)) (ledger : Ledger) :
    entries.foldl (fun sum entry => sum.addSpans entry.1 entry.2.spans) ledger = { ledger with
      ranges := entries.foldl
        (fun sum entry => sum.alter entry.1 fun known => (known.getD .empty).union entry.2)
        ledger.ranges } := by
  induction entries generalizing ledger with
  | nil => rfl
  | cons head rest ih => exact ih (ledger.addSpans head.1 head.2.spans)

theorem amounts_merge (first second : Ledger) (name : String) :
    (first.merge second).amounts.get? name =
      (first.amounts.get? name).merge (· + ·) (second.amounts.get? name) := by
  have folded := Table.get?_foldl_alter second.amounts.sorted first.amounts
    (fun count known => known.getD 0 + count) name
  rw [merge, tables_foldl_addSpans, tables_foldl_addAmount]
  dsimp only
  rw [folded]
  show (second.amounts.get? name).elim _ _ = _
  cases first.amounts.get? name <;> cases second.amounts.get? name <;> simp

theorem ranges_merge (first second : Ledger) (name : String) :
    (first.merge second).ranges.get? name =
      (first.ranges.get? name).merge SpanSet.union (second.ranges.get? name) := by
  have folded := Table.get?_foldl_alter second.ranges.sorted first.ranges
    (fun set known => (known.getD .empty).union set) name
  rw [merge, tables_foldl_addSpans, tables_foldl_addAmount]
  dsimp only
  rw [folded]
  show (second.ranges.get? name).elim _ _ = _
  cases first.ranges.get? name <;> cases second.ranges.get? name <;> simp [SpanSet.empty_union]

theorem amount_merge (ledger other : Ledger) (name : String) :
    (ledger.merge other).amount name = ledger.amount name + other.amount name := by
  unfold amount
  rw [amounts_merge]
  cases ledger.amounts.get? name <;> cases other.amounts.get? name <;> simp

theorem mem_range_merge {number : UInt64} :
    number ∈ (ledger.merge other).range name ↔
      number ∈ ledger.range name ∨ number ∈ other.range name := by
  unfold range
  rw [ranges_merge]
  cases ledger.ranges.get? name <;> cases other.ranges.get? name <;>
    simp [SpanSet.mem_union, SpanSet.not_mem_empty]

theorem amounts_subtract (ledger other : Ledger) (name : String) :
    (ledger.subtract other).amounts.get? name =
      (other.amounts.get? name).elim (ledger.amounts.get? name) fun count =>
        (ledger.amounts.get? name).map fun known => spend known count :=
  Table.get?_foldl_adjust other.amounts.sorted ledger.amounts
    (fun count known => spend known count) name

theorem ranges_subtract (ledger other : Ledger) (name : String) :
    (ledger.subtract other).ranges.get? name =
      (other.ranges.get? name).elim (ledger.ranges.get? name) fun spans =>
        (ledger.ranges.get? name).map fun known => known.subtract spans :=
  Table.get?_foldl_adjust other.ranges.sorted ledger.ranges
    (fun spans known => known.subtract spans) name

theorem covered_amount (covers : ledger.contains other = true) {count : Int64}
    (needed : other.amounts.get? name = some count) : count ≤ 0 ∨ count ≤ ledger.amount name := by
  obtain ⟨amounts, _⟩ := Bool.and_eq_true_iff.mp covers
  exact of_decide_eq_true
    (List.all_eq_true.mp amounts (name, count) (Table.mem_entries_iff.mpr needed))

theorem amount_le_of_contains (covers : ledger.contains other = true)
    (offered : 0 ≤ ledger.amount name) : other.amount name ≤ ledger.amount name := by
  cases needed : other.amounts.get? name with
  | none =>
      rw [amount, needed, Option.getD_none]
      exact offered
  | some count =>
      have enough := covered_amount covers needed
      rw [amount, needed, Option.getD_some]
      exact enough.elim (Int64.le_trans · offered) id

theorem amount_subtract (covers : ledger.contains other = true) (offered : 0 ≤ ledger.amount name)
    (required : 0 ≤ other.amount name) :
    (ledger.subtract other).amount name = ledger.amount name - other.amount name := by
  have enough := amount_le_of_contains covers offered
  unfold amount at offered required enough ⊢
  rw [amounts_subtract]
  cases needed : other.amounts.get? name with
  | none => simp
  | some count =>
      rw [needed, Option.getD_some] at required enough
      cases found : ledger.amounts.get? name with
      | none =>
          -- Where nothing is offered, only a requirement of zero is covered.
          rw [found, Option.getD_none] at enough
          simp [Int64.le_antisymm enough required]
      | some known =>
          rw [found, Option.getD_some] at enough
          simp only [Option.elim_some, Option.map_some, Option.getD_some]
          exact spend_of_le required enough

theorem toInt_amount_subtract (covers : ledger.contains other = true)
    (offered : 0 ≤ ledger.amount name) (required : 0 ≤ other.amount name) :
    ((ledger.subtract other).amount name).toInt =
      (ledger.amount name).toInt - (other.amount name).toInt := by
  rw [amount_subtract covers offered required]
  exact toInt_sub_of_le required (amount_le_of_contains covers offered)

theorem nonneg_subtract (nonneg : ledger.Nonneg) (other : Ledger) :
    (ledger.subtract other).Nonneg := by
  intro name
  have known := nonneg name
  unfold amount at known ⊢
  rw [amounts_subtract]
  cases other.amounts.get? name with
  | none => exact known
  | some count =>
      cases ledger.amounts.get? name with
      | none => exact Int64.le_refl 0
      | some known => exact spend_nonneg known count

/-- What is covered is taken from the names that are offered. A requirement below zero counts as
covered, and taking it away adds to the amount, if 64 bits can hold the sum. -/
theorem amounts_subtract_of_nonneg (offered : 0 ≤ ledger.amount name) :
    (ledger.subtract other).amounts.get? name =
      (ledger.amounts.get? name).map fun known => spend known (other.amount name) := by
  rw [amounts_subtract, amount]
  cases needed : other.amounts.get? name with
  | some count => rfl
  | none =>
      cases found : ledger.amounts.get? name with
      | none => rfl
      | some known =>
          rw [amount, found, Option.getD_some] at offered
          exact congrArg some ((spend_of_le (Int64.le_refl 0) offered).trans (Int64.sub_zero _)).symm

theorem mem_range_subtract {number : UInt64} :
    number ∈ (ledger.subtract other).range name ↔
      number ∈ ledger.range name ∧ number ∉ other.range name := by
  unfold range
  rw [ranges_subtract]
  cases other.ranges.get? name with
  | none => simp [SpanSet.not_mem_empty]
  | some spans =>
      cases ledger.ranges.get? name with
      | none => simp [SpanSet.not_mem_empty]
      | some known => simp [SpanSet.mem_subtract]

theorem mem_range_of_contains {number : UInt64} (covers : ledger.contains other = true)
    (member : number ∈ other.range name) : number ∈ ledger.range name := by
  obtain ⟨_, ranges⟩ := Bool.and_eq_true_iff.mp covers
  unfold range at member ⊢
  cases needed : other.ranges.get? name with
  | none =>
      rw [needed, Option.getD_none] at member
      exact absurd member SpanSet.not_mem_empty
  | some spans =>
      rw [needed, Option.getD_some] at member
      have covered := List.all_eq_true.mp ranges (name, spans) (Table.mem_entries_iff.mpr needed)
      rcases Bool.or_eq_true_iff.mp covered with empty | wide
      · obtain ⟨span, present, _⟩ := member
        rw [SpanSet.isEmpty, List.isEmpty_iff] at empty
        rw [empty] at present
        contradiction
      · cases found : ledger.ranges.get? name with
        | none =>
            rw [found] at wide
            contradiction
        | some known =>
            rw [found] at wide
            exact SpanSet.mem_of_contains wide member

/-- A ledger covers another if it has enough of every amount and every number of each name. -/
theorem contains_iff : ledger.contains other = true ↔
    (∀ name, other.amount name ≤ 0 ∨ other.amount name ≤ ledger.amount name) ∧
      ∀ name number, number ∈ other.range name → number ∈ ledger.range name := by
  refine ⟨fun covers => ⟨fun name => ?_, fun name number => mem_range_of_contains covers⟩, ?_⟩
  · cases needed : other.amounts.get? name with
    | none => exact .inl (by rw [amount, needed, Option.getD_none]; exact Int64.le_refl 0)
    | some count =>
        have enough := covered_amount covers needed
        rwa [amount, needed, Option.getD_some]
  · rintro ⟨amounts, ranges⟩
    refine Bool.and_eq_true_iff.mpr ⟨List.all_eq_true.mpr ?_, List.all_eq_true.mpr ?_⟩
    · rintro ⟨name, count⟩ member
      have needed := Table.mem_entries_iff.mp member
      have enough := amounts name
      rw [amount, needed, Option.getD_some] at enough
      exact decide_eq_true enough
    · rintro ⟨name, spans⟩ member
      have needed := Table.mem_entries_iff.mp member
      have present := ranges name
      simp only [range, needed, Option.getD_some] at present
      refine Bool.or_eq_true_iff.mpr ?_
      cases isEmpty : spans.isEmpty with
      | true => exact .inl rfl
      | false =>
          obtain ⟨number, inSpans⟩ := SpanSet.exists_mem_of_not_isEmpty isEmpty
          cases found : ledger.ranges.get? name with
          | none =>
              rw [found] at present
              exact absurd (present number inSpans) SpanSet.not_mem_empty
          | some known =>
              rw [found] at present
              exact .inr (SpanSet.contains_iff.mpr present)

/-- What is left of a ledger covers nothing that the ledger did not. -/
theorem contains_of_subtract {needed : Ledger} (fits : ledger.contains other = true)
    (nonneg : other.Nonneg) (covers : (ledger.subtract other).contains needed = true) :
    ledger.contains needed = true := by
  obtain ⟨amounts, ranges⟩ := contains_iff.mp covers
  refine contains_iff.mpr ⟨fun name => ?_, fun name number member => ?_⟩
  · have enough := amounts name
    have taken := nonneg name
    unfold amount at enough taken ⊢
    rw [amounts_subtract] at enough
    cases consumed : other.amounts.get? name with
    | none =>
        rw [consumed] at enough
        exact enough
    | some count =>
        have covered := covered_amount fits consumed
        rw [consumed, Option.getD_some] at taken
        unfold amount at covered
        cases found : ledger.amounts.get? name with
        | none =>
            rw [consumed, found] at enough
            exact enough
        | some known =>
            rw [consumed, found] at enough
            rw [found] at covered
            simp only [Option.elim_some, Option.map_some, Option.getD_some, spend_eq]
              at enough covered ⊢
            -- What is taken lies between zero and what there is, so the difference does not wrap.
            grind
  · exact (mem_range_subtract.mp (ranges name number member)).1

end Ledger
end Convoy
