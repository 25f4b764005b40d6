import Convoy.Proofs.Ledger.SetTerms
import Mathlib.Data.FinEnum
import Mathlib.Data.Set.Card
import Mathlib.Order.Interval.Finset.Nat

/-!
# Questions about span sets

Whether one set contains another, whether two are equal, whether one is empty and how many members
it has are all read off the stored spans. For the sets that set terms build the answers are those
for the sets that the terms denote. Counting in 64 bits, span after span, gives the number of
members wherever 64 bits can hold it, and nothing otherwise.
-/
namespace Convoy

/-- How many numbers a span has that is not reversed. -/
def Span.width (span : Span) : Nat :=
  span.last.toNat - span.first.toNat + 1

theorem SpanSet.count_eq_sum (set : SpanSet) : set.count = (set.spans.map Span.width).sum := by
  rw [List.sum_eq_foldr, List.foldr_map]
  rfl

theorem Span.ncard_has {span : Span} (ordered : span.first ≤ span.last) :
    {number | span.Has number}.ncard = span.width := by
  have ends := UInt64.le_iff_toNat_le.1 ordered
  have image : UInt64.toNat '' {number | span.Has number} =
      Finset.Icc span.first.toNat span.last.toNat := by
    ext n
    simp only [Set.mem_image, Set.mem_ofPred_eq, Span.Has, UInt64.le_iff_toNat_le,
      Finset.coe_Icc, Set.mem_Icc]
    constructor
    · rintro ⟨number, inside, rfl⟩
      exact inside
    · rintro ⟨low, high⟩
      have fits : n < 2 ^ 64 := Nat.lt_of_le_of_lt high span.last.toNat_lt
      refine ⟨UInt64.ofNat n, ?_, UInt64.toNat_ofNat_of_lt' fits⟩
      rw [UInt64.toNat_ofNat_of_lt' fits]
      exact ⟨low, high⟩
  have injective : Function.Injective UInt64.toNat := fun _ _ => UInt64.toNat_inj.mp
  rw [← Set.ncard_image_of_injective _ injective, image, Set.ncard_coe_finset, Nat.card_Icc, width]
  omega

/-- The widths of spans with gaps between them add up, for no number is counted twice. -/
theorem SeparatedFrom.ncard_among {bound : Nat} {spans : List Span}
    (separated : SeparatedFrom bound spans) :
    {number | Among spans number}.ncard = (spans.map Span.width).sum := by
  induction spans generalizing bound with
  | nil => simp [among_nil]
  | cons span rest ih =>
      obtain ⟨_, ordered, restSeparated⟩ := separated
      have parts : {number | Among (span :: rest) number} =
          {number | span.Has number} ∪ {number | Among rest number} := by
        ext number
        exact among_cons
      have apart : Disjoint {number | span.Has number} {number | Among rest number} := by
        refine Set.disjoint_left.mpr fun number inside later => ?_
        have far := restSeparated.bound_le_of_among later
        have near := UInt64.le_iff_toNat_le.1 inside.2
        omega
      rw [parts, Set.ncard_union_eq apart, Span.ncard_has ordered, ih restSeparated,
        List.map_cons, List.sum_cons]

theorem SpanSet.count_eq_ncard (set : SpanSet) : set.count = {number | number ∈ set}.ncard :=
  set.count_eq_sum.trans set.separated.ncard_among.symm

/-- A sum, absent where 64 bits cannot hold it. -/
def sum? (a b : UInt64) : Option UInt64 :=
  if a.toNat + b.toNat < UInt64.size then some (a + b) else none

/-- The width of a span in 64 bits; the span of all numbers is too wide. -/
def Span.width? (span : Span) : Option UInt64 :=
  if span.last < span.first then none else successor? (span.last - span.first)

def addWidth? (counted : UInt64) (span : Span) : Option UInt64 := do
  sum? counted (← span.width?)

/-- The widths of spans, added up from the first to the last. -/
def sumWidths? (spans : List Span) : Option UInt64 :=
  spans.foldlM addWidth? 0

theorem sum?_eq_some {a b total : UInt64} :
    sum? a b = some total ↔ total.toNat = a.toNat + b.toNat := by
  have bound := total.toNat_lt
  unfold sum?
  split
  · rename_i fits
    simp only [UInt64.size] at fits
    rw [Option.some_inj, ← UInt64.toNat_inj, UInt64.toNat_add, Nat.mod_eq_of_lt fits]
    exact eq_comm
  · rename_i exceeds
    simp only [UInt64.size] at exceeds
    simp only [reduceCtorEq, false_iff]
    omega

theorem Span.width?_eq_some {span : Span} (ordered : span.first ≤ span.last) {width : UInt64} :
    span.width? = some width ↔ width.toNat = span.width := by
  have difference := UInt64.toNat_sub_of_le _ _ ordered
  have step : span.width? = sum? (span.last - span.first) 1 := by
    unfold width?
    rw [if_neg (UInt64.not_lt.mpr ordered)]
    rfl
  rw [step, sum?_eq_some, difference, UInt64.toNat_one, Span.width]

theorem addWidth?_eq_some {counted total : UInt64} {span : Span}
    (ordered : span.first ≤ span.last) :
    addWidth? counted span = some total ↔ total.toNat = counted.toNat + span.width := by
  simp only [addWidth?, Option.bind_eq_bind, Option.bind_eq_some_iff, sum?_eq_some,
    Span.width?_eq_some ordered]
  constructor
  · rintro ⟨width, widthEq, totalEq⟩
    omega
  · intro totalEq
    have bound := total.toNat_lt
    have fits : span.width < 2 ^ 64 := by omega
    have widthEq := UInt64.toNat_ofNat_of_lt' fits
    exact ⟨_, widthEq, by omega⟩

theorem foldlM_addWidth?_eq_some {spans : List Span} {counted total : UInt64}
    (ordered : ∀ span ∈ spans, span.first ≤ span.last) :
    spans.foldlM addWidth? counted = some total ↔
      total.toNat = counted.toNat + (spans.map Span.width).sum := by
  induction spans generalizing counted with
  | nil => exact Option.some_inj.trans (eq_comm.trans UInt64.toNat_inj.symm)
  | cons span rest ih =>
      obtain ⟨spanOrdered, restOrdered⟩ := List.forall_mem_cons.mp ordered
      simp only [List.foldlM_cons, Option.bind_eq_bind, Option.bind_eq_some_iff,
        addWidth?_eq_some spanOrdered, ih restOrdered, List.map_cons, List.sum_cons]
      constructor
      · rintro ⟨sum, sumEq, totalEq⟩
        omega
      · -- What fits in the end fits after every span.
        intro totalEq
        have bound := total.toNat_lt
        have fits : counted.toNat + span.width < 2 ^ 64 := by omega
        have sumEq := UInt64.toNat_ofNat_of_lt' fits
        exact ⟨_, sumEq, by omega⟩

theorem SpanSet.sumWidths?_eq_some (set : SpanSet) (total : UInt64) :
    sumWidths? set.spans = some total ↔ total.toNat = set.count := by
  rw [sumWidths?, foldlM_addWidth?_eq_some fun _ member => set.separated.ordered_of_mem member,
    UInt64.toNat_zero, Nat.zero_add, count_eq_sum]

/-- All numbers are one more than 64 bits can count. -/
example : sumWidths? (SpanSet.ofSpans [⟨0, 18446744073709551615⟩]).spans = none ∧
    sumWidths? (SpanSet.ofSpans [⟨1, 18446744073709551615⟩]).spans =
      some 18446744073709551615 := by
  decide

theorem SpanSet.isEmpty_iff {set : SpanSet} : set.isEmpty = true ↔ ∀ number, number ∉ set := by
  constructor
  · intro empty number member
    rw [isEmpty, List.isEmpty_iff] at empty
    obtain ⟨span, present, _⟩ := member
    rw [empty] at present
    contradiction
  · intro none
    cases found : set.isEmpty with
    | true => rfl
    | false =>
        obtain ⟨number, member⟩ := exists_mem_of_not_isEmpty found
        exact absurd member (none number)

namespace SetTerm

theorem setOf_mem_eval (term : SetTerm) : {number | number ∈ term.eval} = term.members := by
  ext number
  exact term.mem_eval number

/-- What is asked of the spans of two terms is answered for the sets that the terms denote. -/
structure Answered (term other : SetTerm) : Prop where
  contains : term.eval.contains other.eval = true ↔ other.members ⊆ term.members
  same : term.eval.spans = other.eval.spans ↔ term.members = other.members
  isEmpty : term.eval.isEmpty = true ↔ term.members = ∅
  count : term.eval.count = term.members.ncard
  /-- Counted in 64 bits, the members are as many or too many. -/
  counted : ∀ total, sumWidths? term.eval.spans = some total ↔
    total.toNat = term.members.ncard

theorem answered (term other : SetTerm) : term.Answered other where
  contains := by
    rw [SpanSet.contains_iff, ← term.setOf_mem_eval, ← other.setOf_mem_eval]
    rfl
  same := by
    rw [← term.setOf_mem_eval, ← other.setOf_mem_eval, Set.ext_iff]
    exact ⟨fun equal number => exists_congr fun _ => by rw [equal],
      fun members => term.eval.separated.eq_of_among other.eval.separated members⟩
  isEmpty := by
    rw [SpanSet.isEmpty_iff, ← term.setOf_mem_eval, Set.eq_empty_iff_forall_notMem]
    rfl
  count := by rw [SpanSet.count_eq_ncard, term.setOf_mem_eval]
  counted total := by
    rw [SpanSet.sumWidths?_eq_some, SpanSet.count_eq_ncard, term.setOf_mem_eval]

end SetTerm
end Convoy
