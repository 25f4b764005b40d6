import Convoy.Proofs.Ledger.Spans
import Mathlib.Data.List.Sort
import Mathlib.Data.Set.Basic

/-!
# Span sets compute what set terms denote

Whatever is built from the empty set by adding spans and taking sets away has one list of spans for
its members: in ascending order, none reversed, with a gap between any two. The same list comes out
of the plain way to compute it, which sorts all spans, joins neighbours and checks every step to a
number next to a bound, and no such step leaves the 64-bit range.
-/
namespace Convoy

/-- The order of spans by their first numbers, then by their last ones. -/
def Span.Before (a b : Span) : Prop :=
  a.first < b.first ∨ a.first = b.first ∧ a.last ≤ b.last

namespace Span.Before

instance : DecidableRel Span.Before := fun _ _ => inferInstanceAs (Decidable (_ ∨ _))

instance : Std.Total Span.Before where
  total a b := by
    simp only [Span.Before, UInt64.lt_iff_toNat_lt, UInt64.le_iff_toNat_le, ← UInt64.toNat_inj]
    omega

instance : IsTrans Span Span.Before where
  trans a b c first second := by
    simp only [Span.Before, UInt64.lt_iff_toNat_lt, UInt64.le_iff_toNat_le,
      ← UInt64.toNat_inj] at *
    omega

instance : Std.Antisymm Span.Before where
  antisymm a b first second := by
    cases a
    cases b
    simp only [Span.Before, UInt64.lt_iff_toNat_lt, UInt64.le_iff_toNat_le, ← UInt64.toNat_inj,
      Span.mk.injEq] at *
    omega

end Span.Before

/-- The number after a number, where 64 bits can hold it. -/
def successor? (number : UInt64) : Option UInt64 :=
  if number.toNat + 1 < UInt64.size then some (number + 1) else none

def predecessor? (number : UInt64) : Option UInt64 :=
  if number = 0 then none else some (number - 1)

/-- Whether a span overlaps or touches the one after it. The largest number stands for its
successor. -/
def Span.reaches (run next : Span) : Bool :=
  decide (next.first ≤ (successor? run.last).getD run.last)

/-- Joins a span with those that follow it in the order of spans, as far as they reach. -/
def joinFrom (run : Span) : List Span → List Span
  | [] => [run]
  | next :: rest =>
    if run.reaches next then
      joinFrom ⟨run.first, if run.last ≤ next.last then next.last else run.last⟩ rest
    else run :: joinFrom next rest

def joinAll : List Span → List Span
  | [] => []
  | first :: rest => joinFrom first rest

/-- Spans with one more behind them, sorted and joined; a reversed span is left out. -/
def insertSorting (span : Span) (spans : List Span) : List Span :=
  if span.last < span.first then spans
  else joinAll ((spans ++ [span]).mergeSort fun a b => decide (a.Before b))

/-- At the end of the 64-bit range the test is still the one on numbers. -/
theorem Span.reaches_iff (run next : Span) :
    run.reaches next = true ↔ next.first.toNat ≤ run.last.toNat + 1 := by
  have bound := next.first.toNat_lt
  simp only [Span.reaches, successor?, decide_eq_true_iff, UInt64.le_iff_toNat_le]
  split
  · rename_i inside
    have below : run.last < run.last + 1 := by
      rw [UInt64.lt_iff_toNat_lt, UInt64.toNat_add, UInt64.toNat_one]
      simp only [UInt64.size] at inside
      omega
    rw [Option.getD_some, toNat_add_one below]
  · rename_i outside
    simp only [UInt64.size] at outside
    rw [Option.getD_none]
    omega

theorem joinFrom_of_separated {run : Span} {rest : List Span}
    (separated : SeparatedFrom (run.last.toNat + 2) rest) : joinFrom run rest = run :: rest := by
  induction rest generalizing run with
  | nil => rfl
  | cons next rest ih =>
      obtain ⟨above, _, restSeparated⟩ := separated
      have apart : ¬ run.reaches next = true := by
        rw [Span.reaches_iff]
        omega
      rw [joinFrom, if_neg apart, ih restSeparated]

theorem joinFrom_eq_fuse {run : Span} {rest : List Span} (ordered : run.first ≤ run.last)
    (separated : SeparatedFrom run.first.toNat rest) : joinFrom run rest = fuse run rest := by
  induction rest generalizing run with
  | nil => rfl
  | cons next rest ih =>
      obtain ⟨above, nextOrdered, restSeparated⟩ := separated
      have runBelow := UInt64.le_iff_toNat_le.1 ordered
      have nextBelow := UInt64.le_iff_toNat_le.1 nextOrdered
      have notBehind : ¬ next.last.toNat + 1 < run.first.toNat := by omega
      unfold joinFrom fuse
      rw [if_neg notBehind]
      by_cases near : run.reaches next = true
      · have touching : ¬ run.last.toNat + 1 < next.first.toNat := by
          have := (run.reaches_iff next).mp near
          omega
        have cover : next.cover run =
            ⟨run.first, if run.last ≤ next.last then next.last else run.last⟩ := by
          unfold Span.cover
          simp only [Span.mk.injEq, ← UInt64.toNat_inj, UInt64.le_iff_toNat_le]
          constructor
          · split <;> omega
          · split <;> split <;> omega
        rw [if_pos near, if_neg touching, cover]
        refine ih ?_ (restSeparated.mono ?_)
        · show run.first ≤ if run.last ≤ next.last then next.last else run.last
          split
          · rename_i longer
            exact UInt64.le_trans ordered longer
          · exact ordered
        · show run.first.toNat ≤ next.last.toNat + 2
          omega
      · have apart : run.last.toNat + 1 < next.first.toNat := by
          rw [Span.reaches_iff] at near
          omega
        rw [if_neg near, if_pos apart, joinFrom_of_separated restSeparated]

namespace SeparatedFrom

variable {bound : Nat} {spans : List Span}

/-- A number is free between any two spans. -/
theorem pairwise_gap (separated : SeparatedFrom bound spans) :
    spans.Pairwise fun a b => a.last.toNat + 1 < b.first.toNat := by
  induction spans generalizing bound with
  | nil => exact .nil
  | cons known rest ih =>
      obtain ⟨_, _, restSeparated⟩ := separated
      refine List.pairwise_cons.mpr ⟨fun later member => ?_, ih restSeparated⟩
      have far := restSeparated.bound_le member
      omega

theorem pairwise_before (separated : SeparatedFrom bound spans) :
    spans.Pairwise Span.Before := by
  refine separated.pairwise_gap.imp_of_mem fun {a b} inA _ gap => .inl ?_
  have ordered := UInt64.le_iff_toNat_le.1 (separated.ordered_of_mem inA)
  rw [UInt64.lt_iff_toNat_lt]
  omega

end SeparatedFrom

theorem orderedInsert_first {span : Span} {rest : List Span}
    (first : ∀ later ∈ rest, span.Before later) :
    rest.orderedInsert Span.Before span = span :: rest := by
  cases rest with
  | nil => rfl
  | cons next rest => exact List.orderedInsert_cons_of_le _ rest (first next List.mem_cons_self)

theorem joinAll_orderedInsert {bound : Nat} {span : Span} {spans : List Span}
    (separated : SeparatedFrom bound spans) (ordered : span.first ≤ span.last) :
    joinAll (spans.orderedInsert Span.Before span) = fuse span spans := by
  induction spans generalizing bound with
  | nil => rfl
  | cons known rest ih =>
      obtain ⟨_, knownOrdered, restSeparated⟩ := separated
      have spanBelow := UInt64.le_iff_toNat_le.1 ordered
      have knownBelow := UInt64.le_iff_toNat_le.1 knownOrdered
      rw [List.orderedInsert_cons]
      by_cases before : span.Before known
      · rw [if_pos before]
        refine joinFrom_eq_fuse ordered ⟨?_, knownOrdered, restSeparated⟩
        simp only [Span.Before, UInt64.lt_iff_toNat_lt, ← UInt64.toNat_inj] at before
        omega
      · rw [if_neg before]
        simp only [Span.Before, UInt64.lt_iff_toNat_lt, UInt64.le_iff_toNat_le,
          ← UInt64.toNat_inj] at before
        show joinFrom known (rest.orderedInsert Span.Before span) = _
        unfold fuse
        by_cases apart : known.last.toNat + 1 < span.first.toNat
        · rw [if_pos apart, ← ih restSeparated]
          -- Whatever comes next, the span or one of the rest, is out of reach.
          cases placed : rest.orderedInsert Span.Before span with
          | nil =>
              have length := List.orderedInsert_length Span.Before rest span
              rw [placed] at length
              contradiction
          | cons next tail =>
              have member : next ∈ rest.orderedInsert Span.Before span := by
                rw [placed]
                exact List.mem_cons_self
              have far : ¬ known.reaches next = true := by
                rw [Span.reaches_iff]
                rcases (List.mem_orderedInsert _).mp member with rfl | later
                · omega
                · have := restSeparated.bound_le later
                  omega
              rw [joinFrom, if_neg far]
              rfl
        · have first : ∀ later ∈ rest, span.Before later := by
            intro later member
            have far := restSeparated.bound_le member
            exact .inl (UInt64.lt_iff_toNat_lt.mpr (by omega))
          have near : known.reaches span = true := by
            rw [Span.reaches_iff]
            omega
          have notBehind : ¬ span.last.toNat + 1 < known.first.toNat := by omega
          have cover : known.cover span =
              ⟨known.first, if known.last ≤ span.last then span.last else known.last⟩ := by
            have starts : known.first ≤ span.first := UInt64.le_iff_toNat_le.mpr (by omega)
            rw [Span.cover, if_pos starts]
          rw [if_neg apart, if_neg notBehind, orderedInsert_first first, joinFrom, if_pos near,
            cover]
          have whole := Span.ordered_cover knownOrdered ordered
          rw [cover] at whole
          refine joinFrom_eq_fuse whole (restSeparated.mono ?_)
          show known.first.toNat ≤ known.last.toNat + 2
          omega

/-- Sorting and joining adds a span as fusing does in one pass. -/
theorem insertSorting_eq (set : SpanSet) (span : Span) :
    insertSorting span set.spans = (set.insert span).spans := by
  unfold insertSorting SpanSet.insert
  by_cases ordered : span.first ≤ span.last
  · have sorted := set.separated.pairwise_before
    have places : (set.spans ++ [span]).mergeSort (fun a b => decide (a.Before b)) =
        set.spans.orderedInsert Span.Before span := by
      refine List.Perm.eq_of_pairwise' (List.pairwise_mergeSort' Span.Before _)
        (sorted.orderedInsert span _) ?_
      refine (List.mergeSort_perm _ _).trans ?_
      exact (List.perm_append_singleton _ _).trans (List.perm_orderedInsert _ _ _).symm
    rw [dif_pos ordered, if_neg (UInt64.not_lt.mpr ordered), places]
    exact joinAll_orderedInsert set.separated ordered
  · rw [dif_neg ordered, if_pos (UInt64.not_le.mp ordered)]

/-- What is left of a span before a hole, absent if a bound would leave the range. -/
def Span.before? (hole span : Span) : Option (List Span) :=
  if span.first < hole.first then
    (predecessor? hole.first).map fun last => [⟨span.first, last⟩]
  else some []

def Span.behind? (hole span : Span) : Option (List Span) :=
  if hole.last < span.last then
    (successor? hole.last).map fun first => [⟨first, span.last⟩]
  else some []

def Span.cut? (hole span : Span) : Option (List Span) :=
  if span.last < hole.first ∨ hole.last < span.first then some [span]
  else do return (← hole.before? span) ++ (← hole.behind? span)

def subtract? (spans : List Span) : List Span → Option (List Span)
  | [] => some spans
  | hole :: holes => do
    let left ← spans.mapM hole.cut?
    subtract? left.flatten holes

theorem predecessor?_of_lt {a b : UInt64} (below : a < b) : predecessor? b = some (b - 1) := by
  unfold predecessor?
  rw [if_neg]
  rintro rfl
  exact UInt64.not_lt_zero below

theorem successor?_of_lt {a b : UInt64} (below : a < b) : successor? a = some (a + 1) := by
  have bound := b.toNat_lt
  rw [UInt64.lt_iff_toNat_lt] at below
  unfold successor?
  rw [if_pos]
  simp only [UInt64.size]
  omega

/-- A bound is moved only towards a bound of the other span, so it never leaves the range. -/
theorem Span.cut?_eq (hole span : Span) : hole.cut? span = some (hole.cut span) := by
  have before : hole.before? span =
      some (if span.first < hole.first then [⟨span.first, hole.first - 1⟩] else []) := by
    unfold before?
    split
    · rename_i below
      rw [predecessor?_of_lt below]
      rfl
    · rfl
  have behind : hole.behind? span =
      some (if hole.last < span.last then [⟨hole.last + 1, span.last⟩] else []) := by
    unfold behind?
    split
    · rename_i below
      rw [successor?_of_lt below]
      rfl
    · rfl
  unfold cut? cut
  rw [before, behind]
  split <;> rfl

theorem mapM_cut? (hole : Span) (spans : List Span) :
    spans.mapM hole.cut? = some (spans.map hole.cut) := by
  induction spans with
  | nil => rfl
  | cons span rest ih =>
      rw [List.mapM_cons, hole.cut?_eq, ih]
      rfl

theorem subtract?_eq (set : SpanSet) (holes : List Span)
    (ordered : ∀ hole ∈ holes, hole.first ≤ hole.last) :
    subtract? set.spans holes = some (set.subtractAll holes ordered).spans := by
  induction holes generalizing set with
  | nil => rfl
  | cons hole rest ih =>
      rw [subtract?, mapM_cut?, SpanSet.subtractAll, ← ih]
      rfl

inductive SetTerm where
  | empty
  | insert (set : SetTerm) (span : Span)
  | subtract (set other : SetTerm)

namespace SetTerm

def eval : SetTerm → SpanSet
  | .empty => .empty
  | .insert set span => set.eval.insert span
  | .subtract set other => set.eval.subtract other.eval

/-- The list of spans by sorting, joining and checked steps. -/
def compute? : SetTerm → Option (List Span)
  | .empty => some []
  | .insert set span => return insertSorting span (← set.compute?)
  | .subtract set other => do subtract? (← set.compute?) (← other.compute?)

def members : SetTerm → Set UInt64
  | .empty => ∅
  | .insert set span => set.members ∪ {number | span.first ≤ number ∧ number ≤ span.last}
  | .subtract set other => set.members \ other.members

/-- A term's set has the members that it denotes, in the one list of spans that is in order and
leaves gaps, and computing that list step by step stays in range. -/
structure Represented (term : SetTerm) : Prop where
  computed : term.compute? = some term.eval.spans
  ordered : ∀ span ∈ term.eval.spans, span.first ≤ span.last
  gaps : term.eval.spans.Pairwise fun a b => a.last.toNat + 1 < b.first.toNat
  members : ∀ number, number ∈ term.eval ↔ number ∈ term.members

theorem compute?_eq (term : SetTerm) : term.compute? = some term.eval.spans := by
  induction term with
  | empty => rfl
  | insert set span ih =>
      rw [compute?, ih, eval, ← insertSorting_eq]
      rfl
  | subtract set other ih otherIh =>
      rw [compute?, ih, otherIh]
      exact subtract?_eq set.eval other.eval.spans _

theorem mem_eval (term : SetTerm) (number : UInt64) :
    number ∈ term.eval ↔ number ∈ term.members := by
  induction term with
  | empty => exact iff_of_false SpanSet.not_mem_empty (Set.notMem_empty number)
  | insert set span ih =>
      rw [eval, SpanSet.mem_insert, ih]
      rfl
  | subtract set other ih otherIh =>
      rw [eval, SpanSet.mem_subtract, ih, otherIh]
      rfl

theorem represented (term : SetTerm) : term.Represented where
  computed := term.compute?_eq
  ordered _ member := term.eval.separated.ordered_of_mem member
  gaps := term.eval.separated.pairwise_gap
  members := term.mem_eval

end SetTerm
end Convoy
