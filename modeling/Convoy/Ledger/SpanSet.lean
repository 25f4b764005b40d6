import Convoy.Wire.Resource
import Convoy.Decimal.Notation

/-!
# Span sets

A set of 64-bit naturals, kept as spans in ascending order with a gap between any two. The form is
part of the type, so that a set has one representation.
-/
namespace Convoy

namespace Span

/-- The least span that covers two. -/
def cover (a b : Span) : Span where
  first := if a.first ≤ b.first then a.first else b.first
  last := if a.last ≤ b.last then b.last else a.last

/-- The whole numbers that are in `span` and not in `hole`: none, one or two spans. -/
def cut (hole span : Span) : List Span :=
  if span.last < hole.first ∨ hole.last < span.first then [span]
  else
    (if span.first < hole.first then [⟨span.first, hole.first - 1⟩] else []) ++
      (if hole.last < span.last then [⟨hole.last + 1, span.last⟩] else [])

end Span

/-- Spans from `bound` on, none of them reversed, each starting above a gap. -/
def SeparatedFrom (bound : Nat) : List Span → Prop
  | [] => True
  | span :: rest =>
    bound ≤ span.first.toNat ∧ span.first ≤ span.last ∧ SeparatedFrom (span.last.toNat + 2) rest

namespace SeparatedFrom

variable {bound low high : Nat} {spans : List Span}

theorem mono (lowered : low ≤ high) (separated : SeparatedFrom high spans) :
    SeparatedFrom low spans := by
  cases spans with
  | nil => trivial
  | cons span rest => exact ⟨Nat.le_trans lowered separated.1, separated.2⟩

theorem ordered_of_mem (separated : SeparatedFrom bound spans) {span : Span}
    (member : span ∈ spans) : span.first ≤ span.last := by
  induction spans generalizing bound with
  | nil => cases member
  | cons known rest ih =>
    rcases List.mem_cons.1 member with rfl | later
    · exact separated.2.1
    · exact ih separated.2.2 later

end SeparatedFrom

/-- Adds one span, fused with all spans that it overlaps or touches. -/
def fuse (span : Span) : List Span → List Span
  | [] => [span]
  | known :: rest =>
    if known.last.toNat + 1 < span.first.toNat then known :: fuse span rest
    else if span.last.toNat + 1 < known.first.toNat then span :: known :: rest
    else fuse (known.cover span) rest

theorem separatedFrom_fuse {bound : Nat} {span : Span} {spans : List Span}
    (separated : SeparatedFrom bound spans) (above : bound ≤ span.first.toNat)
    (ordered : span.first ≤ span.last) : SeparatedFrom bound (fuse span spans) := by
  induction spans generalizing bound span with
  | nil => exact ⟨above, ordered, trivial⟩
  | cons known rest ih =>
    obtain ⟨knownAbove, knownOrdered, restSeparated⟩ := separated
    unfold fuse
    split
    · exact ⟨knownAbove, knownOrdered, ih restSeparated (by omega) ordered⟩
    · split
      · exact ⟨above, ordered, by omega, knownOrdered, restSeparated⟩
      · have knownBelow := UInt64.le_iff_toNat_le.1 knownOrdered
        have spanBelow := UInt64.le_iff_toNat_le.1 ordered
        refine ih (restSeparated.mono (by omega)) ?_ ?_
        · show bound ≤ (if known.first ≤ span.first then known.first else span.first).toNat
          split <;> assumption
        · show (if known.first ≤ span.first then known.first else span.first) ≤
            (if known.last ≤ span.last then span.last else known.last)
          split <;> split <;> simp_all only [UInt64.le_iff_toNat_le] <;> omega

/-- The spans that are left of `spans` when one is taken away. -/
def cutAll (hole : Span) (spans : List Span) : List Span :=
  spans.flatMap hole.cut

theorem separatedFrom_cutAll {bound : Nat} {hole : Span} {spans : List Span}
    (separated : SeparatedFrom bound spans) (ordered : hole.first ≤ hole.last) :
    SeparatedFrom bound (cutAll hole spans) := by
  induction spans generalizing bound with
  | nil => trivial
  | cons span rest ih =>
    obtain ⟨above, spanOrdered, restSeparated⟩ := separated
    have later := ih restSeparated
    have spanBelow := UInt64.le_iff_toNat_le.1 spanOrdered
    have holeBelow := UInt64.le_iff_toNat_le.1 ordered
    show SeparatedFrom bound (hole.cut span ++ cutAll hole rest)
    unfold Span.cut
    split
    · exact ⟨above, spanOrdered, later⟩
    · rename_i overlap
      simp only [not_or, UInt64.not_lt, UInt64.le_iff_toNat_le] at overlap
      have one : (1 : UInt64).toNat = 1 := rfl
      split <;> rename_i leftPart <;> split <;> rename_i rightPart <;>
        simp only [UInt64.lt_iff_toNat_lt] at leftPart rightPart
      · have stepDown : (hole.first - 1).toNat = hole.first.toNat - 1 := by
          rw [UInt64.toNat_sub_of_le _ _ (by rw [UInt64.le_iff_toNat_le, one]; omega), one]
        have stepUp : (hole.last + 1).toNat = hole.last.toNat + 1 := by
          have := span.last.toNat_lt
          rw [UInt64.toNat_add, one]; omega
        refine ⟨above, ?_, ?_, ?_, later⟩
        · show span.first ≤ hole.first - 1
          rw [UInt64.le_iff_toNat_le, stepDown]; omega
        · show (hole.first - 1).toNat + 2 ≤ (hole.last + 1).toNat
          omega
        · show hole.last + 1 ≤ span.last
          rw [UInt64.le_iff_toNat_le, stepUp]; omega
      · have stepDown : (hole.first - 1).toNat = hole.first.toNat - 1 := by
          rw [UInt64.toNat_sub_of_le _ _ (by rw [UInt64.le_iff_toNat_le, one]; omega), one]
        refine ⟨above, ?_, later.mono ?_⟩
        · show span.first ≤ hole.first - 1
          rw [UInt64.le_iff_toNat_le, stepDown]; omega
        · show (hole.first - 1).toNat + 2 ≤ span.last.toNat + 2
          omega
      · have stepUp : (hole.last + 1).toNat = hole.last.toNat + 1 := by
          have := span.last.toNat_lt
          rw [UInt64.toNat_add, one]; omega
        refine ⟨?_, ?_, later⟩
        · show bound ≤ (hole.last + 1).toNat
          omega
        · show hole.last + 1 ≤ span.last
          rw [UInt64.le_iff_toNat_le, stepUp]; omega
      · exact later.mono (by omega)

/-- A set of naturals below `2 ^ 64`. -/
structure SpanSet where
  spans : List Span
  separated : SeparatedFrom 0 spans

namespace SpanSet

def empty : SpanSet where
  spans := []
  separated := trivial

instance : Inhabited SpanSet := ⟨empty⟩

instance : DecidableEq SpanSet := fun a b =>
  if same : a.spans = b.spans then isTrue (by cases a; cases b; cases same; rfl)
  else isFalse fun equal => same (equal ▸ rfl)

/-- The set and all members of a span; a reversed span has none. -/
def insert (set : SpanSet) (span : Span) : SpanSet :=
  if ordered : span.first ≤ span.last then
    ⟨fuse span set.spans, separatedFrom_fuse set.separated (Nat.zero_le _) ordered⟩
  else set

def insertAll (set : SpanSet) (spans : List Span) : SpanSet :=
  spans.foldl insert set

def ofSpans (spans : List Span) : SpanSet :=
  empty.insertAll spans

/-- The members of `set` that are in none of the spans. -/
def subtractAll (set : SpanSet) :
    (spans : List Span) → (∀ span ∈ spans, span.first ≤ span.last) → SpanSet
  | [], _ => set
  | span :: rest, ordered =>
    subtractAll
      ⟨cutAll span set.spans, separatedFrom_cutAll set.separated (ordered span List.mem_cons_self)⟩
      rest fun span member => ordered span (List.mem_cons_of_mem _ member)

def subtract (set other : SpanSet) : SpanSet :=
  set.subtractAll other.spans fun _ member => other.separated.ordered_of_mem member

/-- Whether every member of `other` is in the set: each of its spans lies in one span of the set. -/
def contains (set other : SpanSet) : Bool :=
  other.spans.all fun needed =>
    set.spans.any fun span => decide (span.first ≤ needed.first ∧ needed.last ≤ span.last)

def count (set : SpanSet) : Nat :=
  set.spans.foldr (fun span others => span.last.toNat - span.first.toNat + 1 + others) 0

def isEmpty (set : SpanSet) : Bool :=
  set.spans.isEmpty

/-- The set for people, as in `[80-80, 443-445]`. -/
def text (set : SpanSet) : String :=
  let spanText (span : Span) : String :=
    Decimal.integerText span.first.toNat ++ "-" ++ Decimal.integerText span.last.toNat
  "[" ++ String.intercalate ", " (set.spans.map spanText) ++ "]"

end SpanSet
end Convoy
