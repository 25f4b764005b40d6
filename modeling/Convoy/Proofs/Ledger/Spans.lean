import Convoy.Ledger.SpanSet

/-!
# Span sets as sets

A span set denotes the numbers that lie in one of its spans. Adding, taking away and containment
mean on spans what they mean on the sets.
-/
namespace Convoy

theorem toNat_add_one {a b : UInt64} (below : a < b) : (a + 1).toNat = a.toNat + 1 := by
  have bound := b.toNat_lt
  rw [UInt64.lt_iff_toNat_lt] at below
  rw [UInt64.toNat_add, UInt64.toNat_one]
  omega

theorem toNat_sub_one {a b : UInt64} (above : a < b) : (b - 1).toNat = b.toNat - 1 := by
  rw [UInt64.lt_iff_toNat_lt] at above
  rw [UInt64.toNat_sub_of_le, UInt64.toNat_one]
  rw [UInt64.le_iff_toNat_le, UInt64.toNat_one]
  omega

/-- The number lies in the span. -/
def Span.Has (span : Span) (number : UInt64) : Prop :=
  span.first ≤ number ∧ number ≤ span.last

/-- The number lies in one of the spans. -/
def Among (spans : List Span) (number : UInt64) : Prop :=
  ∃ span ∈ spans, span.Has number

instance : Membership UInt64 SpanSet where
  mem set number := Among set.spans number

variable {number : UInt64}

theorem among_nil : ¬ Among [] number := by
  rintro ⟨span, member, _⟩
  contradiction

theorem among_cons {span : Span} {rest : List Span} :
    Among (span :: rest) number ↔ span.Has number ∨ Among rest number := by
  simp only [Among, List.mem_cons, exists_eq_or_imp]

theorem among_append {first second : List Span} :
    Among (first ++ second) number ↔ Among first number ∨ Among second number := by
  simp only [Among, List.mem_append, or_and_right, exists_or]

namespace SeparatedFrom

variable {bound : Nat} {spans : List Span}

theorem bound_le (separated : SeparatedFrom bound spans) {span : Span} (member : span ∈ spans) :
    bound ≤ span.first.toNat := by
  induction spans generalizing bound with
  | nil => contradiction
  | cons known rest ih =>
      obtain ⟨above, ordered, restSeparated⟩ := separated
      have below := UInt64.le_iff_toNat_le.1 ordered
      rcases List.mem_cons.mp member with rfl | later
      · exact above
      · have far := ih restSeparated later
        omega

theorem bound_le_of_among (separated : SeparatedFrom bound spans) (among : Among spans number) :
    bound ≤ number.toNat := by
  obtain ⟨span, member, low, _⟩ := among
  exact Nat.le_trans (separated.bound_le member) (UInt64.le_iff_toNat_le.1 low)

/-- A span all of whose numbers are there lies in one span, for it cannot cross a gap. -/
theorem exists_covering (separated : SeparatedFrom bound spans) {needed : Span}
    (ordered : needed.first ≤ needed.last)
    (present : ∀ number, needed.Has number → Among spans number) :
    ∃ span ∈ spans, span.first ≤ needed.first ∧ needed.last ≤ span.last := by
  have first := present needed.first ⟨UInt64.le_refl _, ordered⟩
  induction spans generalizing bound with
  | nil => exact absurd first among_nil
  | cons known rest ih =>
      obtain ⟨_, _, restSeparated⟩ := separated
      have beyond {number : UInt64} (among : Among rest number) :
          known.last.toNat + 2 ≤ number.toNat :=
        restSeparated.bound_le_of_among among
      by_cases after : known.last < needed.first
      · -- The first span ends before the needed one begins, so all of it is among the rest.
        have later : ∀ number, needed.Has number → Among rest number := fun number has =>
          (among_cons.mp (present number has)).resolve_left fun inKnown =>
            UInt64.not_le.mpr after (UInt64.le_trans has.1 inKnown.2)
        obtain ⟨span, member, covers⟩ :=
          ih restSeparated later (later _ ⟨UInt64.le_refl _, ordered⟩)
        exact ⟨span, List.mem_cons_of_mem _ member, covers⟩
      · refine ⟨known, List.mem_cons_self, ?_, ?_⟩
        · rcases among_cons.mp first with inKnown | inRest
          · exact inKnown.1
          · have far := beyond inRest
            rw [UInt64.lt_iff_toNat_lt] at after
            omega
        · refine UInt64.not_lt.mp fun longer => ?_
          -- Otherwise the number behind the first span would be there, in the gap.
          have next := toNat_add_one longer
          have inGap : needed.Has (known.last + 1) := by
            simp only [Span.Has, UInt64.le_iff_toNat_le, UInt64.lt_iff_toNat_lt, next] at *
            omega
          rcases among_cons.mp (present _ inGap) with inKnown | inRest
          · have low := UInt64.le_iff_toNat_le.1 inKnown.2
            omega
          · have far := beyond inRest
            omega

/-- A span all of whose numbers are there starts no earlier than the first span, and ends with it if
it starts with it. -/
theorem head_covers {known needed : Span} {rest : List Span}
    (separated : SeparatedFrom bound (known :: rest)) (ordered : needed.first ≤ needed.last)
    (present : ∀ number, needed.Has number → Among (known :: rest) number) :
    known.first ≤ needed.first ∧ (needed.first = known.first → needed.last ≤ known.last) := by
  obtain ⟨span, member, low, high⟩ := separated.exists_covering ordered present
  obtain ⟨_, knownOrdered, restSeparated⟩ := separated
  rcases List.mem_cons.mp member with rfl | later
  · exact ⟨low, fun _ => high⟩
  · have far := restSeparated.bound_le later
    simp only [UInt64.le_iff_toNat_le] at knownOrdered low ⊢
    refine ⟨by omega, fun same => ?_⟩
    rw [same] at low
    omega

/-- Spans with gaps between them are told by the numbers that lie in them. -/
theorem eq_of_among {first second : List Span} {low : Nat} (separated : SeparatedFrom bound first)
    (other : SeparatedFrom low second)
    (same : ∀ number, Among first number ↔ Among second number) : first = second := by
  induction first generalizing second bound low with
  | nil =>
      cases second with
      | nil => rfl
      | cons span rest =>
          have start : span.Has span.first := ⟨UInt64.le_refl _, other.2.1⟩
          exact absurd ((same span.first).mpr (among_cons.mpr (.inl start))) among_nil
  | cons span rest ih =>
      cases second with
      | nil =>
          have start : span.Has span.first := ⟨UInt64.le_refl _, separated.2.1⟩
          exact absurd ((same span.first).mp (among_cons.mpr (.inl start))) among_nil
      | cons known later =>
          have there := other.head_covers separated.2.1 fun number has =>
            (same number).mp (among_cons.mpr (.inl has))
          have back := separated.head_covers other.2.1 fun number has =>
            (same number).mpr (among_cons.mpr (.inl has))
          have starts : span.first = known.first := UInt64.le_antisymm back.1 there.1
          have ends : span.last = known.last :=
            UInt64.le_antisymm (there.2 starts) (back.2 starts.symm)
          have equal : span = known := by
            cases span
            cases known
            simp_all
          subst equal
          obtain ⟨_, _, restSeparated⟩ := separated
          obtain ⟨_, _, laterSeparated⟩ := other
          -- A number behind the gap is in no part of the first span.
          have beyond {number : UInt64} (far : span.last.toNat + 2 ≤ number.toNat) :
              ¬ span.Has number := by
            rintro ⟨_, high⟩
            rw [UInt64.le_iff_toNat_le] at high
            omega
          rw [ih restSeparated laterSeparated fun number => ⟨fun among => ?_, fun among => ?_⟩]
          · refine (among_cons.mp ((same number).mp (among_cons.mpr (.inr among)))).resolve_left ?_
            exact beyond (restSeparated.bound_le_of_among among)
          · refine (among_cons.mp ((same number).mpr (among_cons.mpr (.inr among)))).resolve_left ?_
            exact beyond (laterSeparated.bound_le_of_among among)

end SeparatedFrom

theorem Span.ordered_cover {known span : Span} (knownOrdered : known.first ≤ known.last)
    (ordered : span.first ≤ span.last) :
    (known.cover span).first ≤ (known.cover span).last := by
  have knownBelow := UInt64.le_iff_toNat_le.1 knownOrdered
  have spanBelow := UInt64.le_iff_toNat_le.1 ordered
  unfold Span.cover
  dsimp only
  split <;> split <;> simp only [UInt64.le_iff_toNat_le] at * <;> omega

/-- Nothing lies between two spans that overlap or touch. -/
theorem Span.has_cover {known span : Span} (knownOrdered : known.first ≤ known.last)
    (ordered : span.first ≤ span.last) (above : span.first.toNat ≤ known.last.toNat + 1)
    (below : known.first.toNat ≤ span.last.toNat + 1) :
    (known.cover span).Has number ↔ known.Has number ∨ span.Has number := by
  have knownBelow := UInt64.le_iff_toNat_le.1 knownOrdered
  have spanBelow := UInt64.le_iff_toNat_le.1 ordered
  unfold Span.cover Span.Has
  dsimp only
  split <;> split <;> simp only [UInt64.le_iff_toNat_le] at * <;> omega

theorem among_fuse {bound : Nat} {span : Span} {spans : List Span}
    (separated : SeparatedFrom bound spans) (ordered : span.first ≤ span.last) :
    Among (fuse span spans) number ↔ span.Has number ∨ Among spans number := by
  induction spans generalizing bound span with
  | nil => rw [fuse, among_cons]
  | cons known rest ih =>
      obtain ⟨_, knownOrdered, restSeparated⟩ := separated
      unfold fuse
      split
      · rw [among_cons, ih restSeparated ordered, among_cons]
        exact or_left_comm
      · split
        · rw [among_cons]
        · rename_i reaches touches
          have covered : (known.cover span).Has number ↔ known.Has number ∨ span.Has number :=
            Span.has_cover knownOrdered ordered (Nat.not_lt.mp reaches) (Nat.not_lt.mp touches)
          rw [ih restSeparated (Span.ordered_cover knownOrdered ordered), covered, among_cons,
            or_assoc]
          exact or_left_comm

theorem among_cut {hole span : Span} :
    Among (hole.cut span) number ↔ span.Has number ∧ ¬ hole.Has number := by
  unfold Span.cut
  split
  · rename_i apart
    simp only [among_cons, among_nil, or_false, Span.Has, UInt64.lt_iff_toNat_lt,
      UInt64.le_iff_toNat_le] at apart ⊢
    omega
  · rename_i overlap
    simp only [not_or, UInt64.not_lt] at overlap
    rw [among_append]
    -- The parts before and after the hole are told apart, and each is there or empty.
    have left : Among (if span.first < hole.first then [⟨span.first, hole.first - 1⟩] else [])
        number ↔ span.first ≤ number ∧ number < hole.first := by
      split
      · rename_i before
        simp only [among_cons, among_nil, or_false, Span.Has, UInt64.le_iff_toNat_le,
          toNat_sub_one before, UInt64.lt_iff_toNat_lt] at before ⊢
        omega
      · rename_i inside
        refine iff_of_false among_nil ?_
        simp only [UInt64.lt_iff_toNat_lt, UInt64.le_iff_toNat_le] at inside ⊢
        omega
    have right : Among (if hole.last < span.last then [⟨hole.last + 1, span.last⟩] else [])
        number ↔ hole.last < number ∧ number ≤ span.last := by
      split
      · rename_i beyond
        simp only [among_cons, among_nil, or_false, Span.Has, UInt64.le_iff_toNat_le,
          toNat_add_one beyond, UInt64.lt_iff_toNat_lt] at beyond ⊢
        omega
      · rename_i inside
        refine iff_of_false among_nil ?_
        simp only [UInt64.lt_iff_toNat_lt, UInt64.le_iff_toNat_le] at inside ⊢
        omega
    rw [left, right]
    simp only [Span.Has, UInt64.lt_iff_toNat_lt, UInt64.le_iff_toNat_le] at overlap ⊢
    omega

theorem among_cutAll {hole : Span} {spans : List Span} :
    Among (cutAll hole spans) number ↔ Among spans number ∧ ¬ hole.Has number := by
  induction spans with
  | nil => simp only [cutAll, List.flatMap_nil, among_nil, false_and]
  | cons span rest ih =>
      have rest_iff : Among (rest.flatMap hole.cut) number ↔ _ := ih
      rw [cutAll, List.flatMap_cons, among_append, among_cut, rest_iff, among_cons]
      exact or_and_right.symm

namespace SpanSet

theorem mem_insert {set : SpanSet} {span : Span} :
    number ∈ set.insert span ↔ number ∈ set ∨ span.Has number := by
  unfold insert
  split
  · rename_i ordered
    exact (among_fuse set.separated ordered).trans or_comm
  · rename_i reversed
    refine (or_iff_left fun ⟨low, high⟩ => reversed ?_).symm
    exact UInt64.le_trans low high

theorem among_subtractAll (set : SpanSet) (spans : List Span)
    (ordered : ∀ span ∈ spans, span.first ≤ span.last) :
    number ∈ set.subtractAll spans ordered ↔ number ∈ set ∧ ¬ Among spans number := by
  induction spans generalizing set with
  | nil => simp only [subtractAll, among_nil, not_false_eq_true, and_true]
  | cons span rest ih =>
      rw [subtractAll, ih, among_cons, not_or, ← and_assoc]
      exact and_congr_left fun _ => among_cutAll

theorem mem_subtract {set other : SpanSet} :
    number ∈ set.subtract other ↔ number ∈ set ∧ number ∉ other :=
  set.among_subtractAll other.spans _

theorem not_mem_empty : number ∉ SpanSet.empty :=
  among_nil

theorem mem_of_contains {set other : SpanSet} (covers : set.contains other = true)
    (member : number ∈ other) : number ∈ set := by
  obtain ⟨needed, present, low, high⟩ := member
  obtain ⟨span, found, wide⟩ := List.any_eq_true.mp (List.all_eq_true.mp covers needed present)
  obtain ⟨below, above⟩ := of_decide_eq_true wide
  exact ⟨span, found, UInt64.le_trans below low, UInt64.le_trans high above⟩

theorem contains_iff {set other : SpanSet} :
    set.contains other = true ↔ ∀ number, number ∈ other → number ∈ set := by
  refine ⟨fun covers number => mem_of_contains covers, fun present => ?_⟩
  refine List.all_eq_true.mpr fun needed member => ?_
  obtain ⟨span, found, wide⟩ := set.separated.exists_covering
    (other.separated.ordered_of_mem member) fun number has => present number ⟨needed, member, has⟩
  exact List.any_eq_true.mpr ⟨span, found, decide_eq_true wide⟩

theorem exists_mem_of_not_isEmpty {set : SpanSet} (some : set.isEmpty = false) :
    ∃ number, number ∈ set := by
  obtain ⟨spans, separated⟩ := set
  cases spans with
  | nil => contradiction
  | cons span rest => exact ⟨span.first, span, List.mem_cons_self, UInt64.le_refl _, separated.2.1⟩

@[ext]
theorem ext {set other : SpanSet} (same : ∀ number, number ∈ set ↔ number ∈ other) :
    set = other := by
  obtain ⟨spans, separated⟩ := set
  obtain ⟨known, knownSeparated⟩ := other
  have equal : spans = known := separated.eq_of_among knownSeparated same
  subst equal
  rfl

theorem mem_insertAll {set : SpanSet} {spans : List Span} :
    number ∈ set.insertAll spans ↔ number ∈ set ∨ Among spans number := by
  induction spans generalizing set with
  | nil => simp only [insertAll, List.foldl_nil, among_nil, or_false]
  | cons span rest ih =>
      rw [insertAll, List.foldl_cons, ← insertAll, ih, mem_insert, among_cons, or_assoc]

/-- The numbers that are in one of two sets. -/
def union (set other : SpanSet) : SpanSet :=
  set.insertAll other.spans

theorem mem_union {set other : SpanSet} :
    number ∈ set.union other ↔ number ∈ set ∨ number ∈ other :=
  mem_insertAll

theorem empty_union (set : SpanSet) : empty.union set = set := by
  ext number
  rw [mem_union]
  exact or_iff_right not_mem_empty

instance : Std.Commutative union where
  comm set other := by
    ext number
    simp only [mem_union]
    exact or_comm

instance : Std.Associative union where
  assoc first second third := by
    ext number
    simp only [mem_union]
    exact or_assoc

end SpanSet
end Convoy
