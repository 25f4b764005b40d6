import Convoy.Proofs.Ledger.Merging

/-!
# Ledgers as resources and back

A ledger is told to others as a list of resources, one for each name and kind. Flattened again, the
list has the same names with the same numbers, also where no number is left, and each amount as it
comes back from a float. So the way out and back loses nothing but what floats lose.
-/
namespace Convoy.Ledger

open Data

variable (ledger : Ledger) (name : String)

theorem foldl_add_scalar (entries : List (String × Int64)) :
    (entries.map fun (name, count) => Resource.scalar name (ofThousandths count)).foldl add ledger =
      { ledger with
        amounts := entries.foldl
          (fun sum entry => sum.alter entry.1 fun known =>
            known.getD 0 + thousandths (ofThousandths entry.2))
          ledger.amounts } := by
  have told := ledger.tables_foldl_addAmount
    (entries.map fun (name, count) => (name, thousandths (ofThousandths count)))
  rw [List.foldl_map, List.foldl_map] at told
  rw [List.foldl_map]
  exact told

theorem foldl_add_ranges (entries : List (String × SpanSet)) :
    (entries.map fun (name, set) => Resource.ranges name set.spans).foldl add ledger =
      { ledger with
        ranges := entries.foldl
          (fun sum entry => sum.alter entry.1 fun known => (known.getD .empty).union entry.2)
          ledger.ranges } := by
  rw [← tables_foldl_addSpans, List.foldl_map]
  rfl

theorem amounts_ofResources_toResources :
    (ofResources ledger.toResources).amounts.get? name =
      (ledger.amounts.get? name).map fun count => thousandths (ofThousandths count) := by
  have folded := Table.get?_foldl_alter ledger.amounts.sorted empty.amounts
    (fun count known => known.getD 0 + thousandths (ofThousandths count)) name
  rw [ofResources, toResources, List.foldl_append, foldl_add_scalar, foldl_add_ranges]
  refine folded.trans ?_
  show (ledger.amounts.get? name).elim _ _ = _
  cases ledger.amounts.get? name <;> simp [empty]

/-- A name without numbers is told as a resource without spans, which makes an entry again. -/
theorem ranges_ofResources_toResources :
    (ofResources ledger.toResources).ranges.get? name = ledger.ranges.get? name := by
  have folded := Table.get?_foldl_alter ledger.ranges.sorted empty.ranges
    (fun set known => (known.getD .empty).union set) name
  rw [ofResources, toResources, List.foldl_append, foldl_add_scalar, foldl_add_ranges]
  refine folded.trans ?_
  show (ledger.ranges.get? name).elim _ _ = _
  cases ledger.ranges.get? name <;> simp [empty, SpanSet.empty_union]

/-- Every amount comes back from the float that stands for it. -/
def IsExact : Prop :=
  ∀ name count, ledger.amounts.get? name = some count → thousandths (ofThousandths count) = count

/-- The resources of a ledger flatten to a ledger of the same names and the same numbers. It is the
ledger itself if and only if every amount comes back from the float that stands for it. -/
theorem restored_toResources :
    (∀ name, (ofResources ledger.toResources).ranges.get? name = ledger.ranges.get? name ∧
      (ofResources ledger.toResources).amounts.get? name =
        (ledger.amounts.get? name).map fun count => thousandths (ofThousandths count)) ∧
      (ofResources ledger.toResources = ledger ↔ ledger.IsExact) := by
  refine ⟨fun name => ⟨ledger.ranges_ofResources_toResources name,
    ledger.amounts_ofResources_toResources name⟩, fun restored name count found => ?_,
    fun exact => ?_⟩
  · have known := ledger.amounts_ofResources_toResources name
    rw [restored, found] at known
    exact (Option.some.inj known).symm
  · ext1
    case amounts name =>
      rw [amounts_ofResources_toResources]
      cases found : ledger.amounts.get? name with
      | none => rfl
      | some count => exact congrArg some (exact name count found)
    case ranges name =>
      exact ledger.ranges_ofResources_toResources name

/-- An amount that was used up, and a port range of which nothing is left. -/
example :
    let offer := (empty.add (.scalar "cpus" 0.9)).add (.ranges "ports" [⟨80, 90⟩, ⟨443, 443⟩])
    let used := (offer.add (.ranges "disks" [⟨1, 2⟩])).add (.scalar "mem" 0.001)
    let left := (offer.merge (empty.add (.scalar "mem" 448.5))).subtract used
    left.amounts.entries = [("cpus", 0), ("mem", 448499)] ∧
      left.ranges.entries.map (fun entry => (entry.1, entry.2.spans)) = [("ports", [])] ∧
      ofResources left.toResources = left := by
  decide +kernel

end Convoy.Ledger
