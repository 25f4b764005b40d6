import Convoy.Data.Table
import Convoy.Ledger.SpanSet

/-!
# Ledgers

A ledger sums resources by name, whatever their roles. Amounts are kept in whole thousandths, so
that `1.0 - 0.1` is exactly `0.9`; they are numbers of 64 bits, and sums and differences beyond that
wrap around. Ranges are kept as span sets. Item sets and texts are not counted.
-/
namespace Convoy

open Data

/-- An amount in thousandths, a half rounded away from zero; beyond 64 bits the nearest bound. -/
def thousandths (amount : Float) : Int64 :=
  let scaled := amount * 1000.0
  let whole := scaled.abs.toUInt64
  let count : Int := if 0.5 ≤ scaled.abs - whole.toFloat then whole.toNat + 1 else whole.toNat
  Int64.ofInt
    (if scaled < 0.0 then max (-count) Int64.minValue.toInt else min count Int64.maxValue.toInt)

def ofThousandths (count : Int64) : Float :=
  Float.ofInt count.toInt / 1000.0

structure Ledger where
  amounts : Table Int64
  ranges : Table SpanSet
deriving DecidableEq

namespace Ledger

def empty : Ledger where
  amounts := .empty
  ranges := .empty

instance : Inhabited Ledger := ⟨empty⟩

def addAmount (ledger : Ledger) (name : String) (count : Int64) : Ledger :=
  { ledger with amounts := ledger.amounts.alter name fun known => known.getD 0 + count }

/-- Adds spans to the ranges of a name; no span at all still makes an entry. -/
def addSpans (ledger : Ledger) (name : String) (spans : List Span) : Ledger :=
  { ledger with
    ranges := ledger.ranges.alter name fun known => (known.getD .empty).insertAll spans }

def add (ledger : Ledger) (resource : Resource) : Ledger :=
  match resource.kind with
  | .scalar =>
    match resource.amount with
    | some amount => ledger.addAmount resource.name (thousandths amount)
    | none => ledger
  | .ranges => ledger.addSpans resource.name (resource.spans.getD [])
  | .set | .text => ledger

def ofResources (resources : List Resource) : Ledger :=
  resources.foldl add empty

def merge (ledger other : Ledger) : Ledger :=
  let amounts := other.amounts.entries.foldl
    (fun sum entry => sum.addAmount entry.1 entry.2) ledger
  other.ranges.entries.foldl (fun sum entry => sum.addSpans entry.1 entry.2.spans) amounts

/-- The thousandths of a name; a name without an amount has none. -/
def amount (ledger : Ledger) (name : String) : Int64 :=
  (ledger.amounts.get? name).getD 0

def contains (ledger required : Ledger) : Bool :=
  (required.amounts.entries.all fun (name, needed) =>
    decide (needed ≤ 0 ∨ needed ≤ ledger.amount name)) &&
  (required.ranges.entries.all fun (name, needed) =>
    needed.isEmpty || (ledger.ranges.get? name).any fun offered => offered.contains needed)

/-- What is left of an amount when a count is taken away; it does not fall below zero. -/
def spend (known count : Int64) : Int64 :=
  max (known - count) 0

/-- Takes every quantity of `consumed` away from the names that the ledger has. -/
def subtract (ledger consumed : Ledger) : Ledger where
  amounts := consumed.amounts.entries.foldl
    (fun kept (name, count) => kept.adjust name fun known => spend known count) ledger.amounts
  ranges := consumed.ranges.entries.foldl
    (fun kept (name, spans) => kept.adjust name fun known => known.subtract spans) ledger.ranges

def scalar? (ledger : Ledger) (name : String) : Option Float :=
  (ledger.amounts.get? name).map ofThousandths

def isEmpty (ledger : Ledger) : Bool :=
  ledger.amounts.isEmpty && ledger.ranges.isEmpty

/-- The ledger as resources in the default role: amounts first, then ranges, each by name. -/
def toResources (ledger : Ledger) : List Resource :=
  (ledger.amounts.entries.map fun (name, count) => Resource.scalar name (ofThousandths count)) ++
    ledger.ranges.entries.map fun (name, set) => Resource.ranges name set.spans

/-- The ledger for people, as in `cpus:0.9; ports:[80-80]`. -/
def text (ledger : Ledger) : String :=
  String.intercalate "; "
    ((ledger.amounts.entries.map fun (name, count) =>
        name ++ ":" ++ Decimal.plain (ofThousandths count)) ++
      ledger.ranges.entries.map fun (name, set) => name ++ ":" ++ set.text)

end Ledger
end Convoy
