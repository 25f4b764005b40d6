import Convoy.Yaml.Document
import Convoy.Yaml.Lexer
import Convoy.Yaml.Scalar

/-!
# Reading YAML as data

The root of a text that lists things is a sequence. Aliases are replaced by what they stand for, as
often as they occur; depth and number of such steps are bounded.
-/
namespace Convoy.Yaml

open Data

/-- How deep collections may lie inside each other. -/
def depthLimit : Nat := 128

/-- How many aliases may be followed for every part of a document. -/
def aliasShare : Nat := 100

namespace Node

mutual

/-- The number of parts of a node: a scalar or an alias counts once, a collection at its start and at
its end. -/
def parts : Node → Nat
  | .sequence _ items => partsOfItems items + 2
  | .mapping _ entries => partsOfEntries entries + 2
  | _ => 1

def partsOfItems : List Node → Nat
  | [] => 0
  | item :: rest => parts item + partsOfItems rest

def partsOfEntries : List (Node × Node) → Nat
  | [] => 0
  | (key, value) :: rest => parts key + parts value + partsOfEntries rest

end

/-- A map key. A number selects a field only where it is written without a minus. -/
def key (node : Node) (datum : Datum) : Key :=
  match datum with
  | .text name => .text name
  | .int index =>
    let negative := match node with
      | .scalar _ _ text => text.startsWith "-"
      | _ => false
    if 0 ≤ index ∧ !negative then .position index.toNat else .other
  | _ => .other

end Node

namespace Document

variable (document : Document)

def find? (number : Nat) : Option Node :=
  let candidates := document.anchored.filter fun anchored => anchored.number == number
  let last := candidates.foldl (fun found anchored => max found anchored.start) 0
  (candidates.find? fun anchored => anchored.start == last).map (·.node)

/-- Follows an alias, for which one of a number of steps is left. -/
def follow : Node → StateT Nat Option Node
  | .alias number => fun left =>
    match left with
    | 0 => none
    | left + 1 => (document.find? number).map fun node => (node, left)
  | node => pure node

/-- A collection denotes a value only if it has no tag of the user's own. -/
def isForeign (tag : Option String) : Bool :=
  tag.any fun tag => tag.startsWith "!"

/-- What a node denotes, down to a depth. -/
def datum? : Nat → Node → StateT Nat Option Datum
  | 0, node => do
    match ← document.follow node with
    | .scalar tag plain text => StateT.lift (scalarDatum? tag plain text)
    | _ => failure
  | depth + 1, node => do
    match ← document.follow node with
    | .scalar tag plain text => StateT.lift (scalarDatum? tag plain text)
    | .sequence tag items =>
      if isForeign tag then failure
      return .list (← items.mapM (datum? depth))
    | .mapping tag entries =>
      if isForeign tag then failure
      let entries ← entries.mapM fun (key, value) => do
        let name ← document.follow key
        return (name.key (← datum? depth name), ← datum? depth value)
      return .map entries
    | .alias _ => failure

def items? : Option (List Datum) :=
  match document.root with
  | .sequence _ items =>
    ((items.mapM (document.datum? (depthLimit - 1))).run (aliasShare * document.root.parts)).map
      (·.1)
  | .scalar _ true "" => some []
  | _ => none

end Document

/-- The items that a text lists; absent if it lists none. -/
def items? (text : String) : Option (List Datum) := do
  match ← Document.ofTokens? (← tokens? text) with
  | some document => document.items?
  | none => some []

end Convoy.Yaml
