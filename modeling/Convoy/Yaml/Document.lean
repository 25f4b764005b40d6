import Convoy.Yaml.Token

/-!
# YAML documents

A document is a tree of nodes. An alias stands for an anchored node by number; the node may lie
anywhere in the document, also around the alias itself.
-/
namespace Convoy.Yaml

/-- A node. A scalar remembers whether it was written plain. -/
inductive Node where
  | scalar (tag : Option String) (plain : Bool) (text : String)
  | sequence (tag : Option String) (items : List Node)
  | mapping (tag : Option String) (entries : List (Node × Node))
  | alias (number : Nat)
deriving Inhabited

/-- What stands where nothing is written. -/
def Node.nothing : Node :=
  .scalar none true ""

/-- A node under the number of its anchor. Of several under one number the one that starts last is
meant. -/
structure Anchored where
  number : Nat
  start : Nat
  node : Node

/-- The reading of a document: the tokens to come, what the tag handles stand for, and the anchors
met so far. -/
structure Composition where
  tokens : List Token
  expansions : List (String × String) := []
  names : List (String × Nat) := []
  started : Nat := 0
  anchored : List Anchored := []

/-- A step of reading a document; absent if the tokens do not form one. -/
abbrev Compose := StateT Composition Option

namespace Compose

def next : Compose Token := do
  return (← get).tokens.head?.getD .streamEnd

def skip : Compose Unit :=
  modify fun state => { state with tokens := state.tokens.drop 1 }

/-- Goes past a token if it is a certain one. -/
def accept (token : Token) : Compose Bool := do
  if (← next) = token then
    skip
    return true
  else return false

/-- What a node's anchor stands for from here on: its number and the place where it starts. -/
def startAnchor (name : String) : Compose (Nat × Nat) := do
  let state ← get
  let number := state.names.length
  let others := state.names.filter fun known => known.1 != name
  set { state with names := (name, number) :: others, started := state.started + 1 }
  return (number, state.started)

def endAnchor (anchor : Option (Nat × Nat)) (node : Node) : Compose Unit :=
  match anchor with
  | some (number, start) =>
    modify fun state => { state with anchored := ⟨number, start, node⟩ :: state.anchored }
  | none => pure ()

def expand (handle suffix : String) : Compose String := do
  if handle.isEmpty then return suffix
  match (← get).expansions.lookup handle with
  | some expansion => return expansion ++ suffix
  | none => failure

/-- The anchor and the tag before a node, in either order. -/
def properties : Compose (Option String × Option String) := do
  match ← next with
  | .anchor name =>
    skip
    match ← next with
    | .tag handle suffix =>
      skip
      return (some name, some (← expand handle suffix))
    | _ => return (some name, none)
  | .tag handle suffix =>
    skip
    match ← next with
    | .anchor name =>
      skip
      return (some name, some (← expand handle suffix))
    | _ => return (none, some (← expand handle suffix))
  | _ => return (none, none)

/-- A node, or nothing before one of some tokens. -/
def orNothing (ends : List Token) (read : Compose Node) : Compose Node := do
  if (← next) ∈ ends then return .nothing else read

end Compose

/-- Where a node stands: in a flow collection, in a block, or as the key or value of a block mapping,
where a sequence need not be indented. -/
inductive Place where
  | flow
  | block
  | entry
deriving DecidableEq

namespace Compose

mutual

def node (place : Place) : Nat → Compose Node
  | 0 => failure
  | fuel + 1 => do
    match ← next with
    | .alias name =>
      skip
      match (← get).names.lookup name with
      | some number => return .alias number
      | none => failure
    | _ =>
      let (name, tag) ← properties
      let anchor ← match name with
        | some name => some <$> startAnchor name
        | none => pure none
      let node ← content place (name.isSome || tag.isSome) tag fuel
      endAnchor anchor node
      return node

/-- A node behind its properties; with some, it may be left out. -/
def content (place : Place) (optional : Bool) (tag : Option String) : Nat → Compose Node
  | 0 => failure
  | fuel + 1 => do
    match ← next with
    | .blockEntry =>
      if place = .entry then return .sequence tag (← unindented fuel)
      else if optional then return .scalar tag true ""
      else failure
    | .scalar plain text =>
      skip
      return .scalar (if tag = some "!" then none else tag) plain text
    | .flowSequenceStart =>
      skip
      return .sequence tag (← flowItems true fuel)
    | .flowMappingStart =>
      skip
      return .mapping tag (← flowEntries true fuel)
    | .blockSequenceStart =>
      if place ≠ .flow then
        skip
        return .sequence tag (← blockItems fuel)
      else if optional then return .scalar tag true ""
      else failure
    | .blockMappingStart =>
      if place ≠ .flow then
        skip
        return .mapping tag (← blockEntries fuel)
      else if optional then return .scalar tag true ""
      else failure
    | _ => if optional then return .scalar tag true "" else failure

def blockItems : Nat → Compose (List Node)
  | 0 => failure
  | fuel + 1 => do
    if ← accept .blockEntry then
      let item ← orNothing [.blockEntry, .blockEnd] (node .block fuel)
      return item :: (← blockItems fuel)
    else if ← accept .blockEnd then return []
    else failure

/-- The items of a sequence that is not indented; nothing marks its end. -/
def unindented : Nat → Compose (List Node)
  | 0 => failure
  | fuel + 1 => do
    if ← accept .blockEntry then
      let item ← orNothing [.blockEntry, .key, .value, .blockEnd] (node .block fuel)
      return item :: (← unindented fuel)
    else return []

def blockEntries : Nat → Compose (List (Node × Node))
  | 0 => failure
  | fuel + 1 => do
    if ← accept .blockEnd then return []
    let ends := [.key, .value, .blockEnd]
    let key ← if ← accept .key then orNothing ends (node .entry fuel) else failure
    let value ← if ← accept .value then orNothing ends (node .entry fuel) else pure .nothing
    return (key, value) :: (← blockEntries fuel)

/-- The items of a flow sequence; an item may be a single entry of a mapping. -/
def flowItems (first : Bool) : Nat → Compose (List Node)
  | 0 => failure
  | fuel + 1 => do
    if ← accept .flowSequenceEnd then return []
    unless first do
      if !(← accept .flowEntry) then failure
    if ← accept .flowSequenceEnd then return []
    let item ←
      if ← accept .key then pure (.mapping none [← flowPair fuel])
      else node .flow fuel
    return item :: (← flowItems false fuel)

/-- A single entry of a mapping in a flow sequence, after the sign of its key. Where the key is left
out, so is the token behind it. -/
def flowPair : Nat → Compose (Node × Node)
  | 0 => failure
  | fuel + 1 => do
    let key ←
      if (← next) ∈ [Token.value, .flowEntry, .flowSequenceEnd] then
        skip
        pure .nothing
      else node .flow fuel
    let value ←
      if ← accept .value then orNothing [.flowEntry, .flowSequenceEnd] (node .flow fuel)
      else pure .nothing
    return (key, value)

def flowEntries (first : Bool) : Nat → Compose (List (Node × Node))
  | 0 => failure
  | fuel + 1 => do
    if ← accept .flowMappingEnd then return []
    unless first do
      if !(← accept .flowEntry) then failure
    if ← accept .flowMappingEnd then return []
    let entry ←
      if ← accept .key then
        let key ← orNothing [.value, .flowEntry, .flowMappingEnd] (node .flow fuel)
        let value ←
          if ← accept .value then orNothing [.flowEntry, .flowMappingEnd] (node .flow fuel)
          else pure .nothing
        pure (key, value)
      else pure (← node .flow fuel, .nothing)
    return entry :: (← flowEntries false fuel)

end

def directives (versioned : Bool) : Nat → Compose Unit
  | 0 => failure
  | fuel + 1 => do
    match ← next with
    | .version major minor =>
      if versioned ∨ major ≠ 1 ∨ (minor ≠ 1 ∧ minor ≠ 2) then failure
      skip
      directives true fuel
    | .tagPrefix handle expansion =>
      let state ← get
      if (state.expansions.lookup handle).isSome then failure
      skip
      modify fun state => { state with expansions := (handle, expansion) :: state.expansions }
      directives versioned fuel
    | _ => pure ()

def standardHandles : List (String × String) :=
  [("!", "!"), ("!!", "tag:yaml.org,2002:")]

/-- The root of the only document of a text; absent from a text without one. -/
def root (fuel : Nat) : Compose (Option Node) := do
  if (← next) = .streamEnd then return none
  let explicit := match ← next with
    | .version _ _ | .tagPrefix _ _ | .documentStart => true
    | _ => false
  if explicit then directives false fuel
  modify fun state => { state with expansions := state.expansions ++ standardHandles }
  if explicit then
    if !(← accept .documentStart) then failure
  let isEmpty := explicit && match ← next with
    | .version _ _ | .tagPrefix _ _ | .documentStart | .documentEnd | .streamEnd => true
    | _ => false
  if isEmpty then return some .nothing else return some (← node .block fuel)

/-- Goes past the signs that end a document; absent if more follows. -/
def ending : Nat → Compose Unit
  | 0 => failure
  | fuel + 1 => do
    if ← accept .documentEnd then ending fuel
    else if (← next) ≠ .streamEnd then failure

end Compose

/-- A document: its root, and the nodes that aliases stand for. -/
structure Document where
  root : Node
  anchored : List Anchored

/-- The document that tokens form: absent if they form none or several, and without a root if there
are none at all. -/
def Document.ofTokens? (tokens : List Token) : Option (Option Document) := do
  let fuel := 4 * tokens.length + 4
  let (root, state) ← (Compose.root fuel).run { tokens := tokens }
  let _ ← (Compose.ending fuel).run state
  return root.map fun root => ⟨root, state.anchored⟩

end Convoy.Yaml
