import Convoy.Yaml.Token

/-!
# From text to YAML tokens

A word is known to be a key only when the colon behind it is met. Until then every place where a key
could have started is remembered, one for each level of flow collections, and the tokens that make it
a key are put in afterwards.
-/
namespace Convoy.Yaml

/-- A place where a key may have started: the number of tokens before it, and whether nothing but a
key can stand there. -/
structure KeyPlace where
  tokens : Nat
  required : Bool
  index : Nat
  line : Nat
  column : Nat

/-- The state of reading tokens. `indents` holds the columns of the open block collections, the
innermost first; `keys` holds one entry for each level of flow collections and one for the block. -/
structure Lexer where
  cursor : Cursor
  tokens : Array Token := #[]
  indent : Int := -1
  indents : List Int := []
  keyAllowed : Bool := true
  keys : List (Option KeyPlace) := [none]

namespace Lexer

variable (lexer : Lexer)

def inFlow : Bool :=
  1 < lexer.keys.length

/-- The longest distance between the start of a key and its colon. -/
def keyReach : Nat := 1024

def emit (token : Token) : Lexer :=
  { lexer with tokens := lexer.tokens.push token }

def goTo (cursor : Cursor) : Lexer :=
  { lexer with cursor := cursor }

def allowKey (allowed : Bool) : Lexer :=
  { lexer with keyAllowed := allowed }

/-- Whether a key that started somewhere can still be one: it stands on this line, not too far
back. -/
def isLive (place : KeyPlace) : Bool :=
  place.line == lexer.cursor.line && lexer.cursor.index ≤ place.index + keyReach

/-- Forgets the places that are too far back; absent if a key had to start at one of them. -/
def dropStale : Option Lexer := do
  let keys ← lexer.keys.mapM fun key =>
    match key with
    | none => some none
    | some place =>
      if lexer.isLive place then some (some place) else if place.required then none else some none
  return { lexer with keys := keys }

/-- Forgets the place at this level; absent if a key had to start there. -/
def dropKey : Option Lexer :=
  match lexer.keys with
  | some place :: rest => if place.required then none else some { lexer with keys := none :: rest }
  | _ => some lexer

def saveKey : Option Lexer :=
  if lexer.keyAllowed then do
    let lexer ← lexer.dropKey
    let cursor := lexer.cursor
    let place : KeyPlace :=
      { tokens := lexer.tokens.size
        required := !lexer.inFlow && lexer.indent == (cursor.column : Int)
        index := cursor.index, line := cursor.line, column := cursor.column }
    return { lexer with keys := some place :: lexer.keys.drop 1 }
  else some lexer

/-- Opens a block collection at a column, unless one is open there; its token goes before the tokens
from a place on. -/
def openBlock (column : Nat) (token : Token) (place : Nat) : Lexer :=
  if lexer.inFlow || decide ((column : Int) ≤ lexer.indent) then lexer
  else
    { lexer with
      indent := column
      indents := lexer.indent :: lexer.indents
      tokens := lexer.tokens.insertIdxIfInBounds place token }

/-- Closes the block collections that are indented deeper than a column. -/
def closeBlocks (column : Int) : Lexer :=
  if lexer.inFlow then lexer
  else
    let rec close (indent : Int) : List Int → Array Token → Int × List Int × Array Token
      | [], tokens => (indent, [], tokens)
      | outer :: rest, tokens =>
        if column < indent then close outer rest (tokens.push .blockEnd)
        else (indent, outer :: rest, tokens)
    let (indent, indents, tokens) := close lexer.indent lexer.indents lexer.tokens
    { lexer with indent := indent, indents := indents, tokens := tokens }

/-- Goes past blanks, comments and line breaks to the next token. In a block, a new line may start a
key, and tabs do not indent. A byte order mark at the start of a line takes up a column. -/
def toToken : Nat → Lexer → Lexer
  | 0, lexer => lexer
  | fuel + 1, lexer =>
    let cursor := lexer.cursor
    let cursor := if cursor.column = 0 ∧ cursor.sees '\uFEFF' then cursor.skip 1 else cursor
    let tabs := lexer.inFlow || !lexer.keyAllowed
    let cursor := cursor.skipRun fun c => c = ' ' || (tabs && c = '\t')
    let cursor := if cursor.sees '#' then cursor.skipRun fun c => !isBreak c else cursor
    if cursor.atBreak then
      toToken fuel
        { lexer with cursor := cursor.skipBreak, keyAllowed := lexer.keyAllowed || !lexer.inFlow }
    else { lexer with cursor := cursor }

/-- The end of the text closes everything. -/
def finish : Option Lexer := do
  let lexer ← (lexer.closeBlocks (-1)).dropKey
  return lexer.emit .streamEnd

/-- A directive or document marker, which closes all blocks. -/
def topLevel (token : Token) (after : Cursor) : Option Lexer := do
  let lexer ← (lexer.closeBlocks (-1)).dropKey
  return ((lexer.emit token).goTo after).allowKey false

def openFlow (token : Token) : Option Lexer := do
  let lexer ← lexer.saveKey
  let lexer := { lexer with keys := none :: lexer.keys }
  return ((lexer.emit token).goTo (lexer.cursor.skip 1)).allowKey true

def closeFlow (token : Token) : Option Lexer := do
  let lexer ← lexer.dropKey
  let lexer := if lexer.inFlow then { lexer with keys := lexer.keys.drop 1 } else lexer
  return ((lexer.emit token).goTo (lexer.cursor.skip 1)).allowKey false

def flowEntry : Option Lexer := do
  let lexer ← lexer.dropKey
  return ((lexer.emit .flowEntry).goTo (lexer.cursor.skip 1)).allowKey true

/-- A block entry or a key with its own sign: in a block, only where a key may start. -/
def blockItem (opening token : Token) (keyAfter : Bool) : Option Lexer := do
  if !lexer.inFlow && !lexer.keyAllowed then none
  let lexer ← (lexer.openBlock lexer.cursor.column opening lexer.tokens.size).dropKey
  return ((lexer.emit token).goTo (lexer.cursor.skip 1)).allowKey keyAfter

/-- A colon: it makes a key of what started at the remembered place; without one it has to stand
where a key may start. -/
def value : Option Lexer := do
  match lexer.keys with
  | some place :: rest =>
    let lexer :=
      { lexer with tokens := lexer.tokens.insertIdxIfInBounds place.tokens .key
                   keys := none :: rest }
    let lexer := lexer.openBlock place.column .blockMappingStart place.tokens
    return ((lexer.emit .value).goTo (lexer.cursor.skip 1)).allowKey false
  | _ =>
    if !lexer.inFlow && !lexer.keyAllowed then none
    let lexer := lexer.openBlock lexer.cursor.column .blockMappingStart lexer.tokens.size
    return ((lexer.emit .value).goTo (lexer.cursor.skip 1)).allowKey (!lexer.inFlow)

/-- A token that may be, or begin, a key. -/
def keyLike (scan : Cursor → Option (Token × Cursor)) : Option Lexer := do
  let lexer ← lexer.saveKey
  let (token, after) ← scan lexer.cursor
  return ((lexer.emit token).goTo after).allowKey false

def quotedScalar (quote : Char) : Option Lexer :=
  lexer.keyLike fun cursor =>
    (scanQuoted quote cursor.fuel (cursor.skip 1) "").map fun (text, after) =>
      (.scalar false text, after)

def plainScalar : Option Lexer := do
  let lexer ← lexer.saveKey
  let (text, broken, after) ←
    scanPlain lexer.inFlow (lexer.indent + 1) lexer.cursor.fuel lexer.cursor "" {}
  return ((lexer.emit (.scalar true text)).goTo after).allowKey broken

def blockScalar (literal : Bool) : Option Lexer := do
  let lexer ← lexer.dropKey
  let (text, after) ← scanBlock literal lexer.indent lexer.cursor
  return ((lexer.emit (.scalar false text)).goTo after).allowKey true

/-- Whether a plain scalar can start with the next character. -/
def startsPlain (c : Char) : Bool :=
  let cursor := lexer.cursor
  !("-?:,[]\x7b\x7d#&*!|>'\"%@".contains c || c.toNat == 0x60 || cursor.isGapAhead 0) ||
    (c = '-' && !(cursor.ahead 1).any isBlank) ||
    (!lexer.inFlow && (c = '?' || c = ':') && !cursor.isGapAhead 1)

/-- Reads one token, and all that its place demands before it. -/
def step : Option Lexer := do
  let lexer ← (toToken lexer.cursor.fuel lexer).dropStale
  let lexer := lexer.closeBlocks lexer.cursor.column
  let cursor := lexer.cursor
  match cursor.next with
  | none => lexer.finish
  | some c =>
    if c = '%' ∧ cursor.column = 0 then
      let (token, after) ← scanDirective cursor
      lexer.topLevel token after
    else if cursor.seesMarker '-' then lexer.topLevel .documentStart (cursor.skip 3)
    else if cursor.seesMarker '.' then lexer.topLevel .documentEnd (cursor.skip 3)
    else if c = '[' then lexer.openFlow .flowSequenceStart
    else if c = '\x7b' then lexer.openFlow .flowMappingStart
    else if c = ']' then lexer.closeFlow .flowSequenceEnd
    else if c = '\x7d' then lexer.closeFlow .flowMappingEnd
    else if c = ',' then lexer.flowEntry
    else if c = '-' ∧ cursor.isGapAhead 1 then
      lexer.blockItem .blockSequenceStart .blockEntry true
    else if c = '?' ∧ (lexer.inFlow || cursor.isGapAhead 1) then
      lexer.blockItem .blockMappingStart .key (!lexer.inFlow)
    else if c = ':' ∧ (lexer.inFlow || cursor.isGapAhead 1) then lexer.value
    else if c = '*' then
      lexer.keyLike fun cursor => (scanName cursor).map fun (name, after) => (.alias name, after)
    else if c = '&' then
      lexer.keyLike fun cursor => (scanName cursor).map fun (name, after) => (.anchor name, after)
    else if c = '!' then
      lexer.keyLike fun cursor =>
        (scanTag lexer.inFlow cursor).map fun (handle, suffix, after) => (.tag handle suffix, after)
    else if c = '|' ∧ !lexer.inFlow then lexer.blockScalar true
    else if c = '>' ∧ !lexer.inFlow then lexer.blockScalar false
    else if c = '\'' ∨ c = '"' then lexer.quotedScalar c
    else if lexer.startsPlain c then lexer.plainScalar
    else none

def run : Nat → Lexer → Option (List Token)
  | 0, _ => none
  | fuel + 1, lexer =>
    match lexer.step with
    | none => none
    | some lexer =>
      if lexer.tokens.back? = some .streamEnd then some lexer.tokens.toList else run fuel lexer

end Lexer

/-- The tokens of a text; absent if the text has none. -/
def tokens? (text : String) : Option (List Token) :=
  let chars := text.toList
  if chars.all isAllowed then
    let cursor : Cursor := { rest := chars }
    Lexer.run (cursor.fuel + 1) { cursor := cursor }
  else none

end Convoy.Yaml
