/-!
# Places in a YAML text

A cursor is the rest of a text and the place where it starts: the number of characters before it, its
line and its column.
-/
namespace Convoy.Yaml

/-- Characters that may stand in a text: tab, line breaks and everything visible. -/
def isAllowed (c : Char) : Bool :=
  let code := c.toNat
  c = '\t' || c = '\n' || c = '\r' || (0x20 ≤ code && code ≤ 0x7E) || code == 0x85 ||
    (0xA0 ≤ code && code ≤ 0xFFFD) || 0x10000 ≤ code

/-- Line breaks: the ASCII ones, NEL and the line and paragraph separators. -/
def isBreak (c : Char) : Bool :=
  c = '\n' || c = '\r' || c = '\u0085' || c = '\u2028' || c = '\u2029'

def isBlank (c : Char) : Bool :=
  c = ' ' || c = '\t'

/-- Letters, digits, `_` and `-`: what names are made of. -/
def isWordChar (c : Char) : Bool :=
  c.isAlphanum || c = '_' || c = '-'

/-- A place in a text, with all that follows it. -/
structure Cursor where
  rest : List Char
  index : Nat := 0
  line : Nat := 0
  column : Nat := 0
deriving Repr

namespace Cursor

variable (cursor : Cursor)

def ahead (distance : Nat) : Option Char :=
  cursor.rest[distance]?

def next : Option Char :=
  cursor.rest.head?

def atEnd : Bool :=
  cursor.rest.isEmpty

def sees (c : Char) : Bool :=
  cursor.next == some c

def atBreak : Bool :=
  cursor.next.any isBreak

def atLineEnd : Bool :=
  cursor.atEnd || cursor.atBreak

/-- Whether a blank, a line break or the end stands some places ahead. -/
def isGapAhead (distance : Nat) : Bool :=
  match cursor.ahead distance with
  | none => true
  | some c => isBlank c || isBreak c

def skip (count : Nat) : Cursor where
  rest := cursor.rest.drop count
  index := cursor.index + count
  line := cursor.line
  column := cursor.column + count

def skipBreak : Cursor :=
  let width :=
    match cursor.rest with
    | '\r' :: '\n' :: _ => 2
    | _ => 1
  { rest := cursor.rest.drop width, index := cursor.index + width, line := cursor.line + 1 }

/-- What a line break contributes to a scalar: a line feed, or the separator itself. -/
def breakText : String :=
  match cursor.next with
  | some c => if c = '\u2028' ∨ c = '\u2029' then String.singleton c else "\n"
  | none => ""

/-- The longest run of characters of one kind from here on, and the place after it. -/
def takeRun (kind : Char → Bool) : List Char × Cursor :=
  let run := cursor.rest.takeWhile kind
  (run, cursor.skip run.length)

def skipRun (kind : Char → Bool) : Cursor :=
  (cursor.takeRun kind).2

def skipComment : Cursor :=
  let cursor := cursor.skipRun isBlank
  if cursor.sees '#' then cursor.skipRun fun c => !isBreak c else cursor

/-- Whether a line starts here with a document marker made of one character. -/
def seesMarker (c : Char) : Bool :=
  cursor.column == 0 && cursor.ahead 0 == some c && cursor.ahead 1 == some c &&
    cursor.ahead 2 == some c && cursor.isGapAhead 3

def atMarker : Bool :=
  cursor.seesMarker '-' || cursor.seesMarker '.'

/-- A bound for loops that go past a character at every turn. -/
def fuel : Nat :=
  cursor.rest.length + 1

end Cursor
end Convoy.Yaml
