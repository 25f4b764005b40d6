import Convoy.Yaml.Cursor

/-!
# YAML tokens

The tokens of a text. Indentation is made explicit: a block collection has a token where it starts
and one where it ends.
-/
namespace Convoy.Yaml

/-- A token. A scalar remembers whether it was written plain. -/
inductive Token where
  | version (major minor : Nat)
  | tagPrefix (handle expansion : String)
  | documentStart
  | documentEnd
  | blockSequenceStart
  | blockMappingStart
  | blockEnd
  | flowSequenceStart
  | flowSequenceEnd
  | flowMappingStart
  | flowMappingEnd
  | blockEntry
  | flowEntry
  | key
  | value
  | alias (name : String)
  | anchor (name : String)
  | tag (handle suffix : String)
  | scalar (plain : Bool) (text : String)
  | streamEnd
deriving Repr, DecidableEq

/-- A gap between two words of a scalar: blanks on one line, or line breaks. -/
structure Gap where
  blanks : String := ""
  firstBreak : String := ""
  laterBreaks : String := ""
  broken : Bool := false

namespace Gap

/-- What the gap contributes: its blanks; or a space for one line break and the breaks after the
first for several. -/
def text (gap : Gap) : String :=
  if gap.broken then
    if gap.firstBreak = "\n" then
      if gap.laterBreaks = "" then " " else gap.laterBreaks
    else gap.firstBreak ++ gap.laterBreaks
  else gap.blanks

/-- Goes on with a gap as far as it reaches. Below `margin`, a line must not be indented by tabs. -/
def scan (margin : Int) : Nat → Cursor → Gap → Option (Gap × Cursor)
  | 0, _, _ => none
  | fuel + 1, cursor, gap =>
    match cursor.next with
    | none => some (gap, cursor)
    | some c =>
      if isBlank c then
        if gap.broken then
          if c = '\t' ∧ cursor.column < margin then none else scan margin fuel (cursor.skip 1) gap
        else scan margin fuel (cursor.skip 1) { gap with blanks := gap.blanks.push c }
      else if isBreak c then
        let gap :=
          if gap.broken then { gap with laterBreaks := gap.laterBreaks ++ cursor.breakText }
          else { gap with blanks := "", firstBreak := cursor.breakText, broken := true }
        scan margin fuel cursor.skipBreak gap
      else some (gap, cursor)

end Gap

def hexDigit? (c : Char) : Option Nat :=
  if c.isDigit then some (c.toNat - '0'.toNat)
  else if 'a' ≤ c ∧ c ≤ 'f' then some (c.toNat - 'a'.toNat + 10)
  else if 'A' ≤ c ∧ c ≤ 'F' then some (c.toNat - 'A'.toNat + 10)
  else none

def hexNumber? (digits : List Char) : Option Nat :=
  digits.foldlM (fun n c => (hexDigit? c).map (n * 16 + ·)) 0

def escaped? (c : Char) : Option Char :=
  match c with
  | '0' => some '\x00'
  | 'a' => some '\x07'
  | 'b' => some '\x08'
  | 't' | '\t' => some '\t'
  | 'n' => some '\n'
  | 'v' => some '\x0b'
  | 'f' => some '\x0c'
  | 'r' => some '\r'
  | 'e' => some '\x1b'
  | ' ' => some ' '
  | '"' => some '"'
  | '/' => some '/'
  | '\\' => some '\\'
  | 'N' => some '\u0085'
  | '_' => some '\u00a0'
  | 'L' => some '\u2028'
  | 'P' => some '\u2029'
  | _ => none

/-- How many digits follow a letter that introduces a code point. -/
def codeLength? (c : Char) : Option Nat :=
  match c with
  | 'x' => some 2
  | 'u' => some 4
  | 'U' => some 8
  | _ => none

def scanEscape (cursor : Cursor) : Option (Char × Cursor) := do
  let letter ← cursor.ahead 1
  match codeLength? letter with
  | some length =>
    let digits := (cursor.rest.drop 2).take length
    if digits.length ≠ length then none
    let code ← hexNumber? digits
    if h : code.isValidChar then some (Char.ofNatAux code h, cursor.skip (2 + length)) else none
  | none => return (← escaped? letter, cursor.skip 2)

/-- A quoted scalar after its opening quote, after the text read so far. -/
def scanQuoted (quote : Char) : Nat → Cursor → String → Option (String × Cursor)
  | 0, _, _ => none
  | fuel + 1, cursor, text =>
    if cursor.atMarker then none
    else
      match cursor.next with
      | none => none
      | some c =>
        if c = quote then
          if quote = '\'' ∧ cursor.ahead 1 = some '\'' then
            scanQuoted quote fuel (cursor.skip 2) (text.push '\'')
          else some (text, cursor.skip 1)
        else if c = '\\' ∧ quote = '"' then
          if (cursor.ahead 1).any isBreak then
            match Gap.scan 0 fuel (cursor.skip 1).skipBreak { broken := true } with
            | some (gap, cursor) => scanQuoted quote fuel cursor (text ++ gap.text)
            | none => none
          else
            match scanEscape cursor with
            | some (c, cursor) => scanQuoted quote fuel cursor (text.push c)
            | none => none
        else if isBlank c || isBreak c then
          match Gap.scan 0 (fuel + 1) cursor {} with
          | some (gap, cursor) => scanQuoted quote fuel cursor (text ++ gap.text)
          | none => none
        else scanQuoted quote fuel (cursor.skip 1) (text.push c)

def isFlowIndicator (c : Char) : Bool :=
  c = ',' || c = '[' || c = ']' || c = '\x7b' || c = '\x7d'

/-- Whether a plain scalar stops before the next character. -/
def endsPlain (inFlow : Bool) (cursor : Cursor) : Bool :=
  (cursor.sees ':' && cursor.isGapAhead 1) || (inFlow && cursor.next.any isFlowIndicator)

/-- Whether a colon stands right before a character of flow collections. -/
def isStrayColon (inFlow : Bool) (cursor : Cursor) : Bool :=
  inFlow && cursor.sees ':' && (cursor.ahead 1).any fun c => isFlowIndicator c || c = '?'

/-- The next word of a plain scalar: characters up to a blank or an indicator. -/
def scanWord (inFlow : Bool) : Nat → Cursor → String → Option (String × Cursor)
  | 0, _, _ => none
  | fuel + 1, cursor, word =>
    if cursor.isGapAhead 0 then some (word, cursor)
    else if isStrayColon inFlow cursor then none
    else if endsPlain inFlow cursor then some (word, cursor)
    else
      match cursor.next with
      | some c => scanWord inFlow fuel (cursor.skip 1) (word.push c)
      | none => some (word, cursor)

/-- A plain scalar, after the text read so far and a gap behind it. Also tells whether a line break
follows the last word. -/
def scanPlain (inFlow : Bool) (margin : Int) :
    Nat → Cursor → String → Gap → Option (String × Bool × Cursor)
  | 0, _, _, _ => none
  | fuel + 1, cursor, text, gap =>
    if cursor.atMarker || cursor.sees '#' then some (text, gap.broken, cursor)
    else
      match scanWord inFlow (fuel + 1) cursor "" with
      | none => none
      | some (word, cursor) =>
        let text := if word.isEmpty then text else text ++ gap.text ++ word
        let gap := if word.isEmpty then gap else {}
        if cursor.atEnd || !cursor.isGapAhead 0 then some (text, gap.broken, cursor)
        else
          match Gap.scan margin (fuel + 1) cursor gap with
          | none => none
          | some (gap, cursor) =>
            if !inFlow && cursor.column < margin then some (text, gap.broken, cursor)
            else scanPlain inFlow margin fuel cursor text gap

/-- What is kept of the line breaks at the end of a block scalar. -/
inductive Chomping where
  | strip | clip | keep
deriving Repr, DecidableEq

/-- Indentation and empty lines before a line of a block scalar: the breaks, the widest indentation
and the place after them. An indentation of zero is still unknown. -/
def scanIndentation (indent : Nat) :
    Nat → Cursor → String → Nat → Option (String × Nat × Cursor)
  | 0, _, _, _ => none
  | fuel + 1, cursor, breaks, widest =>
    let spaces := (cursor.rest.takeWhile (· == ' ')).length
    let cursor := cursor.skip (if indent = 0 then spaces else min spaces (indent - cursor.column))
    let widest := max widest cursor.column
    if (indent = 0 ∨ cursor.column < indent) ∧ cursor.sees '\t' then none
    else if cursor.atBreak then
      scanIndentation indent fuel cursor.skipBreak (breaks ++ cursor.breakText) widest
    else some (breaks, widest, cursor)

/-- The lines of a block scalar at an indentation: the text so far, the break before the line, the
empty lines before it, and whether the line before began with a blank. -/
def scanLines (literal : Bool) (chomping : Chomping) (indent : Nat) :
    Nat → Cursor → String → String → String → Bool → Option (String × Cursor)
  | 0, _, _, _, _, _ => none
  | fuel + 1, cursor, text, lineBreak, emptyLines, wasIndented =>
    if cursor.column ≠ indent ∨ cursor.atEnd then
      let text := if chomping = .strip then text else text ++ lineBreak
      some (if chomping = .keep then text ++ emptyLines else text, cursor)
    else
      let isIndented := cursor.next.any isBlank
      let folded := !literal && lineBreak.startsWith "\n" && !wasIndented && !isIndented
      let joint := if folded then (if emptyLines = "" then " " else "") else lineBreak
      let (line, after) := cursor.takeRun fun c => !isBreak c
      let text := text ++ joint ++ emptyLines ++ String.ofList line
      let lineBreak := after.breakText
      let after := if after.atBreak then after.skipBreak else after
      match scanIndentation indent after.fuel after "" 0 with
      | none => none
      | some (emptyLines, _, after) =>
        scanLines literal chomping indent fuel after text lineBreak emptyLines isIndented

/-- A chomping indicator, if one is next. -/
def scanChomping (cursor : Cursor) : Option (Chomping × Cursor) :=
  if cursor.sees '+' then some (.keep, cursor.skip 1)
  else if cursor.sees '-' then some (.strip, cursor.skip 1)
  else none

/-- An indentation indicator, if one is next; absent if it is a zero. -/
def scanIncrement (cursor : Cursor) : Option (Nat × Cursor) :=
  match cursor.next with
  | some c =>
    if c = '0' then none
    else if c.isDigit then some (c.toNat - '0'.toNat, cursor.skip 1)
    else some (0, cursor)
  | none => some (0, cursor)

/-- The indicators after the sign of a block scalar, in either order. -/
def scanBlockHeader (cursor : Cursor) : Option (Chomping × Nat × Cursor) :=
  match scanChomping cursor with
  | some (chomping, cursor) =>
    (scanIncrement cursor).map fun (increment, cursor) => (chomping, increment, cursor)
  | none =>
    (scanIncrement cursor).map fun (increment, cursor) =>
      match if increment = 0 then none else scanChomping cursor with
      | some (chomping, cursor) => (chomping, increment, cursor)
      | none => (.clip, increment, cursor)

def scanBlock (literal : Bool) (outer : Int) (cursor : Cursor) : Option (String × Cursor) := do
  let (chomping, increment, cursor) ← scanBlockHeader (cursor.skip 1)
  let cursor := cursor.skipComment
  if !cursor.atLineEnd then none
  let cursor := if cursor.atBreak then cursor.skipBreak else cursor
  let known := if increment = 0 then 0 else (max outer 0).toNat + increment
  let (emptyLines, widest, cursor) ← scanIndentation known cursor.fuel cursor "" 0
  let indent := if known = 0 then max (max widest (outer + 1).toNat) 1 else known
  scanLines literal chomping indent cursor.fuel cursor "" "" emptyLines false

/-- The name of an anchor or alias, after its sign. -/
def scanName (cursor : Cursor) : Option (String × Cursor) :=
  let (name, after) := (cursor.skip 1).takeRun isWordChar
  let ends := after.isGapAhead 0 || after.next.any fun c =>
    c = '?' || c = ':' || c = ',' || c = ']' || c = '\x7d' || c = '%' || c = '@' || c.toNat == 0x60
  if name.isEmpty || !ends then none else some (String.ofList name, after)

/-- A tag handle: a `!`, or a name between two. -/
def scanHandle (cursor : Cursor) : Option (String × Cursor) :=
  if !cursor.sees '!' then none
  else
    let (name, after) := (cursor.skip 1).takeRun isWordChar
    let handle := ("!" ++ String.ofList name)
    if after.sees '!' then some (handle ++ "!", after.skip 1) else some (handle, after)

def isTagChar (verbatim : Bool) (c : Char) : Bool :=
  isWordChar c || ";/?:@&=+$.%!~*'()".contains c || (verbatim && (c = ',' || c = '[' || c = ']'))

/-- The bytes that escapes of the form `%41` stand for. -/
def scanPercents : List Char → List UInt8 → Option (List UInt8 × List Char)
  | '%' :: high :: low :: rest, bytes =>
    match hexDigit? high, hexDigit? low with
    | some high, some low => scanPercents rest (UInt8.ofNat (high * 16 + low) :: bytes)
    | _, _ => none
  | '%' :: _, _ => none
  | rest, bytes => some (bytes.reverse, rest)

/-- The text of a tag with its escapes replaced; the bytes of a run of escapes have to be UTF-8. -/
def unescapeTag : Nat → List Char → Option String
  | 0, _ => none
  | fuel + 1, text =>
    match text with
    | [] => some ""
    | '%' :: _ => do
      let (bytes, rest) ← scanPercents text []
      let run ← String.fromUTF8? ⟨bytes.toArray⟩
      return run ++ (← unescapeTag fuel rest)
    | c :: rest => (unescapeTag fuel rest).map (String.singleton c ++ ·)

def scanSuffix (verbatim : Bool) (cursor : Cursor) : Option (String × Cursor) :=
  let (run, after) := cursor.takeRun (isTagChar verbatim)
  (unescapeTag (run.length + 1) run).map fun text => (text, after)

/-- A tag: its handle and the rest. A lone `!` has no handle. -/
def scanTag (inFlow : Bool) (cursor : Cursor) : Option (String × String × Cursor) := do
  let (handle, suffix, after) ←
    if cursor.ahead 1 = some '<' then do
      let (suffix, after) ← scanSuffix true (cursor.skip 2)
      if suffix.isEmpty || !after.sees '>' then none
      some ("", suffix, after.skip 1)
    else do
      let (handle, after) ← scanHandle cursor
      if handle.length ≠ 1 ∧ handle.endsWith "!" then
        let (suffix, after) ← scanSuffix false after
        if suffix.isEmpty then none
        some (handle, suffix, after)
      else
        let (suffix, after) ← scanSuffix false after
        let suffix := (handle.drop 1).toString ++ suffix
        some (if suffix.isEmpty then ("", "!", after) else ("!", suffix, after))
  if after.isGapAhead 0 || (inFlow && after.sees ',') then some (handle, suffix, after) else none

/-- A number in a version directive: at most nine digits. -/
def scanVersionNumber (cursor : Cursor) : Option (Nat × Cursor) :=
  let (digits, after) := cursor.takeRun Char.isDigit
  if digits.isEmpty || 9 < digits.length then none
  else some (digits.foldl (fun n c => n * 10 + (c.toNat - '0'.toNat)) 0, after)

def scanVersion (cursor : Cursor) : Option (Token × Cursor) := do
  let (major, cursor) ← scanVersionNumber (cursor.skipRun isBlank)
  if !cursor.sees '.' then none
  let (minor, cursor) ← scanVersionNumber (cursor.skip 1)
  some (.version major minor, cursor)

def scanTagDirective (cursor : Cursor) : Option (Token × Cursor) := do
  let (handle, cursor) ← scanHandle (cursor.skipRun isBlank)
  if handle ≠ "!" ∧ ¬ handle.endsWith "!" then none
  if !cursor.next.any isBlank then none
  let (expansion, cursor) ← scanSuffix true (cursor.skipRun isBlank)
  if expansion.isEmpty || !cursor.isGapAhead 0 then none
  some (.tagPrefix handle expansion, cursor)

/-- A directive, up to the end of its line. -/
def scanDirective (cursor : Cursor) : Option (Token × Cursor) := do
  let (name, cursor) := (cursor.skip 1).takeRun isWordChar
  if name.isEmpty || !cursor.isGapAhead 0 then none
  let (token, cursor) ←
    match String.ofList name with
    | "YAML" => scanVersion cursor
    | "TAG" => scanTagDirective cursor
    | _ => none
  let cursor := cursor.skipComment
  if !cursor.atLineEnd then none
  some (token, if cursor.atBreak then cursor.skipBreak else cursor)

end Convoy.Yaml
