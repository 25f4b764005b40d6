import Convoy.Data.Datum
import Convoy.Decimal.Notation

/-!
# Writing JSON

The compact form has no blank at all; the indented form has an entry a line and two blanks a level.
Entries keep their order.
-/
namespace Convoy.Json

open Data

/-- A character inside a string: quotes, backslashes and controls are escaped. -/
def stringChar (c : Char) : List Char :=
  if c = '"' then ['\\', '"']
  else if c = '\\' then ['\\', '\\']
  else if c = '\n' then ['\\', 'n']
  else if c = '\r' then ['\\', 'r']
  else if c = '\t' then ['\\', 't']
  else if c = '\x08' then ['\\', 'b']
  else if c = '\x0c' then ['\\', 'f']
  else if c.toNat < 0x20 then
    ['\\', 'u', '0', '0', Nat.digitChar (c.toNat / 16), Nat.digitChar (c.toNat % 16)]
  else [c]

def string (s : String) : String :=
  String.ofList ('"' :: s.toList.flatMap stringChar ++ ['"'])

def keyText : Key → String
  | .text name => name
  | .position index => String.ofList (Decimal.naturalDigits index)
  | .other => ""

/-- The text of a value that has no parts; a value that denotes nothing is null. -/
def scalar : Datum → String
  | .bool true => "true"
  | .bool false => "false"
  | .int value => Decimal.integerText value
  | .float value => Decimal.wire value
  | .text value => string value
  | _ => "null"

mutual

def compact : Datum → String
  | .list items => "[" ++ compactItems items ++ "]"
  | .map entries => "\x7b" ++ compactEntries entries ++ "\x7d"
  | other => scalar other

def compactItems : List Datum → String
  | [] => ""
  | [item] => compact item
  | item :: rest => compact item ++ "," ++ compactItems rest

def compactEntries : List (Key × Datum) → String
  | [] => ""
  | [(key, value)] => string (keyText key) ++ ":" ++ compact value
  | (key, value) :: rest =>
    string (keyText key) ++ ":" ++ compact value ++ "," ++ compactEntries rest

end

def newLine (level : Nat) : String :=
  String.ofList ('\n' :: List.replicate (2 * level) ' ')

mutual

def indented (level : Nat) : Datum → String
  | .list [] => "[]"
  | .map [] => "\x7b\x7d"
  | .list items => "[" ++ indentedItems (level + 1) items ++ newLine level ++ "]"
  | .map entries => "\x7b" ++ indentedEntries (level + 1) entries ++ newLine level ++ "\x7d"
  | other => scalar other

/-- The items of a list, each on a line of its own. -/
def indentedItems (level : Nat) : List Datum → String
  | [] => ""
  | [item] => newLine level ++ indented level item
  | item :: rest => newLine level ++ indented level item ++ "," ++ indentedItems level rest

/-- The entries of a map, each on a line of its own. -/
def indentedEntries (level : Nat) : List (Key × Datum) → String
  | [] => ""
  | [(key, value)] => newLine level ++ string (keyText key) ++ ": " ++ indented level value
  | (key, value) :: rest =>
    newLine level ++ string (keyText key) ++ ": " ++ indented level value ++ "," ++
      indentedEntries level rest

end

def pretty (datum : Datum) : String :=
  indented 0 datum

end Convoy.Json
