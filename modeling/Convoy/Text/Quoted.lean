import Convoy.Text.Printable

/-!
# Quoted text

A text between double quotes, on one line and free of invisible characters. Every character has a
form of its own, so that two texts are never quoted alike.
-/
namespace Convoy.Text

/-- The digits of a number in base sixteen, lower case, at least one. -/
def hexDigits (n : Nat) : List Char :=
  Nat.toDigits 16 n

/-- A character inside quotes: `"`, `\` and the common controls have a one-letter escape, every
other character without a glyph is written by its code point. -/
def quotedChar (c : Char) : List Char :=
  if c = '"' then ['\\', '"']
  else if c = '\\' then ['\\', '\\']
  else if c = '\n' then ['\\', 'n']
  else if c = '\r' then ['\\', 'r']
  else if c = '\t' then ['\\', 't']
  else if c = '\x00' then ['\\', '0']
  else if isPrintable c then [c]
  else ['\\', 'u', '\x7b'] ++ hexDigits c.toNat ++ ['\x7d']

def quoted (s : String) : String :=
  String.ofList ('"' :: s.toList.flatMap quotedChar ++ ['"'])

end Convoy.Text
