/-!
# Blank and control characters

The characters that count as white space at the edges of a text, and the control characters.
-/
namespace Convoy.Text

/-- White space: the ASCII blanks, NEL, the no-break space and the spaces and separators of the
general punctuation and ideographic blocks. -/
def isBlank (c : Char) : Bool :=
  let code := c.toNat
  (0x09 ≤ code && code ≤ 0x0D) || code == 0x20 || code == 0x85 || code == 0xA0 || code == 0x1680 ||
    (0x2000 ≤ code && code ≤ 0x200A) || code == 0x2028 || code == 0x2029 || code == 0x202F ||
    code == 0x205F || code == 0x3000

/-- The C0 and C1 controls and DEL. -/
def isControl (c : Char) : Bool :=
  c.toNat < 0x20 || (0x7F ≤ c.toNat && c.toNat ≤ 0x9F)

def hasBlankEdge (s : String) : Bool :=
  s.toList.head?.any isBlank || s.toList.getLast?.any isBlank

/-- Lower case of the ASCII letters, all other characters kept. -/
def lowerAscii (s : String) : String :=
  s.map Char.toLower

end Convoy.Text
