/-!
Blank characters. `isWhiteSpace` is the Unicode property `White_Space`; source text also takes the
two direction marks for blanks.
-/

namespace Nullability.Text

/-- Whether a character has the Unicode property `White_Space`. -/
def isWhiteSpace (c : Char) : Bool :=
  let n := c.toNat
  (0x09 ≤ n && n ≤ 0x0D) || n == 0x20 || n == 0x85 || n == 0xA0 || n == 0x1680
    || (0x2000 ≤ n && n ≤ 0x200A) || n == 0x2028 || n == 0x2029 || n == 0x202F || n == 0x205F
    || n == 0x3000

/-- Whether a character separates lexemes of source text. -/
def isSourceBlank (c : Char) : Bool :=
  isWhiteSpace c || c == '\u200e' || c == '\u200f'

end Nullability.Text
