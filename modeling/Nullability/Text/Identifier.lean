import Nullability.Text.IdentifierRanges

/-!
Which characters may stand in an identifier of the source language. ASCII is decided by core's own
classes; the rest by the tables of the Unicode properties.
-/

namespace Nullability.Text

/-- Whether a code point lies in one of the inclusive ranges of a table. -/
def inRanges (table : Array (Nat × Nat)) (code : Nat) : Bool :=
  table.any fun range => range.1 ≤ code && code ≤ range.2

/-- An identifier without the mark that makes a raw one of a reserved word. -/
def withoutRawMark (identifier : String) : String :=
  match identifier.toList with
  | 'r' :: '#' :: rest => String.ofList rest
  | _ => identifier

/-- Whether a character may open an identifier. -/
def isIdentifierStart (c : Char) : Bool :=
  if c.toNat < 0x80 then c.isAlpha || c == '_' else inRanges identifierStartRanges c.toNat

/-- Whether a character may follow in an identifier. -/
def isIdentifierPart (c : Char) : Bool :=
  if c.toNat < 0x80 then c.isAlphanum || c == '_'
  else inRanges identifierStartRanges c.toNat || inRanges identifierPartRanges c.toNat

end Nullability.Text
