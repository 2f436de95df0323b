import Nullability.Text.Identifier
import Nullability.Text.QuotedRanges

/-!
Quoted texts, as messages show them: in double quotes, with a backslash before quotes and backslashes,
letters for the common controls, and numbers for what would not be seen.
-/

namespace Nullability.Text

/-- The digits of a number in base sixteen, small letters, no leading zeros. -/
def hexDigits (n : Nat) : List Char := Nat.toDigits 16 n

/-- Whether a character is shown by its number in a quoted text. -/
def isShownByNumber (c : Char) : Bool :=
  if c.toNat < 0x80 then c.toNat < 0x20 || c.toNat == 0x7f
  else inRanges joiningRanges c.toNat || inRanges glyphlessRanges c.toNat

/-- One character of a quoted text. -/
def quotedChar (c : Char) : List Char :=
  match c with
  | '\x00' => ['\\', '0']
  | '\t' => ['\\', 't']
  | '\r' => ['\\', 'r']
  | '\n' => ['\\', 'n']
  | '\\' => ['\\', '\\']
  | '"' => ['\\', '"']
  | _ => if isShownByNumber c then ['\\', 'u', '\x7b'] ++ hexDigits c.toNat ++ ['\x7d'] else [c]

/-- A text in double quotes. -/
def quoted (s : String) : String :=
  String.ofList ('"' :: s.toList.flatMap quotedChar ++ ['"'])

end Nullability.Text
