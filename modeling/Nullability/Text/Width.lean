import Nullability.Text.Identifier
import Nullability.Text.WidthRanges

/-!
Display width: how many columns a text takes in a terminal. The width of a text is that of its
characters, except where several characters are shown as one: emoji sequences, flags, and ligatures of
some scripts.
-/

namespace Nullability.Text

/-- The width of one character by itself; controls take one column. -/
def charWidth (c : Char) : Nat :=
  let n := c.toNat
  if n ≤ 0xA0 then 1
  else if n == 0x2D7F then 1
  else if n == 0x115F || n == 0x17A4 then 2
  else if n == 0x17D8 then 3
  else if inRanges zeroWidthRanges n then 0
  else if inRanges wideRanges n then 2
  else 1

def isBetween (low high : Nat) (c : Char) : Bool := low ≤ c.toNat && c.toNat ≤ high

def isFlagLetter (c : Char) : Bool := isBetween 0x1F1E6 0x1F1FF c

def isSkinTone (c : Char) : Bool := isBetween 0x1F3FB 0x1F3FF c

def isEmoji (c : Char) : Bool := inRanges emojiRanges c.toNat

def isTextEmoji (c : Char) : Bool :=
  c.isDigit || c == '#' || c == '*' || inRanges textEmojiRanges c.toNat

/-- What follows the emoji at the front of a text, if one stands there: a flag, a character marked as an
emoji, one with a skin tone, or one that is shown as an emoji by itself. -/
def afterEmoji : List Char → Option (List Char)
  | a :: b :: rest =>
    if isFlagLetter a && isFlagLetter b then some rest
    else if (isEmoji a || isTextEmoji a) && b == '\ufe0f' then some rest
    else if inRanges modifierBaseRanges a.toNat && isSkinTone b then some rest
    else if isEmoji a then some (b :: rest)
    else none
  | [a] => if isEmoji a then some [] else none
  | [] => none

/-- What follows the emoji that are joined to the one before. -/
def afterJoined : Nat → List Char → List Char
  | 0, cs => cs
  | fuel + 1, cs =>
    match cs with
    | '\u200d' :: rest =>
      match afterEmoji rest with
      | some rest => afterJoined fuel rest
      | none => cs
    | _ => cs

/-- Texts that are shown as one letter. -/
def ligatures : List (List Nat) :=
  [[0x5D0, 0x200D, 0x5DC], [0x1A15, 0x1A17, 0x200D, 0x1A10], [0x10C32, 0x200D, 0x10C03],
   [0x16D63, 0x16D67, 0x16D67], [0x16D63, 0x16D67], [0x16D69, 0x16D67], [0x16D67, 0x16D67]]

def isLam (c : Char) : Bool :=
  isBetween 0x6B5 0x6B8 c || [0x644, 0x76A, 0x8A6, 0x8C7].contains c.toNat

def isAlef (c : Char) : Bool :=
  isBetween 0x671 0x673 c || [0x622, 0x623, 0x625, 0x627, 0x675, 0x773, 0x774].contains c.toNat

def isTifinagh (c : Char) : Bool := isBetween 0x2D31 0x2D65 c || c.toNat == 0x2D6F

/-- The letters of Khmer that can stand below another one. -/
def isKhmerSubscript (c : Char) : Bool :=
  isBetween 0x1780 0x1782 c || isBetween 0x1784 0x1787 c || isBetween 0x1789 0x178C c
    || isBetween 0x178E 0x1793 c || isBetween 0x1795 0x1798 c || isBetween 0x179B 0x179D c
    || [0x17A0, 0x17A2, 0x17A7, 0x17AB, 0x17AC, 0x17AF].contains c.toNat

/-- The characters at the front of a text that are shown as one, as their width and what follows
them. -/
def combined? (cs : List Char) : Option (Nat × List Char) :=
  match afterEmoji cs with
  | some rest => some (2, afterJoined rest.length rest)
  | none =>
    match ligatures.find? fun l => l.isPrefixOf ((cs.take 4).map Char.toNat) with
    | some l => some (1, cs.drop l.length)
    | none =>
      match cs with
      | '\r' :: '\n' :: rest => some (1, rest)
      | '\u17d2' :: b :: rest => if isKhmerSubscript b then some (0, rest) else none
      | a :: b :: rest =>
        if isBetween 0xA4F8 0xA4FB a && isBetween 0xA4FC 0xA4FD b then some (1, rest)
        else if isLam a then
          match (b :: rest).dropWhile fun c => charWidth c == 0 with
          | c :: rest => if isAlef c then some (1, rest) else none
          | [] => none
        else if isTifinagh a && (b == '\u2d7f' || b == '\u200d') then
          match rest with
          | c :: rest => if isTifinagh c then some (1, rest) else none
          | [] => none
        else none
      | _ => none

/-- The width of a text, with a bound on the number of its parts. -/
def widthWithin : Nat → List Char → Nat
  | 0, _ => 0
  | _, [] => 0
  | fuel + 1, c :: cs =>
    if c.toNat < 0x80 && c != '\r' && !(cs.head?.any fun d => d == '\ufe0f') then
      1 + widthWithin fuel cs
    else
      match combined? (c :: cs) with
      | some (width, '\ufe0e' :: rest) =>
        (if isEmoji c && !isBetween 0x1F200 0x1F2FF c then 1 else width) + widthWithin fuel rest
      | some (width, rest) => width + widthWithin fuel rest
      | none => charWidth c + widthWithin fuel cs

/-- How many columns a text takes. -/
def width (s : String) : Nat := widthWithin s.length s.toList

end Nullability.Text
