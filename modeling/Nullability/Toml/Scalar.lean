import Nullability.Json.Reader
import Nullability.Toml.DateTime
import Nullability.Toml.Outline

/-!
What keys and scalars mean. A string is freed of its quotes and escapes; a bare scalar is a truth value, a
number, a date or a time, told apart by its first characters.
-/

namespace Nullability.Toml

/-- What a scalar means. A number whose digits do not fit together is kept without a value. -/
inductive Scalar
  | string (s : String)
  | whole (n : Option Int)
  | float (x : Float)
  /-- A number too large for a floating-point one. -/
  | tooLarge
  | truth (b : Bool)
  | dateTime

namespace Raw

variable {α : Type}

/-- Refuses a scalar at a stretch of its text. -/
def refuse (r : Raw) (c : Cause) (start stop : Nat) : Except Fault α :=
  .error ⟨c, r.start + start, r.start + stop⟩

/-- Refuses a scalar at a place in its text. -/
def refuseAt (r : Raw) (c : Cause) (offset : Nat) : Except Fault α := r.refuse c offset offset

/-- The text between the quotes, and where it begins. -/
def unquoted (r : Raw) (q : Quoting) : Except Fault (Nat × List Char) :=
  let mark := q.mark.toList
  if !mark.isPrefixOf r.text then r.refuseAt (.quote q) 0
  else
    let inner := r.text.drop mark.length
    if !mark.reverse.isPrefixOf inner.reverse then r.refuseAt (.quote q) r.text.length
    else .ok (mark.length, inner.take (inner.length - mark.length))

/-- Leaves out a line end at the front of a text that begins at some offset. -/
def withoutLineBreak (start : Nat) : List Char → Nat × List Char
  | '\n' :: rest => (start + 1, rest)
  | '\r' :: '\n' :: rest => (start + 2, rest)
  | cs => (start, cs)

/-- Whether a character can be seen, or is a tab. -/
def isVisible (c : Char) : Bool := c == '\t' || (0x20 ≤ c.toNat && c.toNat ≠ 0x7F)

/-- The content of a literal string of one line. -/
def literalString (r : Raw) : Except Fault String := do
  let (start, content) ← r.unquoted .literal
  match content.findIdx? fun c => !isVisible c || c == '\'' with
  | some i => r.refuseAt (.stringCharacter .literal) (start + i)
  | none => return String.ofList content

/-- Checks the characters of a literal string of several lines. -/
def checkLongLiteral (r : Raw) : Nat → List Char → Except Fault Unit
  | _, [] => .ok ()
  | i, '\n' :: rest => checkLongLiteral r (i + 1) rest
  | i, '\r' :: '\n' :: rest => checkLongLiteral r (i + 2) rest
  | i, '\r' :: _ => r.refuseAt .bareReturn (i + 1)
  | i, c :: rest =>
    if isVisible c then checkLongLiteral r (i + 1) rest
    else r.refuseAt (.stringCharacter .longLiteral) i

def longLiteralString (r : Raw) : Except Fault String := do
  let (start, content) ← r.unquoted .longLiteral
  let (start, content) := withoutLineBreak start content
  checkLongLiteral r start content
  return String.ofList content

/-- A character given by its number in digits of base sixteen, which begin at some offset. -/
def numberedChar (r : Raw) (i length : Nat) (cs : List Char) : Except Fault (Char × Nat × List Char) :=
  let digits := (cs.take length).takeWhile fun c => (Json.Reader.hexValue? c).isSome
  if digits.length ≠ length then r.refuseAt .codeTooShort i
  else
    let n := digits.foldl (fun n c => n * 16 + (Json.Reader.hexValue? c).getD 0) 0
    if n.isValidChar then .ok (Char.ofNat n, i + length, cs.drop length) else r.refuseAt .code i

/-- What follows the backslash of an escape: the character meant, and what is left. -/
def escaped (r : Raw) (i : Nat) : List Char → Except Fault (Char × Nat × List Char)
  | [] => r.refuseAt .escape i
  | c :: rest =>
    let simple (meant : Char) : Except Fault (Char × Nat × List Char) := .ok (meant, i + 1, rest)
    match c with
    | 'b' => simple '\x08'
    | 'e' => simple '\x1b'
    | 'f' => simple '\x0c'
    | 'n' => simple '\n'
    | 'r' => simple '\r'
    | 't' => simple '\t'
    | '\\' => simple '\\'
    | '"' => simple '"'
    | 'x' => r.numberedChar (i + 1) 2 rest
    | 'u' => r.numberedChar (i + 1) 4 rest
    | 'U' => r.numberedChar (i + 1) 8 rest
    | _ => r.refuseAt .escape i

/-- Leaves out the blanks and line ends behind a line end that is escaped. -/
def skipLineBreaks (r : Raw) : Nat → List Char → Except Fault (Nat × List Char)
  | i, ' ' :: rest => skipLineBreaks r (i + 1) rest
  | i, '\t' :: rest => skipLineBreaks r (i + 1) rest
  | i, '\n' :: rest => skipLineBreaks r (i + 1) rest
  | i, '\r' :: '\n' :: rest => skipLineBreaks r (i + 2) rest
  | i, '\r' :: _ => r.refuseAt .bareReturn (i + 1)
  | i, cs => .ok (i, cs)

/-- Leaves out a line end that is escaped, with what blank follows it. -/
def escapedLineBreak (r : Raw) (i : Nat) (cs : List Char) : Except Fault (Nat × List Char) :=
  let blanks := (cs.takeWhile Token.isBlank).length
  match cs.drop blanks with
  | '\n' :: rest => r.skipLineBreaks (i + blanks + 1) rest
  | '\r' :: '\n' :: rest => r.skipLineBreaks (i + blanks + 2) rest
  | '\r' :: _ => r.refuseAt .bareReturn (i + blanks + 1)
  | _ => r.refuseAt .noLineBreakAfterEscape (i + blanks)

/-- The characters of a basic string from an offset on. -/
def basicContent (r : Raw) (q : Quoting) : Nat → Nat → List Char → Except Fault (List Char)
  | 0, _, _ => .ok []
  | _, _, [] => .ok []
  | fuel + 1, i, c :: rest =>
    let long := q == .longBasic
    let isPlain (c : Char) : Bool := isVisible c && (long || c != '"') || (long && c == '\n')
    if c = '\\' then
      match rest with
      | d :: _ =>
        if long && (Token.isBlank d || d == '\r' || d == '\n') then do
          let (i, rest) ← r.escapedLineBreak (i + 1) rest
          basicContent r q fuel i rest
        else do
          let (meant, i, rest) ← r.escaped (i + 1) rest
          return meant :: (← basicContent r q fuel i rest)
      | [] => r.refuseAt .escape (i + 1)
    else if isPlain c then do return c :: (← basicContent r q fuel (i + 1) rest)
    else if long && c == '\r' then
      match rest with
      | '\n' :: rest => do return '\r' :: '\n' :: (← basicContent r q fuel (i + 2) rest)
      | _ => r.refuseAt .bareReturn (i + 1)
    else
      let run := (c :: rest).takeWhile fun d => !isPlain d && d != '\\' && !(long && d == '\r')
      r.refuse (.stringCharacter q) i (i + run.length)

def basicString (r : Raw) : Except Fault String := do
  let (start, content) ← r.unquoted .basic
  return String.ofList (← r.basicContent .basic content.length start content)

def longBasicString (r : Raw) : Except Fault String := do
  let (start, content) ← r.unquoted .longBasic
  let (start, content) := withoutLineBreak start content
  return String.ofList (← r.basicContent .longBasic content.length start content)

/-- The content of a quoted string. -/
def quotedString (r : Raw) : Quoting → Except Fault String
  | .literal => r.literalString
  | .longLiteral => r.longLiteralString
  | .basic => r.basicString
  | .longBasic => r.longBasicString

def isKeyCharacter (c : Char) : Bool := c.isAlphanum || c == '-' || c == '_'

/-- What a part of a key means. -/
def key (r : Raw) : Except Fault String :=
  match r.quoting with
  | some .longLiteral => r.refuseAt (.longKey .longLiteral) 0
  | some .longBasic => r.refuseAt (.longKey .longBasic) 0
  | some q => r.quotedString q
  | none =>
    if r.text.isEmpty then r.refuseAt .emptyKey 0
    else
      match r.text.findIdx? fun c => !isKeyCharacter c with
      | some i => r.refuse .keyCharacter i (i + 1)
      | none => .ok (String.ofList r.text)

/-- A bare scalar that begins like none of the known ones. -/
def noScalar (r : Raw) : Except Fault Scalar := r.refuse .noValue 0 r.text.length

/-- Digits and underscores at the front of a number part, from an offset on. -/
def checkDigits (r : Raw) (part : NumberPart) (i : Nat) (cs : List Char) : Except Fault (Nat × List Char) :=
  let run := cs.takeWhile fun c => c.isDigit || c == '_'
  let count := run.countP Char.isDigit
  if count = 0 then r.refuseAt (.noDigits part) i
  else if 1 < count && run.head? = some '0' && part == .mantissa then r.refuse .leadingZero i (i + 1)
  else .ok (i + run.length, cs.drop run.length)

/-- Checks the parts of a floating-point number that begins at an offset, its sign left out. -/
def checkFloat (r : Raw) (i : Nat) (cs : List Char) : Except Fault Unit := do
  let (i, cs) ← r.checkDigits .mantissa i cs
  let (i, cs) ← match cs with
    | '.' :: rest => r.checkDigits .decimals (i + 1) rest
    | _ => .ok (i, cs)
  let (i, cs) ← match cs with
    | 'e' :: rest | 'E' :: rest =>
      match rest with
      | '+' :: rest | '-' :: rest => r.checkDigits .exponent (i + 2) rest
      | _ => r.checkDigits .exponent (i + 1) rest
    | _ => .ok (i, cs)
  if cs.isEmpty then .ok () else r.refuse .afterFloat i r.text.length

/-- The pieces of a text between its underscores, with their offsets. -/
def pieces (i : Nat) : List Char → List (Nat × List Char)
  | [] => [(i, [])]
  | c :: cs =>
    if c = '_' then (i, []) :: pieces (i + 1) cs
    else
      match pieces (i + 1) cs with
      | (_, piece) :: rest => (i, c :: piece) :: rest
      | [] => [(i, [c])]

/-- Checks that the underscores of a number, which begins at an offset, stand between digits. -/
def checkUnderscores (r : Raw) (isDigit : Char → Bool) (i : Nat) (cs : List Char) : Except Fault Unit := do
  if !cs.contains '_' then return
  if cs.head? = some '_' then r.refuse .underscore 0 1
  if 1 < cs.length && cs.getLast? = some '_' then
    r.refuse .underscore (i + cs.length - 1) (i + cs.length)
  for (start, piece) in pieces i cs do
    let stop := start + piece.length
    if 0 < start then
      if !(piece.head?.all isDigit) then r.refuse .underscore (start - 1) start
    if 1 < piece.length && stop < r.text.length then
      if !(piece.getLast?.all isDigit) then r.refuse .underscore stop (stop + 1)
    if piece.isEmpty && start ≠ 0 && stop ≠ r.text.length then r.refuse .underscore (start - 1) start

/-- The number that digits of a base make, a sign before them. -/
def wholeOfDigits (radix : Nat) (cs : List Char) : Option Int :=
  let digits (cs : List Char) : Option Nat :=
    if cs.isEmpty then none
    else cs.foldlM (fun n c => do
      let d ← Json.Reader.hexValue? c
      if d < radix then some (n * radix + d) else none) 0
  match cs with
  | '-' :: rest => (digits rest).map fun n => -(n : Int)
  | '+' :: rest => (digits rest).map fun n => (n : Int)
  | _ => (digits cs).map fun n => (n : Int)

/-- A whole number of a base; its digits begin at an offset. -/
def whole (r : Raw) (radix : Nat) (i : Nat) (cs : List Char) : Except Fault Scalar := do
  r.checkUnderscores (fun c => (Json.Reader.hexValue? c).isSome) i cs
  return .whole (wholeOfDigits radix (cs.filter (· != '_')))

/-- The floating-point number that a text of digits, point and exponent is nearest to. -/
def floatOfText (cs : List Char) : Float :=
  let (negative, cs) := match cs with
    | '-' :: rest => (true, rest)
    | '+' :: rest => (false, rest)
    | _ => (false, cs)
  let number (ds : List Char) : Nat := DateTime.number ds
  let mantissa := cs.takeWhile fun c => c != 'e' && c != 'E'
  let power : Int := match cs.drop (mantissa.length + 1) with
    | '-' :: ds => -(number ds : Int)
    | '+' :: ds => number ds
    | ds => number ds
  let whole := mantissa.takeWhile (· != '.')
  let decimals := mantissa.drop (whole.length + 1)
  let digits := number (whole ++ decimals)
  let shift := power - decimals.length
  let magnitude :=
    if digits = 0 then 0.0
    else if 400 < shift then 1.0 / 0.0
    else if shift < -(800 + (whole.length + decimals.length : Int)) then 0.0
    else Float.ofScientific digits (shift < 0) shift.natAbs
  if negative then -magnitude else magnitude

/-- A floating-point number, which has been checked. -/
def float (r : Raw) : Except Fault Scalar := do
  r.checkUnderscores Char.isDigit 0 r.text
  let x := floatOfText (r.text.filter (· != '_'))
  return if x.isInf then .tooLarge else .float x

/-- A number, date or time whose digits begin at an offset, behind a sign if there is one. -/
def numberOrDate (r : Raw) (i : Nat) (cs : List Char) : Except Fault Scalar :=
  let checkZero : Except Fault Unit :=
    if cs.head? = some '0' then r.refuse .leadingZero i (i + 1) else .ok ()
  match cs.dropWhile Char.isDigit with
  | [] => do
    checkZero
    r.whole 10 0 r.text
  | d :: more =>
    let rest := d :: more
    if d = '-' || d = ':' then
      match DateTime.fault? r.text with
      | none => .ok .dateTime
      | some cause => .error ⟨cause, r.span⟩
    else if rest.contains ' ' then r.noScalar
    else if rest.any fun c => c == '.' || c == 'e' || c == 'E' then do
      r.checkFloat i cs
      r.float
    else if d = '_' then do
      checkZero
      r.whole 10 0 r.text
    else r.noScalar

/-- A number with a base, whose mark begins at an offset. -/
def radixNumber (r : Raw) (i : Nat) (signed upper : Bool) (radix : Nat) (mark : String) (cs : List Char) :
    Except Fault Scalar := do
  if signed then r.refuse .signedRadix 0 1
  if radix = 10 then r.refuse .decimalRadix 0 2
  if upper then r.refuse (.upperRadix mark) i (i + 2)
  match cs with
  | '+' :: _ | '-' :: _ =>
    let at_ := (r.text.takeWhile fun c => c != '+' && c != '-').length
    r.refuse .signAfterRadix at_ (at_ + 1)
  | _ => pure ()
  let fits (c : Char) : Bool := c == '_' || ((Json.Reader.hexValue? c).any (· < radix))
  match cs.findIdx? (!fits ·) with
  | some j => r.refuseAt (.radixDigit radix) (i + 2 + j)
  | none => r.whole radix (i + 2) cs

/-- A number that begins with a zero at an offset. -/
def zeroNumber (r : Raw) (i : Nat) (signed : Bool) (cs : List Char) : Except Fault Scalar :=
  match cs with
  | [_] => r.whole 10 0 r.text
  | _ :: c :: rest =>
    match c with
    | 'x' => r.radixNumber i signed false 16 "0x" rest
    | 'X' => r.radixNumber i signed true 16 "0x" rest
    | 'o' => r.radixNumber i signed false 8 "0o" rest
    | 'O' => r.radixNumber i signed true 8 "0o" rest
    | 'b' => r.radixNumber i signed false 2 "0b" rest
    | 'B' => r.radixNumber i signed true 2 "0b" rest
    | 'd' | 'D' => r.radixNumber i signed false 10 "" rest
    | _ => r.numberOrDate i cs
  | [] => r.noScalar

/-- A scalar that has to be a certain word. -/
def word (r : Raw) (expected : String) (number : Bool) (meant : Scalar) : Except Fault Scalar :=
  if r.text = expected.toList then .ok meant
  else if r.text.contains ' ' then r.noScalar
  else r.refuse (.word number expected) 0 r.text.length

/-- A word behind a sign, at an offset. -/
def signedWord (r : Raw) (i : Nat) (expected : String) (meant : Scalar) (cs : List Char) :
    Except Fault Scalar :=
  if cs = expected.toList then .ok meant else r.refuse (.word true expected) i r.text.length

def infinity (negative : Bool) : Float := if negative then -(1.0 / 0.0) else 1.0 / 0.0

/-- What follows a sign, at an offset. -/
def signedScalar (r : Raw) (i : Nat) (negative : Bool) (cs : List Char) : Except Fault Scalar :=
  match cs with
  | [] => r.noScalar
  | c :: _ =>
    if c = '+' || c = '-' then r.refuse .twoSigns i (i + 1)
    else if c = '0' then r.zeroNumber i true cs
    else if c.isDigit || c = '_' then r.numberOrDate i cs
    else if c = '.' then do
      r.checkFloat 0 r.text
      r.float
    else if c = 'i' || c = 'I' then r.signedWord i "inf" (.float (infinity negative)) cs
    else if c = 'n' || c = 'N' then r.signedWord i "nan" (.float (0.0 / 0.0)) cs
    else r.noScalar

/-- What a bare scalar means. -/
def bareScalar (r : Raw) : Except Fault Scalar :=
  match r.text with
  | [] => r.noScalar
  | c :: rest =>
    if c = '+' || c = '-' then r.signedScalar 1 (c == '-') rest
    else if c = '0' then r.zeroNumber 0 false r.text
    else if c.isDigit || c = '_' then r.numberOrDate 0 r.text
    else if c = '.' then do
      r.checkFloat 0 r.text
      r.float
    else if c = 't' || c = 'T' then r.word "true" false (.truth true)
    else if c = 'f' || c = 'F' then r.word "false" false (.truth false)
    else if c = 'i' || c = 'I' then r.word "inf" true (.float (infinity false))
    else if c = 'n' || c = 'N' then r.word "nan" true (.float (0.0 / 0.0))
    else r.noScalar

/-- What a scalar means. -/
def meaning (r : Raw) : Except Fault Scalar :=
  match r.quoting with
  | some q => (r.quotedString q).map .string
  | none => r.bareScalar

end Raw

end Nullability.Toml
