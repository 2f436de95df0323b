import Nullability.Text.Identifier

/-!
Literals of the source language. Each scanner takes the characters from the literal's first one on
and answers what is left after it, or nothing if no literal of its kind stands there.
`Kind.of` tells the kind of a spelling that a scanner has accepted.
-/

namespace Nullability.Literal

open Text

/-- What is left of a text after something was read from it, or nothing if it was not there. -/
abbrev Scan := Option (List Char)

/-- The rest of a text after the given opening characters. -/
def after : List Char → List Char → Scan
  | [], cs => some cs
  | p :: ps, c :: cs => if p = c then after ps cs else none
  | _ :: _, [] => none

def isHexDigit (c : Char) : Bool :=
  c.isDigit || ('a' ≤ c && c ≤ 'f') || ('A' ≤ c && c ≤ 'F')

def hexValue (c : Char) : Nat :=
  if c.isDigit then c.toNat - '0'.toNat
  else if 'a' ≤ c && c ≤ 'f' then 10 + (c.toNat - 'a'.toNat)
  else 10 + (c.toNat - 'A'.toNat)

/-- An unraw identifier: its characters and the rest. -/
def identifier : List Char → Option (List Char × List Char)
  | c :: cs =>
    if isIdentifierStart c then some (c :: cs.takeWhile isIdentifierPart, cs.dropWhile isIdentifierPart)
    else none
  | [] => none

/-- A literal may carry an identifier as its suffix. -/
def suffix (cs : List Char) : List Char :=
  match identifier cs with
  | some (_, rest) => rest
  | none => cs

/-- The rules that tell the kinds of quoted text apart. -/
structure QuoteRules where
  /-- Whether a plain character may stand in the text. -/
  admits : Char → Bool
  /-- Whether the two digits of a numeric escape are in order. -/
  admitsHex : Char → Char → Bool
  /-- The letters of the escapes of one character. -/
  letters : List Char
  /-- Whether a Unicode escape may stand in the text, and for which value. -/
  admitsUnicode : Nat → Bool

namespace QuoteRules

def text : QuoteRules where
  admits := fun _ => true
  admitsHex := fun hi lo => '0' ≤ hi && hi ≤ '7' && isHexDigit lo
  letters := ['n', 'r', 't', '\\', '\'', '"', '0']
  admitsUnicode := fun _ => true

def bytes : QuoteRules where
  admits := fun c => c.toNat < 0x80
  admitsHex := fun hi lo => isHexDigit hi && isHexDigit lo
  letters := ['n', 'r', 't', '\\', '\'', '"', '0']
  admitsUnicode := fun _ => false

/-- Text that ends at the first zero character, which therefore may not stand in it. -/
def zeroEnded : QuoteRules where
  admits := fun c => c != '\x00'
  admitsHex := fun hi lo => isHexDigit hi && isHexDigit lo && !(hi == '0' && lo == '0')
  letters := ['n', 'r', 't', '\\', '\'', '"']
  admitsUnicode := fun n => n != 0

end QuoteRules

/-- The digits of a Unicode escape up to its closing brace: at most six, underscores aside. -/
def unicodeDigits (count value : Nat) : List Char → Option (Nat × List Char)
  | [] => none
  | c :: cs =>
    if isHexDigit c then
      if count = 6 then none else unicodeDigits (count + 1) (value * 16 + hexValue c) cs
    else if c = '_' && 0 < count then unicodeDigits count value cs
    else if c = '\x7d' && 0 < count then
      if value.isValidChar then some (value, cs) else none
    else none

/-- What follows the backslash of an escape, line continuations aside. -/
def escape (rules : QuoteRules) : List Char → Scan
  | 'x' :: hi :: lo :: cs => if rules.admitsHex hi lo then some cs else none
  | 'u' :: '\x7b' :: cs =>
    match unicodeDigits 0 0 cs with
    | some (value, rest) => if rules.admitsUnicode value then some rest else none
    | none => none
  | c :: cs => if rules.letters.contains c then some cs else none
  | [] => none

/-- The blanks that a backslash at the end of a line skips; a carriage return has to be followed by
a line feed, and something has to follow the blanks. -/
def continuation : List Char → Scan
  | '\r' :: '\n' :: cs => continuation cs
  | '\r' :: _ => none
  | c :: cs => if c = ' ' || c = '\t' || c = '\n' then continuation cs else some (c :: cs)
  | [] => none

/-- The body of a quoted text up to its closing quote. -/
def quotedBody (rules : QuoteRules) : Nat → List Char → Scan
  | 0, _ => none
  | fuel + 1, cs =>
    match cs with
    | [] => none
    | '"' :: rest => some (suffix rest)
    | '\r' :: '\n' :: rest => quotedBody rules fuel rest
    | '\r' :: _ => none
    | '\\' :: '\n' :: rest => (continuation ('\n' :: rest)).bind (quotedBody rules fuel)
    | '\\' :: '\r' :: rest => (continuation ('\r' :: rest)).bind (quotedBody rules fuel)
    | '\\' :: rest => (escape rules rest).bind (quotedBody rules fuel)
    | c :: rest => if rules.admits c then quotedBody rules fuel rest else none

/-- A quoted text from its opening quote on. -/
def quoted (rules : QuoteRules) (cs : List Char) : Scan :=
  (after ['"'] cs).bind fun rest => quotedBody rules (rest.length + 1) rest

/-- The body of a raw text that is closed by a quote and the given number of hash signs. -/
def rawBody (admits : Char → Bool) (hashes : List Char) : List Char → Scan
  | [] => none
  | '\r' :: '\n' :: rest => rawBody admits hashes rest
  | '\r' :: _ => none
  | c :: rest =>
    match if c = '"' then after hashes rest else none with
    | some left => some (suffix left)
    | none => if admits c then rawBody admits hashes rest else none

/-- A raw text from its hash signs on; at most 255 of them. -/
def raw (admits : Char → Bool) (cs : List Char) : Scan :=
  let hashes := cs.takeWhile (· == '#')
  if 255 < hashes.length then none
  else (after (hashes ++ ['"']) cs).bind (rawBody admits hashes)

/-- One character or byte in single quotes, from the opening quote on. -/
def singleQuoted (rules : QuoteRules) (cs : List Char) : Scan :=
  let body := (after ['\''] cs).bind fun
    | '\\' :: rest => escape rules rest
    | c :: rest => if rules.admits c then some rest else none
    | [] => none
  (body.bind (after ['\''])).map suffix

/-- The digits of the whole part of a number with a point or an exponent. -/
def floatDigits (cs : List Char) : Scan :=
  match cs with
  | [] => none
  | first :: rest =>
    if !first.isDigit then none
    else
      let digit := fun c : Char => c.isDigit || c == '_'
      let whole := rest.dropWhile digit
      let withPoint : Option (Bool × List Char) :=
        match whole with
        | '.' :: tail =>
          match tail with
          | c :: _ => if c = '.' || isIdentifierStart c then none else some (true, tail.dropWhile digit)
          | [] => some (true, [])
        | _ => some (false, whole)
      match withPoint with
      | none => none
      | some (point, mantissa) =>
        match mantissa with
        | e :: tail =>
          if e = 'e' || e = 'E' then
            let beforeExponent : Scan := if point then some mantissa else none
            let blank := tail.dropWhile (· == '_')
            let unsigned := match blank with
              | s :: more => if s = '+' || s = '-' then (true, more) else (false, blank)
              | [] => (false, blank)
            let exponent := unsigned.2.dropWhile (· == '_')
            match exponent with
            | d :: _ =>
              if d.isDigit then some (exponent.dropWhile digit) else beforeExponent
            | [] => beforeExponent
          else if point then some mantissa else none
        | [] => if point then some mantissa else none

/-- The digits of a whole number, its base mark included. -/
def wholeDigits (cs : List Char) : Scan :=
  let (base, body) : Nat × List Char := match cs with
    | '0' :: 'x' :: rest => (16, rest)
    | '0' :: 'o' :: rest => (8, rest)
    | '0' :: 'b' :: rest => (2, rest)
    | _ => (10, cs)
  go base true body
where
  /-- The digits of a base; `blank` holds as long as no digit has been read. -/
  go (base : Nat) (blank : Bool) : List Char → Scan
    | [] => if blank then none else some []
    | c :: rest =>
      if c.isDigit then
        if hexValue c < base then go base false rest else none
      else if isHexDigit c && hexValue c < base then go base false rest
      else if c = '_' then
        if blank && base = 10 then none else go base blank rest
      else if blank then none else some (c :: rest)

/-- A number with its suffix; no identifier character may follow it. -/
def number (digits : List Char → Scan) (cs : List Char) : Scan :=
  (digits cs).bind fun rest =>
    let rest := suffix rest
    match rest with
    | c :: _ => if isIdentifierPart c then none else some rest
    | [] => some rest

/-- A literal of any kind. -/
def scan (cs : List Char) : Scan :=
  quoted .text cs
    <|> (after ['r'] cs).bind (raw fun _ => true)
    <|> (after ['b'] cs).bind (quoted .bytes)
    <|> (after ['b', 'r'] cs).bind (raw QuoteRules.bytes.admits)
    <|> (after ['c'] cs).bind (quoted .zeroEnded)
    <|> (after ['c', 'r'] cs).bind (raw QuoteRules.zeroEnded.admits)
    <|> (after ['b'] cs).bind (singleQuoted .bytes)
    <|> singleQuoted .text cs
    <|> number floatDigits cs
    <|> number wholeDigits cs

/-- The kinds of literals that the grammar tells apart. -/
inductive Kind
  | text | whole | float | other
  deriving DecidableEq, Repr

/-- What follows the digits of a decimal number makes it a float if it has a point or an exponent
with a value that ends the number or is followed by a suffix. -/
private def decimalKind : List Char → Kind
  | [] => .whole
  | c :: rest =>
    if c.isDigit || c = '_' then decimalKind rest
    else if c = '.' then .float
    else if c = 'e' || c = 'E' then
      let tail := rest.dropWhile fun d => d.isDigit || d == '_'
      match tail with
      | '+' :: _ | '-' :: _ => .float
      | _ => if (rest.take (rest.length - tail.length)).any Char.isDigit then .float else .whole
    else .whole

/-- The kind of a literal, told from its spelling. -/
def Kind.of (spelling : List Char) : Kind :=
  match spelling with
  | '"' :: _ | 'r' :: _ => .text
  | '0' :: 'x' :: _ | '0' :: 'o' :: _ | '0' :: 'b' :: _ => .whole
  | c :: _ => if c.isDigit then decimalKind spelling else .other
  | [] => .other

/-- The value of a whole number and its suffix. -/
def wholeParts (spelling : List Char) : Nat × List Char :=
  match spelling with
  | '0' :: 'x' :: rest => go 16 0 rest
  | '0' :: 'o' :: rest => go 8 0 rest
  | '0' :: 'b' :: rest => go 2 0 rest
  | _ => go 10 0 spelling
where
  /-- Adds the digits of a base to the value of those before them. -/
  go (base value : Nat) : List Char → Nat × List Char
    | [] => (value, [])
    | c :: rest =>
      if c = '_' then go base value rest
      else if isHexDigit c && hexValue c < base then go base (value * base + hexValue c) rest
      else (value, c :: rest)

end Nullability.Literal
