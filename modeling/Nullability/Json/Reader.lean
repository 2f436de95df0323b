import Nullability.Json.Fault

/-!
Reading JSON text character by character: blanks, words, strings and numbers. Every reader stops at the
first fault in the text.
-/

namespace Nullability.Json

abbrev Reader := StateT (List Char) (Except Fault)

namespace Reader

variable {α : Type}

/-- Refuses the text at the place reached. -/
def fail (c : Cause) : Reader α := do throw ⟨c, (← get).length, false⟩

/-- Refuses the next character. -/
def failNext (c : Cause) : Reader α := do throw ⟨c, (← get).length, true⟩

def isBlank (c : Char) : Bool := c == ' ' || c == '\n' || c == '\t' || c == '\r'

/-- Skips blanks and answers what is left. -/
def skipBlank : Reader (List Char) := do
  modify fun cs => cs.dropWhile isBlank
  get

def drop (n : Nat) : Reader Unit := modify fun cs => cs.drop n

/-- Reads the rest of a word. -/
def word : List Char → Reader Unit
  | [] => pure ()
  | w :: ws => do
    match ← get with
    | [] => fail .endInValue
    | c :: rest =>
      set rest
      if c = w then word ws else fail .word

def hexValue? (c : Char) : Option Nat :=
  if c.isDigit then some (c.toNat - '0'.toNat)
  else if 'a' ≤ c && c ≤ 'f' then some (10 + (c.toNat - 'a'.toNat))
  else if 'A' ≤ c && c ≤ 'F' then some (10 + (c.toNat - 'A'.toNat))
  else none

/-- The number of a character escape. -/
def fourDigits : Reader Nat := do
  match ← get with
  | a :: b :: c :: d :: rest =>
    set rest
    match hexValue? a, hexValue? b, hexValue? c, hexValue? d with
    | some a, some b, some c, some d => return ((a * 16 + b) * 16 + c) * 16 + d
    | _, _, _, _ => fail .escape
  | _ =>
    set ([] : List Char)
    fail .endInString

/-- A character given by number, outside the basic plane by two numbers. If `strict` does not hold, the
numbers are not looked at. -/
def numberedChar (strict : Bool) : Reader Char := do
  let n ← fourDigits
  if !strict then return ' '
  if 0xDC00 ≤ n && n ≤ 0xDFFF then fail .loneSurrogate
  if n < 0xD800 || 0xDBFF < n then return Char.ofNat n
  match ← get with
  | [] => fail .endInString
  | c :: rest =>
    set rest
    if c ≠ '\\' then fail .openSurrogate
    match rest with
    | [] => fail .endInString
    | c :: rest =>
      set rest
      if c ≠ 'u' then fail .openSurrogate
      let low ← fourDigits
      if low < 0xDC00 || 0xDFFF < low then fail .loneSurrogate
      return Char.ofNat ((n - 0xD800) * 0x400 + (low - 0xDC00) + 0x10000)

/-- What follows the backslash of an escape. -/
def escape (strict : Bool) : Reader Char := do
  match ← get with
  | [] => fail .endInString
  | c :: rest =>
    set rest
    match c with
    | '"' => return '"'
    | '\\' => return '\\'
    | '/' => return '/'
    | 'b' => return '\x08'
    | 'f' => return '\x0c'
    | 'n' => return '\n'
    | 'r' => return '\r'
    | 't' => return '\t'
    | 'u' => numberedChar strict
    | _ => fail .escape

/-- The characters of a string behind its opening quote. -/
def stringBody (strict : Bool) : Nat → Reader (List Char)
  | 0 => fail .endInString
  | fuel + 1 => do
    match ← get with
    | [] => fail .endInString
    | c :: rest =>
      set rest
      if c = '"' then return []
      else if c = '\\' then
        let c ← escape strict
        return c :: (← stringBody strict fuel)
      else if c.toNat < 0x20 then fail .control
      else return c :: (← stringBody strict fuel)

/-- A string whose opening quote stands here. -/
def string (strict : Bool) : Reader String := do
  drop 1
  let cs ← get
  return String.ofList (← stringBody strict (cs.length + 1))

/-- A power of ten. -/
def tenTo (n : Nat) : Float := Float.ofScientific 1 false n

/-- A floating-point number from its digits and its decimal exponent. -/
def scaled (positive : Bool) (digits : Nat) (exponent : Int) : Reader Float := do
  let x := digits.toUInt64.toFloat
  let magnitude ←
    if 0 ≤ exponent then
      if digits = 0 then pure 0.0
      else if 308 < exponent then fail .numberRange
      else
        let y := x * tenTo exponent.toNat
        if y.isInf then fail .numberRange else pure y
    else
      let n := (-exponent).toNat
      if digits = 0 then pure 0.0
      else if n ≤ 308 then pure (x / tenTo n)
      else if n ≤ 616 then pure (x / tenTo 308 / tenTo (n - 308))
      else pure 0.0
  return if positive then magnitude else -magnitude

/-- Reads digits into a number for as long as it fits sixty-four bits. Answers the number, how many
digits were read, and whether another one follows that no longer fits. -/
def digitsInto (value count : Nat) : List Char → Nat × Nat × Bool × List Char
  | [] => (value, count, false, [])
  | c :: rest =>
    if c.isDigit then
      let next := value * 10 + (c.toNat - '0'.toNat)
      if next < Nat.pow 2 64 then digitsInto next (count + 1) rest else (value, count, true, c :: rest)
    else (value, count, false, c :: rest)

/-- The exponent of a number, its letter standing here. -/
def exponentPart (positive : Bool) (digits : Nat) (start : Int) : Reader Float := do
  drop 1
  let sign ← get
  let up ← match sign with
    | '+' :: _ => drop 1; pure true
    | '-' :: _ => drop 1; pure false
    | _ => pure true
  match ← get with
  | [] => fail .endInValue
  | c :: rest =>
    set rest
    if !c.isDigit then fail .number
    let all := (c :: rest).takeWhile Char.isDigit
    let value := all.foldl (fun n d => n * 10 + (d.toNat - '0'.toNat)) 0
    if value < Nat.pow 2 31 then
      set ((c :: rest).drop all.length)
      scaled positive digits (if up then start + value else start - value)
    else if digits ≠ 0 && up then
      let fitting := (List.range all.length).takeWhile fun n =>
        (all.take (n + 1)).foldl (fun n d => n * 10 + (d.toNat - '0'.toNat)) 0 < Nat.pow 2 31
      set ((c :: rest).drop (fitting.length + 1))
      fail .numberRange
    else
      set ((c :: rest).drop all.length)
      return if positive then 0.0 else -0.0

/-- The places of a number behind its point, which stands here. -/
def decimalPart (positive : Bool) (digits : Nat) (shift : Nat) : Reader Float := do
  drop 1
  let (value, count, full, rest) := digitsInto digits 0 (← get)
  set rest
  if full then
    set (rest.dropWhile Char.isDigit)
  else if count = 0 then
    match rest with
    | [] => failNext .endInValue
    | _ => failNext .number
  let exponent : Int := (shift : Int) - count
  match ← get with
  | 'e' :: _ | 'E' :: _ => exponentPart positive value exponent
  | _ => scaled positive value exponent

/-- A number whose sign has been read. -/
def number (positive : Bool) : Reader Number := do
  match ← get with
  | [] => fail .endInValue
  | first :: rest =>
    set rest
    if first = '0' then
      match rest with
      | c :: _ => if c.isDigit then failNext .number
      | [] => pure ()
      finish 0 0 false
    else if first.isDigit then
      let (value, _, full, rest) := digitsInto 0 0 (first :: rest)
      set rest
      if full then
        let more := rest.takeWhile Char.isDigit
        set (rest.drop more.length)
        finish value more.length true
      else finish value 0 false
    else fail .number
where
  /-- What follows the whole part; `shift` digits of it did not fit. -/
  finish (value shift : Nat) (long : Bool) : Reader Number := do
    match ← get with
    | '.' :: _ => return .float (← decimalPart positive value shift)
    | 'e' :: _ | 'E' :: _ => return .float (← exponentPart positive value shift)
    | _ =>
      if long then return .float (← scaled positive value shift)
      else if positive then return .natural value
      else if value = 0 || Nat.pow 2 63 < value then
        return .float (-value.toUInt64.toFloat)
      else return .negative value

/-- The digits of a number that is skipped. -/
def skippedNumber : Reader Unit := do
  match ← get with
  | [] => fail .number
  | first :: rest =>
    set rest
    if first = '0' then
      match rest with
      | c :: _ => if c.isDigit then failNext .number
      | [] => pure ()
    else if first.isDigit then set (rest.dropWhile Char.isDigit)
    else fail .number
    match ← get with
    | '.' :: rest =>
      set rest
      let digits := rest.takeWhile Char.isDigit
      set (rest.drop digits.length)
      if digits.isEmpty then failNext .number
      match ← get with
      | 'e' :: _ | 'E' :: _ => skippedExponent
      | _ => pure ()
    | 'e' :: _ | 'E' :: _ => skippedExponent
    | _ => pure ()
where
  skippedExponent : Reader Unit := do
    drop 1
    match ← get with
    | '+' :: _ | '-' :: _ => drop 1
    | _ => pure ()
    match ← get with
    | c :: rest =>
      if c.isDigit then set (rest.dropWhile Char.isDigit)
      else
        set rest
        fail .number
    | [] => fail .number

end Reader

end Nullability.Json
