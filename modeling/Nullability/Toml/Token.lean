/-!
Tokens of a TOML text. Every character belongs to a token, so the texts of the tokens, one after the
other, are the text itself. A string that is not closed reaches to the end of its line, or of the text
if it may have several lines.
-/

namespace Nullability.Toml

/-- How a string is quoted. -/
inductive Quoting
  | literal | longLiteral | basic | longBasic
  deriving DecidableEq, Repr

inductive Kind
  | dot | equals | comma
  | openBracket | closeBracket | openBrace | closeBrace
  | blank | lineBreak | comment
  | quoted (q : Quoting)
  /-- What is none of the others: bare keys, numbers, words. -/
  | atom
  /-- The end of the text. -/
  | finish
  deriving DecidableEq, Repr

/-- A token with the offset of its first character. -/
structure Token where
  kind : Kind
  start : Nat
  text : List Char
  deriving Repr

namespace Token

/-- The offset behind the token. -/
def stop (t : Token) : Nat := t.start + t.text.length

/-- The number of characters of a literal string of one line, its opening quote left out. -/
def literalLength (cs : List Char) : Nat :=
  let content := (cs.takeWhile fun c => c != '\'' && c != '\n').length
  match cs.drop content with
  | '\'' :: _ => content + 1
  | _ => content

/-- The number of quotes at the front, at most two. -/
def extraQuotes (quote : Char) (cs : List Char) : Nat := ((cs.take 2).takeWhile (· == quote)).length

/-- The number of characters of a literal string of several lines behind its opening quotes. -/
def longLiteralLength : List Char → Nat
  | [] => 0
  | '\'' :: '\'' :: '\'' :: rest => 3 + extraQuotes '\'' rest
  | _ :: rest => 1 + longLiteralLength rest

/-- The number of characters of a basic string of one line behind its opening quote. -/
def basicLength : List Char → Nat
  | [] => 0
  | '"' :: _ => 1
  | '\n' :: _ => 0
  | '\\' :: '\\' :: rest => 2 + basicLength rest
  | '\\' :: '"' :: rest => 2 + basicLength rest
  | _ :: rest => 1 + basicLength rest

/-- The number of characters of a basic string of several lines behind its opening quotes. -/
def longBasicLength : List Char → Nat
  | [] => 0
  | '"' :: '"' :: '"' :: rest => 3 + extraQuotes '"' rest
  | '\\' :: '\\' :: rest => 2 + longBasicLength rest
  | '\\' :: '"' :: rest => 2 + longBasicLength rest
  | _ :: rest => 1 + longBasicLength rest

def isBlank (c : Char) : Bool := c == ' ' || c == '\t'

/-- The characters that end an atom. Quotes do not, so that a string without its opening quote is one
token. -/
def atomEnd : List Char :=
  ['.', '=', ',', '[', ']', '\x7b', '\x7d', ' ', '\t', '#', '\r', '\n']

/-- The kind and the length of the first token of a text. -/
def first : List Char → Kind × Nat
  | [] => (.finish, 0)
  | '.' :: _ => (.dot, 1)
  | '=' :: _ => (.equals, 1)
  | ',' :: _ => (.comma, 1)
  | '[' :: _ => (.openBracket, 1)
  | ']' :: _ => (.closeBracket, 1)
  | '\x7b' :: _ => (.openBrace, 1)
  | '\x7d' :: _ => (.closeBrace, 1)
  | '\n' :: _ => (.lineBreak, 1)
  | '\r' :: '\n' :: _ => (.lineBreak, 2)
  | '\r' :: _ => (.lineBreak, 1)
  | '#' :: rest => (.comment, 1 + (rest.takeWhile fun c => c != '\r' && c != '\n').length)
  | '\'' :: '\'' :: '\'' :: rest => (.quoted .longLiteral, 3 + longLiteralLength rest)
  | '\'' :: rest => (.quoted .literal, 1 + literalLength rest)
  | '"' :: '"' :: '"' :: rest => (.quoted .longBasic, 3 + longBasicLength rest)
  | '"' :: rest => (.quoted .basic, 1 + basicLength rest)
  | c :: rest =>
    if isBlank c then (.blank, 1 + (rest.takeWhile isBlank).length)
    else (.atom, 1 + (rest.takeWhile (!atomEnd.contains ·)).length)

/-- The tokens of a text that begins at an offset, with one for its end. -/
def scan : Nat → Nat → List Char → List Token
  | 0, start, cs => [⟨.finish, start + cs.length, []⟩]
  | _, start, [] => [⟨.finish, start, []⟩]
  | fuel + 1, start, cs =>
    let (kind, length) := first cs
    ⟨kind, start, cs.take length⟩ :: scan fuel (start + length) (cs.drop length)

/-- The tokens of a text; a byte order mark at its start is skipped. -/
def ofText (text : List Char) : List Token :=
  match text with
  | '\ufeff' :: rest => scan rest.length 1 rest
  | _ => scan text.length 0 text

end Token

end Nullability.Toml
