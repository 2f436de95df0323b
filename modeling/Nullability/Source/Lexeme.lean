import Nullability.Source.Literal
import Nullability.Source.TokenTree
import Nullability.Text.Blank

/-!
Lexemes: the words of a source text, in order, each with its mark. Blanks and plain comments separate
lexemes and are dropped; a documentation comment is a lexeme of its own. `scan` stops at the first
place where no lexeme stands and reports it.
-/

namespace Nullability

/-- A word of the source text. -/
inductive Lexeme
  | opening (delimiter : Delimiter)
  | closing (delimiter : Delimiter)
  | ident (text : String)
  | punct (char : Char) (joint : Bool)
  | literal (text : String)
  /-- A documentation comment, which belongs to what encloses it if it is an inner one. -/
  | comment (inner : Bool) (text : String)
  deriving Repr

namespace Lexeme

open Text Literal

/-- A nested block comment: its characters, marks included, and the rest. -/
def blockComment (depth : Nat) : List Char → Option (List Char × List Char)
  | '/' :: '*' :: cs => (blockComment (depth + 1) cs).map fun (body, rest) => ('/' :: '*' :: body, rest)
  | '*' :: '/' :: cs =>
    if depth ≤ 1 then some (['*', '/'], cs)
    else (blockComment (depth - 1) cs).map fun (body, rest) => ('*' :: '/' :: body, rest)
  | c :: cs => (blockComment depth cs).map fun (body, rest) => (c :: body, rest)
  | [] => none

/-- The rest of a line: its characters, a carriage return before the line feed aside, and the rest of
the text from the line feed on. -/
def lineEnd : List Char → List Char × List Char
  | [] => ([], [])
  | '\n' :: cs => ([], '\n' :: cs)
  | '\r' :: '\n' :: cs => ([], '\n' :: cs)
  | c :: cs => let (line, rest) := lineEnd cs; (c :: line, rest)

/-- The comment that stands here and documents nothing: what is left after it. -/
def plainComment : List Char → Scan
  | '/' :: '/' :: cs =>
    match cs with
    | '!' :: _ => none
    | '/' :: '/' :: _ => some (lineEnd cs).2
    | '/' :: _ => none
    | _ => some (lineEnd cs).2
  | '/' :: '*' :: cs =>
    let plain := (blockComment 1 cs).map Prod.snd
    match cs with
    | '*' :: '/' :: rest => some rest
    | '!' :: _ => none
    | '*' :: '*' :: _ => plain
    | '*' :: _ => none
    | _ => plain
  | _ => none

/-- The text after the blanks and plain comments that stand here. -/
def skipBlank : Nat → List Char → List Char
  | 0, cs => cs
  | fuel + 1, cs =>
    match plainComment cs with
    | some rest => skipBlank fuel rest
    | none =>
      match cs with
      | c :: rest => if isSourceBlank c then skipBlank fuel rest else cs
      | [] => []

/-- Whether every carriage return is followed by a line feed. -/
def pairedReturns : List Char → Bool
  | [] => true
  | '\r' :: '\n' :: cs => pairedReturns cs
  | '\r' :: _ => false
  | _ :: cs => pairedReturns cs

/-- A documentation comment: whether it is an inner one, its text and the rest. -/
def docComment (cs : List Char) : Option (Bool × List Char × List Char) :=
  let found : Option (Bool × List Char × List Char) := match cs with
    | '/' :: '/' :: '!' :: rest => some (true, lineEnd rest)
    | '/' :: '*' :: '!' :: rest => (blockComment 1 ('!' :: rest)).map fun (body, left) =>
        (true, (body.drop 1).dropLast.dropLast, left)
    | '/' :: '/' :: '/' :: '/' :: _ => none
    | '/' :: '/' :: '/' :: rest => some (false, lineEnd rest)
    | '/' :: '*' :: '*' :: '*' :: _ => none
    | '/' :: '*' :: '*' :: rest => (blockComment 1 ('*' :: rest)).map fun (body, left) =>
        (false, (body.drop 1).dropLast.dropLast, left)
    | _ => none
  found.filter fun (_, body, _) => pairedReturns body

/-- The punctuation character that stands here and the rest; a comment does not begin with one. -/
def punctuation : List Char → Option (Char × List Char)
  | '/' :: '/' :: _ | '/' :: '*' :: _ => none
  | c :: cs => if "~!@#$%^&*-=+|;:,<.>/?'".toList.contains c then some (c, cs) else none
  | [] => none

/-- Identifiers that have no raw spelling. -/
def unraw : List String := ["_", "super", "self", "Self", "crate"]

/-- An identifier with its raw mark, if it has one. -/
def rawOrPlain (cs : List Char) : Option (List Char × List Char) :=
  match cs with
  | 'r' :: '#' :: tail =>
    match identifier tail with
    | some (name, rest) =>
      if unraw.contains (String.ofList name) then none else some ('r' :: '#' :: name, rest)
    | none => none
  | _ => identifier cs

/-- The beginnings of quoted texts, which are no identifiers even where the text is not closed. -/
def quoteOpenings : List (List Char) :=
  ["r\"", "r#\"", "r##", "b\"", "b'", "br\"", "br#", "c\"", "cr\"", "cr#"].map String.toList

/-- An identifier, unless a quoted text begins here. -/
def word (cs : List Char) : Option (List Char × List Char) :=
  if quoteOpenings.any (·.isPrefixOf cs) then none else rawOrPlain cs

/-- A quote mark opens a lifetime if an identifier follows that is not itself closed by a quote or
followed by a hash sign. -/
def opensLifetime (cs : List Char) : Bool :=
  match rawOrPlain cs with
  | some (_, '\'' :: _) => false
  | some (_, '#' :: _) => ['r', '#'].isPrefixOf cs
  | some _ => true
  | none => false

/-- The spelling of an expression that a compiler has given up on; it is read as one literal. -/
def erroneous : List Char := "(/*ERROR*/)".toList

/-- The lexeme that stands here, blanks before it excluded, and the rest. -/
def next? (cs : List Char) : Option (Lexeme × List Char) :=
  match docComment cs with
  | some (inner, body, rest) => some (comment inner (String.ofList body), rest)
  | none =>
    match after erroneous cs with
    | some rest => some (literal (String.ofList erroneous), rest)
    | none =>
      match cs with
      | [] => none
      | c :: tail =>
        match Delimiter.ofOpening? c, Delimiter.ofClosing? c with
        | some d, _ => some (opening d, tail)
        | none, some d => some (closing d, tail)
        | none, none =>
          match Literal.scan cs with
          | some rest => some (literal (String.ofList (cs.take (cs.length - rest.length))), rest)
          | none =>
            match punctuation cs with
            | some ('\'', rest) => if opensLifetime rest then some (punct '\'' true, rest) else none
            | some (p, rest) => some (punct p (punctuation rest).isSome, rest)
            | none => (word cs).map fun (name, rest) => (ident (String.ofList name), rest)

/-- The lexemes of a text, and the place where none stands if the text is not read to its end. -/
def scan : Nat → List Char → List (Lexeme × Mark) × Option Mark
  | 0, _ => ([], none)
  | fuel + 1, cs =>
    let here := skipBlank cs.length cs
    if here.isEmpty then ([], none)
    else
      match next? here with
      | none => ([], some here.length)
      | some (lexeme, rest) =>
        let (more, bad) := scan fuel rest
        ((lexeme, here.length) :: more, bad)

/-- The lexemes of a whole text. -/
def ofText (text : List Char) : List (Lexeme × Mark) × Option Mark :=
  scan (text.length + 1) text

end Lexeme

end Nullability
