import Nullability.Source.Literal
import Nullability.Source.TokenTree

/-!
Tests on the tokens that are still to be read. None of them reads anything.
-/

namespace Nullability.Syntax

/-- The tokens still to be read in the innermost open group. -/
abbrev Cursor := List TokenTree

/-- The words that are no identifiers unless written raw. -/
def reservedWords : List String :=
  ["_", "abstract", "as", "async", "await", "become", "box", "break", "const", "continue", "crate",
   "do", "dyn", "else", "enum", "extern", "false", "final", "fn", "for", "if", "impl", "in", "let",
   "loop", "macro", "match", "mod", "move", "mut", "override", "priv", "pub", "ref", "return", "Self",
   "self", "static", "struct", "super", "trait", "true", "try", "type", "typeof", "unsafe", "unsized",
   "use", "virtual", "where", "while", "yield"]

namespace Cursor

/-- The tokens after the first one; a lifetime counts as one token. -/
def skip : Cursor → Cursor
  | .punct '\'' true _ :: .ident _ _ :: rest => rest
  | _ :: rest => rest
  | [] => []

def isAnyIdent : Cursor → Bool
  | .ident _ _ :: _ => true
  | _ => false

/-- Whether an identifier stands here that is no reserved word. -/
def isIdent : Cursor → Bool
  | .ident text _ :: _ => !reservedWords.contains text
  | _ => false

def isWord (word : String) : Cursor → Bool
  | .ident text _ :: _ => text == word
  | _ => false

def isLifetime : Cursor → Bool
  | .punct '\'' true _ :: .ident _ _ :: _ => true
  | _ => false

def isGroup (d : Delimiter) : Cursor → Bool
  | .group d' _ _ _ :: _ => d' == d
  | _ => false

/-- The tokens after punctuation characters that follow each other without a blank. -/
def afterChars : List Char → Cursor → Option Cursor
  | [], ts => some ts
  | [c], .punct c' _ _ :: rest => if c' = c && c ≠ '\'' then some rest else none
  | c :: cs, .punct c' true _ :: rest => if c' = c && c ≠ '\'' then afterChars cs rest else none
  | _, _ => none

def isPunct (text : String) (ts : Cursor) : Bool :=
  (afterChars text.toList ts).isSome

/-- The literal that stands here, with the number of its tokens: a truth value is one, and so is a
number after a minus sign. -/
def literal? : Cursor → Option (Literal.Kind × String × Cursor)
  | .literal text _ :: rest => some (Literal.Kind.of text.toList, text, rest)
  | .ident text _ :: rest => if text == "true" || text == "false" then some (.other, text, rest) else none
  | .punct '-' _ _ :: .literal text _ :: rest =>
    match Literal.Kind.of text.toList with
    | .whole => some (.whole, "-" ++ text, rest)
    | .float => some (.float, "-" ++ text, rest)
    | _ => none
  | _ => none

def isLiteral (ts : Cursor) : Bool := ts.literal?.isSome

def isLiteralOf (kind : Literal.Kind) (ts : Cursor) : Bool :=
  match ts.literal? with
  | some (k, _, _) => k == kind
  | none => false

end Cursor

end Nullability.Syntax
