import Nullability.Source.Lexeme

/-!
Matching brackets: the token trees of a text. The first fault in reading order is reported: a
character that opens no token, a closing bracket that does not match, or at the end of the text the
innermost bracket left open.
-/

namespace Nullability.TokenTree

/-- A group that is still open: its bracket and what stands before it, last token first. -/
structure OpenGroup where
  delimiter : Delimiter
  start : Mark
  before : List TokenTree

/-- A documentation comment is read as the attribute that it abbreviates, last token first. -/
def ofComment (inner : Bool) (text : String) (m : Mark) : List TokenTree :=
  let content := [ident "doc" m, punct '=' false m, literal ("\"" ++ text ++ "\"") m]
  let hash := if inner then [punct '!' false m, punct '#' false m] else [punct '#' false m]
  group .bracket content m m :: hash

/-- Matches the brackets of the remaining lexemes; `current` holds the tokens of the innermost open
group, last token first. -/
def nest (bad : Option Mark) :
    List OpenGroup → List TokenTree → List (Lexeme × Mark) → Except Mark (List TokenTree)
  | stack, current, [] =>
    match bad, stack with
    | some m, _ => .error m
    | none, [] => .ok current.reverse
    | none, frame :: _ => .error frame.start
  | stack, current, (lexeme, m) :: rest =>
    match lexeme with
    | .opening d => nest bad (⟨d, m, current⟩ :: stack) [] rest
    | .closing d =>
      match stack with
      | frame :: outer =>
        if frame.delimiter = d then
          nest bad outer (group d current.reverse frame.start m :: frame.before) rest
        else .error m
      | [] => .error m
    | .ident text => nest bad stack (ident text m :: current) rest
    | .punct char joint => nest bad stack (punct char joint m :: current) rest
    | .literal text => nest bad stack (literal text m :: current) rest
    | .comment inner text => nest bad stack (ofComment inner text m ++ current) rest

/-- The token trees of a text, or the place of the first fault. A byte order mark at its start is
skipped. -/
def ofText (text : List Char) : Except Mark (List TokenTree) :=
  let body := match text with
    | '\ufeff' :: rest => rest
    | _ => text
  let (lexemes, bad) := Lexeme.ofText body
  nest bad [] [] lexemes

end Nullability.TokenTree
