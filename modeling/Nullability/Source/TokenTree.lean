import Nullability.Source.Position

/-!
Token trees: what remains of a source text once blanks and plain comments are dropped and brackets
are matched. Every token keeps the mark of its first character.
-/

namespace Nullability

/-- The three kinds of brackets. -/
inductive Delimiter
  | parenthesis | bracket | brace
  deriving DecidableEq, Repr, Inhabited

namespace Delimiter

def opening : Delimiter → Char
  | parenthesis => '('
  | bracket => '['
  | brace => '\x7b'

def closing : Delimiter → Char
  | parenthesis => ')'
  | bracket => ']'
  | brace => '\x7d'

def ofOpening? (c : Char) : Option Delimiter :=
  [parenthesis, bracket, brace].find? (·.opening == c)

def ofClosing? (c : Char) : Option Delimiter :=
  [parenthesis, bracket, brace].find? (·.closing == c)

/-- How an error message names a bracketed group. -/
def groupName : Delimiter → String
  | parenthesis => "parentheses"
  | bracket => "square brackets"
  | brace => "curly braces"

end Delimiter

/-- A token, or a bracketed group of them. A punctuation character is joint when another follows
at once; an identifier keeps its raw mark; a literal keeps its spelling. -/
inductive TokenTree
  | ident (text : String) (start : Mark)
  | punct (char : Char) (joint : Bool) (start : Mark)
  | literal (text : String) (start : Mark)
  | group (delimiter : Delimiter) (content : List TokenTree) (start stop : Mark)
  deriving Inhabited

namespace TokenTree

/-- Where the token begins. -/
def start : TokenTree → Mark
  | ident _ m | punct _ _ m | literal _ m | group _ _ m _ => m

mutual

/-- The number of tokens in a tree, a group counting for one more than its content. -/
def size : TokenTree → Nat
  | group _ content _ _ => 1 + sizeAll content
  | _ => 1

/-- The number of tokens in a list of trees. -/
def sizeAll : List TokenTree → Nat
  | [] => 0
  | t :: rest => size t + sizeAll rest

end

end TokenTree

end Nullability
