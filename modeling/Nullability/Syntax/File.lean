import Nullability.Source.Nesting
import Nullability.Syntax.ItemRules
import Nullability.Syntax.StatementRules

/-!
Source files. `parse` reads a whole file into a syntax tree or says what is wrong with it. Everything
is placed by distance from the end of the file, and neither lexemes nor rules ever look at a place, so
blank lines in front of a file change no answer of `parse`.
-/

namespace Nullability.Syntax

open Parser

/-- The grammar whose rules call each other to the given depth. -/
def Grammar.ofDepth : Nat → Grammar
  | 0 => .exhausted
  | depth + 1 =>
    { type := fun plus e r => (ofDepth depth).typeRule plus e r
      bound := fun capture const e r => (ofDepth depth).boundRule capture const e r
      expr := fun braces e r => (ofDepth depth).exprRule braces e r
      unary := fun braces e r => (ofDepth depth).unaryRule braces e r
      operators := fun braces least lhs e r => (ofDepth depth).operatorsRule braces least lhs e r
      early := fun e r => (ofDepth depth).earlyRule e r
      pattern := fun e r => (ofDepth depth).patternRule e r
      statements := fun e r => (ofDepth depth).statementsRule (ofDepth depth).itemRest e r
      item := fun e r => (ofDepth depth).itemRule e r
      importTree := fun root e r => (ofDepth depth).importTreeRule root e r }

/-- A bound on the depth of the calls: between two tokens few rules can be entered. -/
def Grammar.depthFor (tokens : List TokenTree) : Nat := 8 * (TokenTree.sizeAll tokens + 4)

/-- The items of a file and the attributes of the file itself. -/
def fileRule (g : Grammar) : Parser Node := do
  let attributes ← g.innerAttributes
  return .part (attributes.nodes ++ (← untilEnd g.item))

/-- The text of a file without the byte order mark and the interpreter line at its start. The line end
of an interpreter line stays, so that the other lines keep their numbers. -/
def fileContent (text : List Char) : List Char :=
  let text := match text with
    | '\ufeff' :: rest => rest
    | _ => text
  match text with
  | '#' :: '!' :: rest =>
    match Lexeme.skipBlank rest.length rest with
    | '[' :: _ => text
    | _ => text.dropWhile (· != '\n')
  | _ => text

/-- Reads token trees as a file. A group that was left before its end is a fault only if there is no
other. -/
def ofTokens (tokens : List TokenTree) : Except Fault Node :=
  let g := Grammar.ofDepth (Grammar.depthFor tokens)
  match fileRule g ⟨none, none⟩ ⟨tokens, none, false⟩ with
  | .error fault => .error fault
  | .ok (tree, reading) =>
    match reading.leftover with
    | some (place, d) => .error ⟨.leftover d, false, some place⟩
    | none => .ok tree

/-- The syntax tree of the content of a file. -/
def parse (content : List Char) : Except Fault Node :=
  match TokenTree.ofText content with
  | .error place => .error ⟨.lexical, false, some place⟩
  | .ok tokens => ofTokens tokens

end Nullability.Syntax
