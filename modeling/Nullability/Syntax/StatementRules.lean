import Nullability.Syntax.ExprRules

/-!
Statements. `itemRest` reads the item that follows attributes already read; the items are given as a
parameter since they have a module of their own.
-/

namespace Nullability.Syntax.Grammar

open Parser

/-- A variable with its type, its value, and the block that is run if the value does not match. -/
def localVariable (g : Grammar) (attributes : AttributeList) : Parser Node := do
  word "let"
  let pattern ← g.pattern
  let type ← if ← punct? ":" then pure [← g.type true] else pure []
  let value ← if ← punct? "=" then do
      let value ← g.expr true
      let endsInBrace := (← get).afterBrace
      if !endsInBrace && (← cursor).isWord "else" then
        word "else"
        pure [value, ← g.block]
      else pure [value]
    else pure []
  punct ";"
  return .part (attributes.nodes ++ pattern :: type ++ value)

/-- Whether an item begins here, macros aside. -/
def opensItem (ts : Cursor) : Bool :=
  let second := ts.skip
  let third := second.skip
  ts.isWord "pub"
    || (ts.isWord "crate" && !second.isPunct "::")
    || ts.isWord "extern" || ts.isWord "use"
    || (ts.isWord "static"
      && (second.isWord "mut"
        || (second.isIdent && !(second.isWord "async" && (third.isWord "move" || third.isPunct "|")))))
    || (ts.isWord "const"
      && !(second.isGroup .brace || second.isWord "static"
        || (second.isWord "async"
          && !(third.isWord "unsafe" || third.isWord "extern" || third.isWord "fn"))
        || second.isWord "move" || second.isPunct "|"))
    || (ts.isWord "unsafe" && !second.isGroup .brace)
    || (ts.isWord "async" && (second.isWord "unsafe" || second.isWord "extern" || second.isWord "fn"))
    || ts.isWord "fn" || ts.isWord "mod" || ts.isWord "type" || ts.isWord "struct" || ts.isWord "enum"
    || (ts.isWord "union" && second.isIdent)
    || (ts.isWord "auto" && second.isWord "trait")
    || ts.isWord "trait"
    || (ts.isWord "default" && (second.isWord "unsafe" || second.isWord "impl"))
    || ts.isWord "impl" || ts.isWord "macro"

/-- What a statement that begins with a path and an exclamation mark is. -/
inductive MacroStart
  | item | braced | none

def macroStart : Parser MacroStart := do
  match ← attempt (plainPath *> cursor) with
  | none => return .none
  | some ts =>
    let second := ts.skip
    let third := second.skip
    if !ts.isPunct "!" then return .none
    else if second.isIdent || second.isWord "try" then return .item
    else if second.isGroup .brace && !((third.isPunct "." && !third.isPunct "..") || third.isPunct "?") then
      return .braced
    else return .none

/-- A statement and whether something may follow it without a semicolon. -/
def statement (g : Grammar) (itemRest : AttributeList → Parser Node) : Parser (Node × Bool) := do
  let attributes ← g.outerAttributes
  let kind ← ahead macroStart
  match kind with
  | .braced =>
    let _ ← plainPath
    punct "!"
    let _ ← anyGroup
    let _ ← punct? ";"
    return (.part attributes.nodes, true)
  | .item => return (← itemRest attributes, true)
  | .none =>
    let ts ← cursor
    if ts.isWord "let" then return (← localVariable g attributes, true)
    if opensItem ts then return (← itemRest attributes, true)
    let e ← g.early
    let separated ← punct? ";"
    let braced := match e.form with
      | .expr (.macroCall true) => true
      | _ => false
    return (.part (attributes.nodes ++ [e]), separated || braced || isBlock e)

/-- The statements that fill the rest of a block. -/
def statementsRule (g : Grammar) (itemRest : AttributeList → Parser Node) : Parser (List Node) :=
  iterate [] fun done => do
    if ← punct? ";" then return .inl done
    if ← atEnd then return .inr done.reverse
    let (s, complete) ← statement g itemRest
    if ← atEnd then return .inr (s :: done).reverse
    if !complete then fail .statementEnd
    return .inl (s :: done)

end Nullability.Syntax.Grammar
