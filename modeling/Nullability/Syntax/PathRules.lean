import Nullability.Syntax.AttributeRules

/-!
Paths with generic arguments, and return types. In expressions a less-than sign after a segment is an
operator, so there the arguments of a segment begin with two colons.
-/

namespace Nullability.Syntax.Grammar

open Parser

/-- The type after an arrow, if there is one. -/
def returnType (g : Grammar) (plus : Bool) : Parser (List Node) := do
  if ← punct? "->" then return [← g.type plus] else return []

/-- Argument types in parentheses and a return type. -/
def parenthesizedArguments (g : Grammar) : Parser (List Node) := do
  let inputs ← group .parenthesis (commaList (g.type true))
  return inputs ++ (← g.returnType false)

/-- A constant in the place of a type: a literal, a name or a block. -/
def constArgument (g : Grammar) : Parser Node := do
  let ts ← cursor
  if ts.isLiteral then
    literal
    return .node (.expr .other) []
  else if ts.isIdent then
    let _ ← ident
    return .node (.expr .other) []
  else if ts.isGroup .brace then
    let (attributes, statements) ← g.attributedBlock
    return .node (.expr .block) (attributes.nodes ++ statements)
  else failExpecting []

/-- Bounds joined by plus signs up to where `stop` holds. -/
def bounds (g : Grammar) (stop : Cursor → Bool) : Parser (List Node) :=
  joined "+" stop (g.bound false true)

/-- One generic argument of a path segment. -/
def genericArgument (g : Grammar) : Parser Node := do
  let ts ← cursor
  if ts.isLifetime && !ts.skip.isPunct "+" then
    let _ ← lifetime
    return .part []
  if ts.isLiteral || ts.isGroup .brace then return ← g.constArgument
  let argument ← g.type true
  match argument.form with
  | .type (.path false ⟨false, 1, _, style⟩) =>
    if style == .parenthesized then return argument
    if ← punct? "=" then
      let ts ← cursor
      let value ← if ts.isLiteral || ts.isGroup .brace then g.constArgument else g.type true
      return .part (argument.parts ++ [value])
    if ← punct? ":" then
      let bs ← g.bounds fun ts => ts.isPunct "," || ts.isPunct ">"
      return .part (argument.parts ++ bs)
    return argument
  | _ => return argument

/-- Generic arguments in angle brackets, from the opening bracket on. -/
def angledArguments (g : Grammar) : Parser (List Node) := do
  punct "<"
  let arguments ← separated "," (·.isPunct ">") g.genericArgument
  punct ">"
  return arguments

/-- A path segment: the style of its arguments and the arguments. -/
def pathSegment (g : Grammar) (inExpr : Bool) : Parser (ArgumentStyle × List Node) := do
  let ts ← cursor
  if ts.isWord "super" || ts.isWord "self" || ts.isWord "crate" || ts.isWord "try" then
    let _ ← anyIdent
    return (.absent, [])
  let _ ← if ts.isWord "Self" then anyIdent else ident
  let ts ← cursor
  if (!inExpr && ts.isPunct "<" && !ts.isPunct "<=") || (ts.isPunct "::" && ts.skip.skip.isPunct "<") then
    let _ ← punct? "::"
    return (.angled, ← g.angledArguments)
  return (.absent, [])

/-- The shape of a path made of the given segments. -/
def pathShape (absolute : Bool) (segments : List (ArgumentStyle × List Node)) : PathShape where
  absolute := absolute
  segments := segments.length
  plain := segments.all (·.1 == .absent)
  lastArguments := match segments.getLast? with
    | some (style, _) => style
    | none => .absent

/-- A path: its shape and the constructs in its arguments. -/
def path (g : Grammar) (inExpr : Bool) : Parser (PathShape × List Node) := do
  let absolute ← punct? "::"
  let first ← g.pathSegment inExpr
  let more ← whileTrue (fun ts => ts.isPunct "::" && !ts.skip.skip.isGroup .parenthesis) do
    punct "::"
    g.pathSegment inExpr
  let segments := first :: more
  return (pathShape absolute segments, segments.flatMap Prod.snd)

/-- The path of an associated item of a type, which is written first in angle brackets. -/
def qualifiedPath (g : Grammar) (inExpr : Bool) : Parser (PathShape × List Node) := do
  punct "<"
  let type ← g.type true
  let role ← if ← word? "as" then g.path false else pure (pathShape false [], [])
  punct ">"
  punct "::"
  let segments ← iterate ([] : List (ArgumentStyle × List Node)) fun done => do
    let segment ← g.pathSegment inExpr
    if ← punct? "::" then return .inl (segment :: done)
    return .inr (segment :: done).reverse
  return (pathShape false segments, type :: role.2 ++ segments.flatMap Prod.snd)

/-- A path of either kind: whether it is a qualified one, its shape and the constructs in it. -/
def anyPath (g : Grammar) (inExpr : Bool) : Parser (Bool × PathShape × List Node) := do
  if (← cursor).isPunct "<" then return (true, ← g.qualifiedPath inExpr)
  else return (false, ← g.path inExpr)

/-- Arguments in parentheses after a path whose last segment has no arguments yet. -/
def withParenthesized (g : Grammar) (shape : PathShape) (parts : List Node) :
    Parser (PathShape × List Node) := do
  let ts ← cursor
  if shape.lastArguments == .absent
      && (ts.isGroup .parenthesis || (ts.isPunct "::" && ts.skip.skip.isGroup .parenthesis)) then
    let _ ← punct? "::"
    let arguments ← g.parenthesizedArguments
    return ({ shape with plain := false, lastArguments := .parenthesized }, parts ++ arguments)
  return (shape, parts)

end Nullability.Syntax.Grammar
