import Nullability.Syntax.Grammar

/-!
Attributes and visibilities. An attribute is read with the constructs nested in it: only a value after
an equals sign is read into the tree, a bracketed list stays a list of tokens.
-/

namespace Nullability.Syntax

open Parser

/-- Attributes with the constructs nested in them. -/
abbrev AttributeList := List (Attribute × List Node)

def AttributeList.attributes (as : AttributeList) : List Attribute := as.map Prod.fst

def AttributeList.nodes (as : AttributeList) : List Node := as.flatMap Prod.snd

namespace Grammar

/-- A path of plain segments: whether it begins with two colons, and its segments. -/
def plainPath : Parser (Bool × PathNames) := do
  let absolute ← punct? "::"
  let opensSegment := fun ts : Cursor => ts.isIdent || ts.isWord "super" || ts.isWord "self"
    || ts.isWord "Self" || ts.isWord "crate"
  let (segments, open_) ← iterate (([] : List String), false) fun (done, open_) => do
    if !opensSegment (← cursor) then return .inr (done.reverse, open_)
    let (name, _) ← anyIdent
    if ← punct? "::" then return .inl (name :: done, true)
    return .inr ((name :: done).reverse, false)
  let names : PathNames ←
    if h : segments = [] then do
      -- no segment begins here, so this refuses
      let (name, _) ← ident
      pure ⟨[name], List.cons_ne_nil name []⟩
    else pure ⟨segments, h⟩
  if open_ then fail .pathSegment
  return (absolute, names)

/-- The content of an attribute's brackets. -/
def attributeContent (g : Grammar) : Parser (Attribute × List Node) := do
  let (absolute, ⟨path, hpath⟩) ←
    if ← word? "unsafe" then pure (false, ⟨["unsafe"], List.cons_ne_nil _ []⟩) else plainPath
  match ← cursor with
  | .group _ tokens _ _ :: _ =>
    let _ ← anyGroup
    return (⟨absolute, path, .listed tokens, hpath⟩, [])
  | ts =>
    if !ts.isPunct "=" then return (⟨absolute, path, .absent, hpath⟩, [])
    punct "="
    let ts ← cursor
    match ts.literal? with
    | some (_, _, []) => literal; return (⟨absolute, path, .assigned, hpath⟩, [])
    | _ =>
      if ts.isPunct "#" && ts.skip.isGroup .bracket then fail .attributeInAttribute
      let value ← g.expr true
      return (⟨absolute, path, .assigned, hpath⟩, [value])

/-- Attributes of the construct that follows. -/
def outerAttributes (g : Grammar) : Parser AttributeList :=
  whileTrue (·.isPunct "#") do
    punct "#"
    group .bracket g.attributeContent

/-- Attributes of the construct that encloses this place. -/
def innerAttributes (g : Grammar) : Parser AttributeList :=
  whileTrue (fun ts => ts.isPunct "#" && ts.skip.isPunct "!") do
    punct "#"
    punct "!"
    group .bracket g.attributeContent

/-- The parenthesized part of a restricted visibility; nothing if it is no such part. -/
def restriction : Parser Bool := do
  let ts ← cursor
  if ts.isWord "crate" || ts.isWord "self" || ts.isWord "super" then
    let _ ← anyIdent
    let whole ← atEnd
    skipRest
    return whole
  else if ← word? "in" then
    let _ ← plainPath
    return true
  else
    skipRest
    return false

/-- A visibility, absent ones included; answers whether one is written. -/
def visibility : Parser Bool := do
  if !(← cursor).isWord "pub" then return false
  word "pub"
  if (← cursor).isGroup .parenthesis then
    if ← ahead (group .parenthesis restriction) then
      let _ ← group .parenthesis restriction
  return true

/-- A block: the statements in its braces. -/
def block (g : Grammar) : Parser Node := do
  return .part (← group .brace g.statements)

/-- A block that may begin with attributes: the attributes and the statements. -/
def attributedBlock (g : Grammar) : Parser (AttributeList × List Node) :=
  group .brace do
    let attributes ← g.innerAttributes
    return (attributes, ← g.statements)

end Grammar

end Nullability.Syntax
