import Nullability.Syntax.GenericRules

/-!
Types.
-/

namespace Nullability.Syntax.Grammar

open Parser

def typeNode (shape : TypeShape) (parts : List Node) : Node := .node (.type shape) parts

def otherType (parts : List Node) : Node := typeNode .other parts

/-- The calling convention of a function, if one is written. -/
def callingConvention : Parser Unit := do
  if ← word? "extern" then
    if (← cursor).isLiteralOf .text then literal

/-- Refuses bounds that are lifetimes only. -/
def requireTrait (bounds : List Node) (start : Option Mark) (c : Complaint) : Parser Unit := do
  let isTrait := fun b : Node => match b.form with
    | .bound (.lifetime _) | .bound (.capture _) => false
    | _ => true
  if !bounds.any isTrait then failAt start c

/-- The bounds of a trait object whose marker word, if any, begins at `start`. -/
def objectBounds (g : Grammar) (start : Option Mark) (plus marked : Bool) : Parser Node := do
  let (bounds, trailing) ← g.boundList plus false false
  requireTrait bounds start .objectWithoutTrait
  return typeNode (.traitObject marked bounds.length trailing) bounds

/-- Bounds that are added to a first one with plus signs, each of which has a bound after it. -/
def addedBounds (g : Grammar) (first : List Node) : Parser Node := do
  let more ← whileTrue (·.isPunct "+") do
    punct "+"
    g.bound false false
  return typeNode (.traitObject false (1 + more.length) false) (first ++ more)

/-- The content of a parenthesized type, and whether bounds may be added to it. -/
inductive Parenthesized
  | complete (type : Node)
  | optionalBound (bound : Node)
  | single (type : Node)

def parenthesizedContent (g : Grammar) : Parser Parenthesized := do
  let ts ← cursor
  if ts.isEmpty then return .complete (otherType [])
  if ts.isLifetime then
    return .complete (otherType [← objectBounds g (← here) true false])
  if ts.isPunct "?" then return .optionalBound (← g.traitBound false)
  let first ← g.type true
  if (← cursor).isPunct "," then
    punct ","
    let more ← commaList (g.type true)
    return .complete (otherType (first :: more))
  return .single first

/-- Whether a parenthesized type can stand as the first of several bounds. -/
def canBeBound (type : Node) : Bool :=
  match type.form with
  | .type (.path false _) => true
  | .type (.traitObject false bounds trailing) => !(1 < bounds || trailing)
  | _ => false

def parenthesizedType (g : Grammar) (plus : Bool) : Parser Node := do
  match ← group .parenthesis (parenthesizedContent g) with
  | .complete type => return type
  | .optionalBound bound => addedBounds g [bound]
  | .single first =>
    if plus && (← cursor).isPunct "+" && canBeBound first then addedBounds g [first]
    else return otherType [first]

/-- A type that begins with a path: the path itself, a macro call, or bounds. -/
def pathType (g : Grammar) (plus : Bool) (lifetimes : Option Node) : Parser Node := do
  let (qualified, shape, parts) ← g.anyPath false
  let (shape, parts) ← g.withParenthesized shape parts
  if qualified then return typeNode (.path true shape) parts
  let ts ← cursor
  if ts.isPunct "!" && !ts.isPunct "!=" && shape.plain then
    punct "!"
    let _ ← anyGroup
    return otherType []
  if lifetimes.isSome || (plus && ts.isPunct "+") then
    let first := Node.part (lifetimes.toList ++ parts)
    let (more, trailing) ← iterate (([] : List Node), false) fun (done, trailing) => do
      if !plus || !(← cursor).isPunct "+" then return .inr (done.reverse, trailing)
      punct "+"
      let ts ← cursor
      if ts.isAnyIdent || ts.isPunct "::" || ts.isPunct "?" || ts.isLifetime
          || ts.isGroup .parenthesis then
        return .inl ((← g.bound false false) :: done, false)
      return .inr (done.reverse, true)
    return typeNode (.traitObject false (1 + more.length) trailing) (first :: more)
  return typeNode (.path false shape) parts

/-- One argument of a function type; only the first may be the receiver. A variable receiver stays
unread. -/
def functionTypeArgument (g : Grammar) (first : Bool) : Parser (List Node) := do
  let variableReceiver := fun ts : Cursor => first && ts.isWord "mut" && ts.skip.isWord "self"
  let variable_ := variableReceiver (← cursor)
  if variable_ then word "mut"
  let ts ← cursor
  let receiver := first && ts.isWord "self"
  let named := (ts.isIdent || ts.isWord "_" || receiver)
    && ts.skip.isPunct ":" && !ts.skip.isPunct "::"
  if named then
    let _ ← anyIdent
    punct ":"
  if variableReceiver (← cursor) && !(named && receiver) then
    word "mut"
    word "self"
    return []
  if variable_ && !named then
    word "self"
    return []
  let type ← g.type true
  return if variable_ then [] else [type]

/-- A function type; the lifetimes it binds have been read. -/
def functionType (g : Grammar) : Parser (List Node) := do
  let lifetimes ← g.binder?
  let _ ← word? "unsafe"
  callingConvention
  word "fn"
  let arguments ← group .parenthesis do
    iterate ([] : List (List Node)) fun done => do
      if ← atEnd then return .inr done.reverse
      let attributes ← g.outerAttributes
      let ts ← cursor
      if ts.isPunct "..."
          || ((ts.isIdent || ts.isWord "_") && ts.skip.isPunct ":" && ts.skip.skip.isPunct "...") then
        if ts.isIdent || ts.isWord "_" then
          let _ ← anyIdent
          punct ":"
        punct "..."
        let _ ← punct? ","
        return .inr (attributes.nodes :: done).reverse
      let parts ← functionTypeArgument g done.isEmpty
      let done := (attributes.nodes ++ parts) :: done
      if ← atEnd then return .inr done.reverse
      punct ","
      return .inl done
  return lifetimes.toList ++ arguments.flatten ++ (← g.returnType false)

/-- What may follow the lifetimes that a type binds. -/
def binderFollowers : List Expected :=
  [.identifier, .word "fn", .word "unsafe", .word "extern", .word "super", .word "self", .word "Self",
   .word "crate"]

def typeOpenings : List Expected :=
  [.group .parenthesis, .word "fn", .word "unsafe", .word "extern", .identifier, .punct "::",
   .punct "<", .word "dyn", .group .bracket, .punct "*", .punct "&", .punct "!", .word "impl", .word "_",
   .lifetime]

/-- A type; `plus` tells whether bounds may be added to it. -/
def typeRule (g : Grammar) (plus : Bool) : Parser Node := do
  let bound ← g.binder?
  let ts ← cursor
  if bound.isSome && (ts.isWord "dyn" || !binderFollowers.any (·.standsAt ts)) then
    failExpecting binderFollowers
  if ts.isGroup .parenthesis then parenthesizedType g plus
  else if ts.isWord "fn" || ts.isWord "unsafe" || ts.isWord "extern" then
    return otherType (bound.toList ++ (← functionType g))
  else if ts.isIdent || ts.isWord "super" || ts.isWord "self" || ts.isWord "Self" || ts.isWord "crate"
      || ts.isPunct "::" || ts.isPunct "<" then
    pathType g plus bound
  else if ts.isWord "dyn" then
    let start ← here
    word "dyn"
    let starred ← punct? "*"
    let type ← objectBounds g start plus true
    return if starred then otherType [] else type
  else if ts.isGroup .bracket then
    group .bracket do
      let element ← g.type true
      if ← punct? ";" then return otherType [element, ← g.expr true]
      return otherType [element]
  else if ts.isPunct "*" then
    punct "*"
    let ts ← cursor
    if ts.isWord "const" || ts.isWord "mut" then
      let _ ← anyIdent
    else failExpecting [.word "const", .word "mut"]
    return otherType [← g.type false]
  else if ts.isPunct "&" then
    punct "&"
    let _ ← lifetime?
    let _ ← word? "mut"
    return otherType [← g.type false]
  else if ts.isPunct "!" && !ts.isPunct "=" then
    punct "!"
    return otherType []
  else if ts.isWord "impl" then
    let start ← here
    word "impl"
    let (bounds, _) ← g.boundList plus true true
    requireTrait bounds start .bareImplTrait
    return otherType bounds
  else if ts.isWord "_" then
    word "_"
    return otherType []
  else if ts.isLifetime then objectBounds g (← here) true false
  else if bound.isSome then failExpecting (binderFollowers ++ typeOpenings)
  else failExpecting (.word "for" :: typeOpenings)

end Nullability.Syntax.Grammar
