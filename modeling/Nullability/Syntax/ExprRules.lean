import Nullability.Syntax.PatternRules
import Nullability.Text.Pieces

/-!
Expressions. Binary operators are read by precedence climbing; `Precedence` names the levels. Where
a block has to follow, as after the condition of a conditional, a path is not followed by the fields of
a struct; the flag `braces` tells where it may be.
-/

namespace Nullability.Syntax

namespace Precedence

/-- The binary operators in the order in which they are looked for, so that each stands before those
that it begins with. -/
def operators : List (String × Precedence) :=
  [("+=", assign), ("-=", assign), ("*=", assign), ("/=", assign), ("%=", assign), ("^=", assign),
   ("&=", assign), ("|=", assign), ("<<=", assign), (">>=", assign), ("&&", and), ("||", or),
   ("<<", shift), (">>", shift), ("==", compare), ("<=", compare), ("!=", compare), (">=", compare),
   ("+", sum), ("-", sum), ("*", product), ("/", product), ("%", product), ("^", bitXor),
   ("&", bitAnd), ("|", bitOr), ("<", compare), (">", compare)]

end Precedence

namespace Grammar

open Parser

def otherExpr (parts : List Node) : Node := .node (.expr .other) parts

def blockExpr (parts : List Node) : Node := .node (.expr .block) parts

/-- The binary operator that stands here. -/
def operatorAt (ts : Cursor) : Option (String × Precedence) :=
  Precedence.operators.find? fun (text, _) => ts.isPunct text

def isRange (e : Node) : Bool :=
  match e.form with
  | .expr .range => true
  | _ => false

def isComparison (e : Node) : Bool :=
  match e.form with
  | .expr .comparison => true
  | _ => false

/-- Whether an expression needs no separator after it because it ends in a block of its own. -/
def isBlock (e : Node) : Bool :=
  match e.form with
  | .expr .block => true
  | _ => false

/-- How strongly what stands here binds to an expression before it. -/
def precedenceAt (ts : Cursor) : Precedence :=
  match operatorAt ts with
  | some (_, p) => p
  | none =>
    if ts.isPunct "=" && !ts.isPunct "=>" then .assign
    else if ts.isPunct ".." then .range
    else if ts.isWord "as" then .cast
    else .lowest

/-- The right side of an operator: an operand and all that binds to it more strongly. -/
def rightSide (g : Grammar) (braces : Bool) (p : Precedence) : Parser Node := do
  let first ← g.unary braces
  iterate first fun rhs => do
    let before ← cursor
    let next := precedenceAt before
    if p.rank < next.rank || (next == p && p == .assign) then
      let rhs ← g.operators braces next rhs
      if (← cursor).length == before.length then return .inr rhs
      return .inl rhs
    return .inr rhs

/-- Whether a range without a written end ends here. -/
def endsRange (braces : Bool) (ts : Cursor) : Bool :=
  ts.isEmpty || ts.isPunct "," || ts.isPunct ";" || (ts.isPunct "." && !ts.isPunct "..")
    || ts.isPunct "?" || ts.isPunct "=>" || (!braces && ts.isGroup .brace) || ts.isPunct "="
    || ts.isPunct "+" || ts.isPunct "/" || ts.isPunct "%" || ts.isPunct "^" || ts.isPunct ">"
    || ts.isPunct "<=" || ts.isPunct "!=" || ts.isPunct "-=" || ts.isPunct "*=" || ts.isPunct "&="
    || ts.isPunct "|=" || ts.isPunct "<<=" || ts.isWord "as"

/-- A range from its dots on; its first end, if any, has been read. -/
def rangeFromDots (g : Grammar) (braces : Bool) (start : List Node) : Parser Node := do
  let closed ← exprRangeDots
  if !closed && endsRange braces (← cursor) then return .node (.expr .range) start
  return .node (.expr .range) (start ++ [← rightSide g braces .range])

/-- Refuses what may not follow the type of a cast. -/
def checkCast : Parser Unit := do
  let ts ← cursor
  if ts.isPunct "." && !ts.isPunct ".." then
    let second := ts.skip
    if second.isWord "await" then fail (.castFollowedBy .await)
    else if second.isIdent && (second.skip.isGroup .parenthesis || second.skip.isPunct "::") then
      fail (.castFollowedBy .methodCall)
    else fail (.castFollowedBy .fieldAccess)
  else if ts.isPunct "?" then fail (.castFollowedBy .question)
  else if ts.isGroup .bracket then fail (.castFollowedBy .indexing)
  else if ts.isGroup .parenthesis then fail (.castFollowedBy .functionCall)

/-- What may follow an expression under operators of at least the given precedence. -/
def operatorsRule (g : Grammar) (braces : Bool) (least : Precedence) (start : Node) : Parser Node :=
  iterate start fun lhs => do
    let ts ← cursor
    if isRange lhs then return .inr lhs
    match operatorAt ts with
    | some (text, p) =>
      if p.rank < least.rank then return .inr lhs
      if p == .compare && isComparison lhs then fail .chainedComparison
      punct text
      let rhs ← rightSide g braces p
      return .inl (.node (.expr (if p == .compare then .comparison else .other)) [lhs, rhs])
    | none =>
      if least.rank ≤ Precedence.assign.rank && ts.isPunct "=" && !ts.isPunct "=>" then
        punct "="
        return .inl (otherExpr [lhs, ← rightSide g braces .assign])
      else if least.rank ≤ Precedence.range.rank && ts.isPunct ".." then
        return .inl (← rangeFromDots g braces [lhs])
      else if least.rank ≤ Precedence.cast.rank && ts.isWord "as" then
        word "as"
        let type ← g.type false
        checkCast
        return .inl (otherExpr [lhs, type])
      else return .inr lhs

/-- An expression; `braces` tells whether a path may be followed by the fields of a struct. -/
def exprRule (g : Grammar) (braces : Bool) : Parser Node := do
  let lhs ← g.unary braces
  g.operators braces .lowest lhs

/-- Puts attributes in front of an expression. -/
def withAttributes (attributes : AttributeList) (e : Node) : Node :=
  .node e.form (attributes.nodes ++ e.parts)

/-- A parenthesized list of arguments. -/
def callArguments (g : Grammar) : Parser (List Node) :=
  group .parenthesis (commaList (g.expr true))

/-- The tuple indices that are written as one number with points between them. Answers whether the last
point has no index after it. -/
def joinedIndices (text : String) (start : Option Mark) : Parser Bool := do
  let parts := (Text.pieces '.' text.toList).map String.ofList
  let trailing := parts.getLast? == some ""
  (if trailing then parts.dropLast else parts).forM (checkIndex · start)
  return trailing

/-- A member after a point: a call of a method, or a field. -/
def memberAccess (g : Grammar) (e : Node) : Parser Node := do
  if ← word? "await" then return otherExpr [e]
  let named ← member
  let ts ← cursor
  if named && ts.isPunct "::" then
    punct "::"
    let types ← g.angledArguments
    return otherExpr (e :: types ++ (← callArguments g))
  if named && ts.isGroup .parenthesis then return otherExpr (e :: (← callArguments g))
  return otherExpr [e]

/-- What may be appended to an expression: calls, members, indices and question marks. -/
def trailers (g : Grammar) (start : Node) : Parser Node :=
  iterate start fun e => do
    let ts ← cursor
    if ts.isGroup .parenthesis then return .inl (otherExpr (e :: (← callArguments g)))
    else if ts.isPunct "." && !ts.isPunct ".." && !isRange e then
      punct "."
      match (← cursor).literal? with
      | some (.float, text, _) =>
        let start ← here
        literal
        if ← joinedIndices text start then return .inl (← memberAccess g (otherExpr [e]))
        return .inl (otherExpr [e])
      | _ => return .inl (← memberAccess g e)
    else if ts.isGroup .bracket then
      let index ← group .bracket (g.expr true)
      return .inl (otherExpr [e, index])
    else if ts.isPunct "?" && !isRange e then
      punct "?"
      return .inl (otherExpr [e])
    else return .inr e

/-- A block that may begin with attributes. -/
def blockLike (g : Grammar) (before : List Node) : Parser Node := do
  let (attributes, statements) ← g.attributedBlock
  return blockExpr (attributes.nodes ++ before ++ statements)

/-- A block with a word before it. -/
def wordBlock (g : Grammar) (text : String) : Parser Node := do
  word text
  g.blockLike []

def whileLoop (g : Grammar) : Parser Node := do
  word "while"
  let condition ← g.expr false
  g.blockLike [condition]

def forLoop (g : Grammar) : Parser Node := do
  word "for"
  let pattern ← g.alternatives
  word "in"
  let range ← g.expr false
  g.blockLike [pattern, range]

/-- A chain of conditionals. -/
def conditional (g : Grammar) : Parser Node := do
  let parts ← iterate ([] : List Node) fun done => do
    word "if"
    let condition ← g.expr false
    let consequence ← g.block
    let done := done ++ [condition, consequence]
    if !(← word? "else") then return .inr done
    let ts ← cursor
    if ts.isWord "if" then return .inl done
    else if ts.isGroup .brace then return .inr (done ++ [← g.block])
    else failExpecting [.word "if", .group .brace]
  return blockExpr parts

/-- One arm of a match. -/
def matchArm (g : Grammar) : Parser (List Node) := do
  let attributes ← g.outerAttributes
  let pattern ← g.alternatives
  let guard ← if ← word? "if" then pure [← g.expr true] else pure []
  punct "=>"
  let body ← g.early
  if !isBlock body && !(← atEnd) then punct ","
  else let _ ← punct? ","
  return attributes.nodes ++ pattern :: guard ++ [body]

def matchExpr (g : Grammar) : Parser Node := do
  word "match"
  let subject ← g.expr false
  let (attributes, arms) ← group .brace do
    let attributes ← g.innerAttributes
    return (attributes, ← untilEnd (matchArm g))
  return blockExpr (attributes.nodes ++ subject :: arms.flatten)

/-- A loop or block with a label. -/
def labeledBlock (g : Grammar) : Parser Node := do
  let _ ← lifetime
  punct ":"
  let ts ← cursor
  if ts.isWord "while" then whileLoop g
  else if ts.isWord "for" then forLoop g
  else if ts.isWord "loop" then wordBlock g "loop"
  else if ts.isGroup .brace then g.blockLike []
  else fail .loopOrBlock

/-- Whether a closure begins here with the lifetimes that it binds. -/
def opensBinder (ts : Cursor) : Bool :=
  ts.isWord "for" && ts.skip.isPunct "<" && (ts.skip.skip.isLifetime || ts.skip.skip.isPunct ">")

/-- An expression that begins with a word of its own, or with a block, and ends in a block. -/
def blockStart? (ts : Cursor) (g : Grammar) : Option (Parser Node) :=
  if ts.isWord "if" then some (conditional g)
  else if ts.isWord "while" then some (whileLoop g)
  else if ts.isWord "for" && !opensBinder ts then some (forLoop g)
  else if ts.isWord "loop" then some (wordBlock g "loop")
  else if ts.isWord "match" then some (matchExpr g)
  else if ts.isWord "try" && ts.skip.isGroup .brace then
    some do
      word "try"
      return blockExpr [← g.block]
  else if ts.isWord "unsafe" then some (wordBlock g "unsafe")
  else if ts.isWord "const" && ts.skip.isGroup .brace then some (wordBlock g "const")
  else if ts.isGroup .brace then some (g.blockLike [])
  else if ts.isLifetime then some (labeledBlock g)
  else none

/-- An expression that a statement, or an arm of a match, may consist of: one that ends in a block is
continued by members and question marks only. -/
def earlyRule (g : Grammar) : Parser Node := do
  let attributes ← g.outerAttributes
  match blockStart? (← cursor) g with
  | some block =>
    let e ← block
    let ts ← cursor
    if (ts.isPunct "." && !ts.isPunct "..") || ts.isPunct "?" then
      let e ← trailers g e
      g.operators true .lowest (withAttributes attributes e)
    else return withAttributes attributes e
  | none =>
    let e ← g.unary true
    g.operators true .lowest (withAttributes attributes e)

/-- A closure. -/
def closure (g : Grammar) (braces : Bool) : Parser Node := do
  let lifetimes ← g.binder?
  let _ ← word? "const"
  let _ ← word? "static"
  let _ ← word? "async"
  let _ ← word? "move"
  punct "|"
  let inputs ← separated "," (·.isPunct "|") do
    let attributes ← g.outerAttributes
    let pattern ← g.pattern
    let type ← if ← punct? ":" then pure [← g.type true] else pure []
    return attributes.nodes ++ pattern :: type
  punct "|"
  let before := lifetimes.toList ++ inputs.flatten
  if ← punct? "->" then
    let type ← g.type true
    return otherExpr (before ++ [type, ← g.block])
  else return otherExpr (before ++ [← g.expr braces])

/-- The fields of a struct value, from the opening brace on. -/
def structValue (g : Grammar) (parts : List Node) : Parser Node := do
  let fields ← group .brace <| iterate ([] : List (List Node)) fun done => do
    if ← atEnd then return .inr done.reverse
    if ← punct? ".." then
      if ← atEnd then return .inr done.reverse
      return .inr ([← g.expr true] :: done).reverse
    let attributes ← g.outerAttributes
    let named ← member
    let value ← if (← cursor).isPunct ":" || !named then
        punct ":"
        pure [← g.expr true]
      else pure []
    let done := (attributes.nodes ++ value) :: done
    if ← atEnd then return .inr done.reverse
    punct ","
    return .inl done
  return otherExpr (parts ++ fields.flatten)

/-- An expression that begins with a path: the path itself, a macro call, or a struct value. -/
def pathExpr (g : Grammar) (braces : Bool) : Parser Node := do
  let (qualified, shape, parts) ← g.anyPath true
  let ts ← cursor
  if !qualified && ts.isPunct "!" && !ts.isPunct "!=" && shape.plain then
    punct "!"
    return .node (.expr (.macroCall ((← anyGroup) == .brace))) []
  if braces && ts.isGroup .brace then structValue g parts
  else return otherExpr parts

/-- The content of an array: its elements, or one element and their number. -/
def arrayContent (g : Grammar) : Parser (List Node) := do
  if ← atEnd then return []
  let first ← g.expr true
  let ts ← cursor
  if ts.isEmpty then return [first]
  else if ts.isPunct "," then
    punct ","
    return first :: (← commaList (g.expr true))
  else if ts.isPunct ";" then
    punct ";"
    return [first, ← g.expr true]
  else fail .commaOrSemicolon

/-- Whether an expression can begin here. -/
def opensExpr (ts : Cursor) : Bool :=
  (ts.isAnyIdent && !ts.isWord "as") || ts.isGroup .parenthesis || ts.isGroup .bracket || ts.isGroup .brace || ts.isLiteral
    || (ts.isPunct "!" && !ts.isPunct "!=")
    || (ts.isPunct "-" && !ts.isPunct "-=" && !ts.isPunct "->")
    || (ts.isPunct "*" && !ts.isPunct "*=") || (ts.isPunct "|" && !ts.isPunct "|=")
    || (ts.isPunct "&" && !ts.isPunct "&=") || ts.isPunct ".."
    || (ts.isPunct "<" && !ts.isPunct "<=" && !ts.isPunct "<<=") || ts.isPunct "::" || ts.isLifetime
    || ts.isPunct "#"

/-- The value after a word that may stand alone. -/
def optionalValue (g : Grammar) (condition : Cursor → Bool) : Parser Node := do
  let value ← whenNext (fun ts => opensExpr ts && condition ts) (g.expr true)
  return otherExpr value.toList

/-- Leaving a loop or block, with its label and value. -/
def breakExpr (g : Grammar) (braces : Bool) : Parser Node := do
  word "break"
  let start ← here
  let ts ← cursor
  if ts.isLifetime && ts.skip.isPunct ":" then
    let _ ← g.expr true
    failAt start .parenthesesRequired
  let _ ← lifetime?
  optionalValue g fun ts => braces || !ts.isGroup .brace

/-- A condition that binds a pattern. -/
def letExpr (g : Grammar) (braces : Bool) : Parser Node := do
  word "let"
  let pattern ← g.alternatives
  punct "="
  let value ← g.unary braces
  return otherExpr [pattern, ← g.operators braces .compare value]

/-- An expression without operators before or after it. -/
def atom (g : Grammar) (braces : Bool) : Parser Node := do
  let ts ← cursor
  let second := ts.skip
  if ts.isLiteral then
    literal
    return otherExpr []
  else if ts.isWord "async"
      && (second.isGroup .brace || (second.isWord "move" && second.skip.isGroup .brace)) then
    word "async"
    let _ ← word? "move"
    return otherExpr [← g.block]
  else if ts.isPunct "|" || ts.isWord "move" || opensBinder ts
      || (ts.isWord "const" && !second.isGroup .brace) || ts.isWord "static"
      || (ts.isWord "async" && (second.isPunct "|" || second.isWord "move")) then
    closure g braces
  else if ts.isWord "builtin" && second.isPunct "#" then
    word "builtin"
    punct "#"
    let _ ← ident
    group .parenthesis skipRest
    return .node (.expr .unread) []
  else if ts.isIdent || ts.isPunct "::" || ts.isPunct "<" || ts.isWord "self" || ts.isWord "Self"
      || ts.isWord "super" || ts.isWord "crate"
      || (ts.isWord "try" && (second.isPunct "!" || second.isPunct "::")) then
    pathExpr g braces
  else if ts.isGroup .parenthesis then
    return otherExpr (← group .parenthesis (commaList (g.expr true)))
  else if ts.isWord "break" then breakExpr g braces
  else if ts.isWord "continue" then
    word "continue"
    let _ ← lifetime?
    return otherExpr []
  else if ts.isWord "return" || ts.isWord "yield" then
    let _ ← anyIdent
    optionalValue g fun _ => true
  else if ts.isWord "become" then
    word "become"
    let _ ← g.expr true
    return .node (.expr .unread) []
  else if ts.isGroup .bracket then return otherExpr (← group .bracket (arrayContent g))
  else if ts.isWord "let" then letExpr g braces
  else if ts.isPunct ".." then rangeFromDots g braces []
  else if ts.isWord "_" then
    word "_"
    return otherExpr []
  else
    match blockStart? ts g with
    | some block => block
    | none => fail .expression

/-- An expression with what is appended to it. Attributes may not stand before the dots of a range. -/
def atomWithTrailers (g : Grammar) (braces : Bool) (attributes : AttributeList) : Parser Node := do
  let start ← here
  let e ← trailers g (← atom g braces)
  match e.form with
  | .expr .unread => return e
  | .expr .range =>
    if !attributes.isEmpty then failAt start .attributeOnRange
    return e
  | _ => return withAttributes attributes e

/-- An expression without binary operators: an operand with the unary operators before it. -/
def unaryRule (g : Grammar) (braces : Bool) : Parser Node := do
  let attributes ← g.outerAttributes
  let ts ← cursor
  if ts.isPunct "&" then
    punct "&"
    let ts ← cursor
    if ts.isWord "raw" && (ts.skip.isWord "mut" || ts.skip.isWord "const") then
      word "raw"
      let _ ← anyIdent
    else let _ ← word? "mut"
    return otherExpr (attributes.nodes ++ [← g.unary braces])
  else if ts.isPunct "*" || ts.isPunct "!" || ts.isPunct "-" then
    if ts.isPunct "*" then punct "*" else if ts.isPunct "!" then punct "!" else punct "-"
    return otherExpr (attributes.nodes ++ [← g.unary braces])
  else atomWithTrailers g braces attributes

end Grammar

end Nullability.Syntax
