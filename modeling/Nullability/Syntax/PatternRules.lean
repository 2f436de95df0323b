import Nullability.Syntax.TypeRules

/-!
Patterns.
-/

namespace Nullability.Syntax.Grammar

open Parser

def otherPattern (parts : List Node) : Node := .node (.pattern .other) parts

/-- Range dots of any kind; `closed` ones need an end after them. -/
inductive RangeDots
  | halfOpen | closed
  deriving DecidableEq

/-- The dots of a range, the old spelling with three dots included if `old`. -/
def rangeDots (old : Bool) : Parser RangeDots := do
  let ts ← cursor
  if ts.isPunct "..=" then
    punct "..="
    return .closed
  else if ts.isPunct "..." then
    if old then
      punct "..."
      return .closed
    else failExpecting [.punct "..", .punct "..="]
  else if ts.isPunct ".." then
    punct ".."
    return .halfOpen
  else failExpecting [.punct ".."]

/-- The dots of a range expression; whether they need an end after them. -/
def exprRangeDots : Parser Bool := do
  return (← rangeDots false) == .closed

/-- Alternatives joined by vertical bars, one of which may stand before the first. -/
def alternatives (g : Grammar) : Parser Node := do
  let leading ← punct? "|"
  let bar := fun ts : Cursor => ts.isPunct "|" && !ts.isPunct "||" && !ts.isPunct "|="
  let first ← g.pattern
  let more ← whileTrue bar do
    punct "|"
    g.pattern
  if leading || !more.isEmpty then return otherPattern (first :: more) else return first

/-- An end of a range pattern, if one stands here. -/
def rangeBound (g : Grammar) : Parser (Option Node) := do
  let ts ← cursor
  if ts.isEmpty || ts.isPunct "|" || ts.isPunct "=" || (ts.isPunct ":" && !ts.isPunct "::")
      || ts.isPunct "," || ts.isPunct ";" || ts.isWord "if" then
    return none
  if ts.isLiteral then
    literal
    return some (otherPattern [])
  else if ts.isIdent || ts.isPunct "::" || ts.isPunct "<" || ts.isWord "self" || ts.isWord "Self"
      || ts.isWord "super" || ts.isWord "crate" then
    let (_, _, parts) ← g.anyPath true
    return some (otherPattern parts)
  else if ts.isWord "const" then
    word "const"
    let (attributes, statements) ← g.attributedBlock
    return some (otherPattern (attributes.nodes ++ statements))
  else
    failExpecting [.literal, .identifier, .punct "::", .punct "<", .word "self", .word "Self",
      .word "super", .word "crate", .word "const"]

/-- The rest of a range pattern whose first end is known; its dots stand here. -/
def rangeFrom (g : Grammar) (start : Node) : Parser Node := do
  let dots ← here
  let kind ← rangeDots true
  match ← rangeBound g with
  | some stop => return otherPattern [start, stop]
  | none =>
    if kind == .closed then fail .rangeEnd
    return .node (.pattern (.openRange (dots.getD 0))) [start]

/-- A range pattern without a first end, or the two dots that stand for the rest. -/
def rangeTo (g : Grammar) : Parser Node := do
  let dots ← here
  let kind ← rangeDots false
  match ← rangeBound g with
  | some stop => return .node (.pattern (.openRange (dots.getD 0))) [stop]
  | none =>
    if kind == .closed then fail .rangeEnd
    return .node (.pattern .rest) []

/-- A pattern that begins with a literal or a constant block. -/
def literalPattern (g : Grammar) : Parser Node := do
  match ← rangeBound g with
  | none => failExpecting []
  | some start => if (← cursor).isPunct ".." then rangeFrom g start else return start

/-- Refuses a text that is no index of a tuple field: a whole number of 32 bits without a sign or
suffix. -/
def checkIndex (text : String) (start : Option Mark) : Parser Unit := do
  let (negative, digits) := match text.toList with
    | '-' :: digits => (true, digits)
    | digits => (false, digits)
  if Literal.Kind.of digits != .whole then failAt start .wholeLiteral
  let (value, suffix) := Literal.wholeParts digits
  if !suffix.isEmpty then failAt start .unsuffixedWhole
  if negative then failAt start .notADigit
  if Nat.pow 2 32 ≤ value then failAt start .tooLarge

/-- The name of a field: an identifier or the index of a tuple field. Answers whether it is a name. -/
def member : Parser Bool := do
  let ts ← cursor
  if ts.isIdent then
    let _ ← ident
    return true
  else
    match ts.literal? with
    | some (.whole, text, _) =>
      let start ← here
      literal
      checkIndex text start
      return false
    | _ => fail .member

/-- A field in a struct pattern. A boxed one stays unread. -/
def fieldPattern (g : Grammar) : Parser Node := do
  let boxed ← word? "box"
  let byRef ← word? "ref"
  let mutable_ ← word? "mut"
  let bare := !(boxed || byRef || mutable_)
  let named ← if bare then member else do
    let _ ← ident
    pure true
  if (bare && (← cursor).isPunct ":") || !named then
    punct ":"
    g.alternatives
  else return otherPattern []

/-- The fields of a struct pattern, from the opening brace on. -/
def structPattern (g : Grammar) (parts : List Node) : Parser Node := do
  let fields ← group .brace <| iterate ([] : List (List Node)) fun done => do
    if ← atEnd then return .inr done.reverse
    let attributes ← g.outerAttributes
    if (← cursor).isPunct ".." then
      punct ".."
      return .inr (attributes.nodes :: done).reverse
    let field ← fieldPattern g
    let done := (attributes.nodes ++ [field]) :: done
    if ← atEnd then return .inr done.reverse
    punct ","
    return .inl done
  return otherPattern (parts ++ fields.flatten)

/-- A pattern that begins with a path. -/
def pathPattern (g : Grammar) : Parser Node := do
  let (qualified, shape, parts) ← g.anyPath true
  let ts ← cursor
  if !qualified && ts.isPunct "!" && !ts.isPunct "!=" && shape.plain then
    punct "!"
    let _ ← anyGroup
    return otherPattern []
  if ts.isGroup .brace then structPattern g parts
  else if ts.isGroup .parenthesis then
    let elements ← group .parenthesis (commaList g.alternatives)
    return otherPattern (parts ++ elements)
  else if ts.isPunct ".." then rangeFrom g (otherPattern parts)
  else return otherPattern parts

/-- A name that is bound, and the pattern after an at sign. -/
def namePattern (g : Grammar) : Parser Node := do
  let _ ← word? "ref"
  let _ ← word? "mut"
  let _ ← if (← cursor).isWord "self" then anyIdent else ident
  if ← punct? "@" then return otherPattern [← g.pattern]
  return otherPattern []

/-- The elements of a slice pattern; an open range has to be parenthesized there. -/
def slicePattern (g : Grammar) : Parser Node := do
  let elements ← group .bracket <| commaList do
    let element ← g.alternatives
    match element.form with
    | .pattern (.openRange dots) => failAt (some dots) .openRangeInSlice
    | _ => return element
  return otherPattern elements

/-- A pattern without alternatives. -/
def patternRule (g : Grammar) : Parser Node := do
  let ts ← cursor
  let second := ts.skip
  if (ts.isIdent && (second.isPunct "::" || second.isPunct "!" || second.isGroup .brace
        || second.isGroup .parenthesis || second.isPunct ".."))
      || (ts.isWord "self" && second.isPunct "::") || ts.isPunct "::" || ts.isPunct "<"
      || ts.isWord "Self" || ts.isWord "super" || ts.isWord "crate" then
    pathPattern g
  else if ts.isWord "_" then
    word "_"
    return otherPattern []
  else if ts.isWord "box" then
    word "box"
    let _ ← g.pattern
    return otherPattern []
  else if ts.isPunct "-" || ts.isLiteral || ts.isWord "const" then literalPattern g
  else if ts.isWord "ref" || ts.isWord "mut" || ts.isWord "self" || ts.isIdent then namePattern g
  else if ts.isPunct "&" then
    punct "&"
    let _ ← word? "mut"
    return otherPattern [← g.pattern]
  else if ts.isGroup .parenthesis then
    return otherPattern (← group .parenthesis (commaList g.alternatives))
  else if ts.isGroup .bracket then slicePattern g
  else if ts.isPunct ".." && !ts.isPunct "..." then rangeTo g
  else
    failExpecting [.identifier, .punct "::", .punct "<", .word "_", .literal, .word "const", .word "ref",
      .word "mut", .punct "&", .group .parenthesis, .group .bracket, .punct "..", .word "const"]

end Nullability.Syntax.Grammar
