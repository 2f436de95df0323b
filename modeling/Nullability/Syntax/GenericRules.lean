import Nullability.Syntax.PathRules

/-!
Generic parameters, where clauses and bounds.
-/

namespace Nullability.Syntax.Grammar

open Parser

/-- Whether what begins here is a list of generic parameters rather than a qualified path. -/
def opensParameters (ts : Cursor) : Bool :=
  let second := ts.skip
  let third := second.skip
  ts.isPunct "<"
    && (second.isPunct ">" || second.isPunct "#"
      || ((second.isLifetime || second.isIdent)
        && (third.isPunct ">" || third.isPunct "," || (third.isPunct ":" && !third.isPunct "::")
          || third.isPunct "="))
      || second.isWord "const")

/-- A lifetime parameter and the lifetimes that bound it. -/
def lifetimeParameter : Parser Unit := do
  let _ ← lifetime
  if ← punct? ":" then
    let _ ← joined "+" (fun ts => ts.isPunct "," || ts.isPunct ">") lifetime

/-- A type parameter with its bounds and its default. -/
def typeParameter (g : Grammar) : Parser (List Node) := do
  let _ ← ident
  let bs ← if ← punct? ":" then
      g.bounds fun ts => ts.isPunct "," || ts.isPunct ">" || ts.isPunct "="
    else pure []
  if ← punct? "=" then return bs ++ [← g.type true]
  return bs

/-- A constant parameter with its type and its default. -/
def constParameter (g : Grammar) : Parser (List Node) := do
  word "const"
  let _ ← ident
  punct ":"
  let type ← g.type true
  if ← punct? "=" then return [type, ← g.constArgument]
  return [type]

/-- The lifetimes and parameters that a bound or closure binds for itself. -/
def binder (g : Grammar) : Parser Node := do
  word "for"
  punct "<"
  let parameters ← separated "," (·.isPunct ">") do
    let attributes ← g.outerAttributes
    let ts ← cursor
    let parts ←
      if ts.isIdent then g.typeParameter
      else if ts.isLifetime then lifetimeParameter; pure []
      else if ts.isWord "const" then g.constParameter
      else failExpecting [.identifier, .lifetime, .word "const"]
    return attributes.nodes ++ parts
  punct ">"
  return .part parameters.flatten

def binder? (g : Grammar) : Parser (Option Node) :=
  whenNext (·.isWord "for") g.binder

/-- The generic parameters of an item, if it has any. -/
def parameters (g : Grammar) : Parser (List Node) := do
  if !(← punct? "<") then return []
  let all ← separated "," (·.isPunct ">") do
    let attributes ← g.outerAttributes
    let ts ← cursor
    let parts ←
      if ts.isLifetime then lifetimeParameter; pure []
      else if ts.isIdent then g.typeParameter
      else if ts.isWord "const" then g.constParameter
      else if ts.isWord "_" then
        let _ ← anyIdent
        pure []
      else failExpecting [.lifetime, .identifier, .word "const"]
    return attributes.nodes ++ parts
  punct ">"
  return all.flatten

/-- Where the bounds of a predicate end. -/
def endsBounds (ts : Cursor) : Bool :=
  ts.isEmpty || ts.isGroup .brace || ts.isPunct "," || ts.isPunct ";"
    || (ts.isPunct ":" && !ts.isPunct "::") || ts.isPunct "="

/-- One condition of a where clause. -/
def wherePredicate (g : Grammar) : Parser (List Node) := do
  let ts ← cursor
  if ts.isLifetime && ts.skip.isPunct ":" then
    let _ ← lifetime
    punct ":"
    let _ ← joined "+" (fun ts => endsBounds ts || ts.isPunct ":") lifetime
    return []
  else
    let lifetimes ← g.binder?
    let type ← g.type true
    punct ":"
    return lifetimes.toList ++ type :: (← g.bounds endsBounds)

/-- A where clause; its first word stands here. -/
def whereClause (g : Grammar) : Parser (List Node) := do
  word "where"
  if opensParameters (← cursor) then fail .whereParameters
  let predicates ← joined "," endsBounds g.wherePredicate
  return predicates.flatten

/-- A where clause, if there is one. -/
def whereClause? (g : Grammar) : Parser (Option (List Node)) :=
  whenNext (·.isWord "where") g.whereClause

/-- The parameters that a bound captures by name. Answers the place of the closing bracket. -/
def capture : Parser (Option Mark) := do
  word "use"
  punct "<"
  iterate () fun _ => do
    let ts ← cursor
    if ts.isPunct ">" then
      let stop ← here
      punct ">"
      return .inr stop
    if ts.isLifetime then let _ ← lifetime
    else if ts.isIdent || ts.isWord "Self" then let _ ← anyIdent
    else failExpecting [.lifetime, .identifier, .punct ">"]
    if ← punct? "," then return .inl ()
    if (← cursor).isPunct ">" then
      let stop ← here
      punct ">"
      return .inr stop
    failExpecting [.punct ",", .punct ">"]

/-- A bound by a trait. It has a node unless it is a constant one, which stays unread. -/
def traitBound (g : Grammar) (const : Bool) : Parser Node := do
  let outer ← g.binder?
  let ts ← cursor
  let conditional := ts.isGroup .bracket
  let unconditional := ts.isWord "const"
  let start ← here
  if conditional then
    group .bracket (word "const")
    if !const then failAt start .conditionalConst
  else if unconditional then
    word "const"
    if !const then failAt start .unconditionalConst
  let question ← here
  let optional ← punct? "?"
  let lifetimes ← if outer.isNone && optional then g.binder? else pure outer
  let (shape, parts) ← g.path false
  let (_, parts) ← g.withParenthesized shape parts
  if lifetimes.isSome && optional then failAt question .binderOfOptionalBound
  if conditional || unconditional then return .node (.bound .unread) []
  return .node (.bound .trait) (lifetimes.toList ++ parts)

/-- A bound: a lifetime, a list of captured parameters, or a trait, which may be parenthesized. -/
def boundRule (g : Grammar) (capturing const : Bool) : Parser Node := do
  let ts ← cursor
  if ts.isLifetime then
    let m ← lifetime
    return .node (.bound (.lifetime m)) []
  if ts.isWord "use" then
    let start ← here
    let stop ← capture
    if !capturing then failAt start .captureNotAllowed
    return .node (.bound (.capture (stop.getD 0))) []
  if ts.isGroup .parenthesis then group .parenthesis (g.traitBound const)
  else g.traitBound const

/-- Bounds joined by plus signs, at least one; a last sign may have no bound after it, which the second
answer tells. -/
def boundList (g : Grammar) (plus capturing const : Bool) : Parser (List Node × Bool) :=
  iterate ([] : List Node) fun done => do
    let b ← g.bound capturing const
    let done := b :: done
    if !plus || !(← punct? "+") then return .inr (done.reverse, false)
    let ts ← cursor
    if ts.isAnyIdent || ts.isPunct "::" || ts.isPunct "?" || ts.isLifetime || ts.isGroup .parenthesis
        || (const && (ts.isGroup .bracket || ts.isWord "const")) then
      return .inl done
    return .inr (done.reverse, true)

end Nullability.Syntax.Grammar
