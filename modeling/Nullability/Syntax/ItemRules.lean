import Nullability.Syntax.ExprRules

/-!
Items, and the items of traits, implementations and foreign blocks. An item that the tree has no place
for, such as a function without a body, is read but stays without a node of its own parts.
-/

namespace Nullability.Syntax.Grammar

open Parser

/-- An item that is read but not kept. -/
def unread : Node := .part []

/-- The first tokens of items that are macro calls. -/
def macroOpenings : List Expected :=
  [.identifier, .word "self", .word "super", .word "crate", .punct "::"]

def opensMacro (ts : Cursor) : Bool := macroOpenings.any (·.standsAt ts)

/-- Whether a function signature begins here. -/
def opensSignature (safe : Bool) (ts : Cursor) : Bool :=
  let ts := if ts.isWord "const" then ts.skip else ts
  let ts := if ts.isWord "async" then ts.skip else ts
  let ts := if (safe && ts.isWord "safe") || ts.isWord "unsafe" then ts.skip else ts
  let ts := if ts.isWord "extern" then
      if ts.skip.isLiteralOf .text then ts.skip.skip else ts.skip
    else ts
  ts.isWord "fn"

/-- The receiver of a method: its place and type. -/
def receiver (g : Grammar) : Parser (Option Mark × List Node) := do
  let reference ← punct? "&"
  if reference then let _ ← lifetime?
  let _ ← word? "mut"
  let start ← here
  word "self"
  if !reference && (← punct? ":") then return (start, [← g.type true])
  return (start, [])

/-- One argument of a function. -/
inductive Argument
  | receiver (start : Option Mark) (parts : List Node)
  | typed (parts : List Node)
  | variadic (parts : List Node)

def argument (g : Grammar) : Parser Argument := do
  match ← attempt (receiver g) with
  | some (start, parts) => return .receiver start parts
  | none =>
    let ts ← cursor
    if ts.isIdent && ts.skip.isPunct "<" then return .typed [← g.type true]
    let pattern ← g.pattern
    punct ":"
    if ← punct? "..." then return .variadic [pattern]
    return .typed [pattern, ← g.type true]

/-- The arguments of a function: a receiver can only be the first, a variadic one only the last. -/
def arguments (g : Grammar) : Parser (List Node) := do
  let parts ← iterate (([] : List (List Node)), false) fun (done, received) => do
    if ← atEnd then return .inr done.reverse
    let attributes ← g.outerAttributes
    let finish (parts : List Node) : Parser (List (List Node)) := do
      if !(← atEnd) then punct ","
      return ((attributes.nodes ++ parts) :: done).reverse
    if ← punct? "..." then return .inr (← finish [])
    match ← argument g with
    | .variadic parts => return .inr (← finish parts)
    | .receiver start parts =>
      if received then failAt start .secondReceiver
      if !done.isEmpty then failAt start .lateReceiver
      let done := (attributes.nodes ++ parts) :: done
      if ← atEnd then return .inr done.reverse
      punct ","
      return .inl (done, true)
    | .typed parts =>
      let done := (attributes.nodes ++ parts) :: done
      if ← atEnd then return .inr done.reverse
      punct ","
      return .inl (done, received)
  return parts.flatten

/-- The head of a function: the constructs in it, and whether it is declared safe. -/
def signature (g : Grammar) (safe : Bool) : Parser (List Node × Bool) := do
  let _ ← word? "const"
  let _ ← word? "async"
  let dangerous ← word? "unsafe"
  let declaredSafe ← if safe && !dangerous then word? "safe" else pure false
  callingConvention
  word "fn"
  let _ ← ident
  let parameters ← g.parameters
  let inputs ← group .parenthesis (arguments g)
  let output ← g.returnType true
  let conditions ← g.whereClause?
  return (parameters ++ conditions.getD [] ++ inputs ++ output, declaredSafe)

/-- The body of a function whose head is given: the attributes in the body come first. -/
def body (g : Grammar) (head : List Node) : Parser (List Node) := do
  let (attributes, statements) ← g.attributedBlock
  return attributes.nodes ++ head ++ statements

/-- A field of a struct or variant with its name. A nested field list stays unread. -/
def namedField (g : Grammar) (fieldList : Parser Unit) : Parser (Field × List Node) := do
  let start ← here
  let attributes ← g.outerAttributes
  let _ ← visibility
  let unnamed := (← cursor).isWord "_"
  let (name, place) ← if unnamed then anyIdent else ident
  punct ":"
  let ts ← cursor
  let field : Field := ⟨attributes.attributes, some (name, place), start.getD 0⟩
  if unnamed && (ts.isWord "struct" || (ts.isWord "union" && ts.skip.isGroup .brace)) then
    let _ ← anyIdent
    fieldList
    return (field, attributes.nodes)
  return (field, attributes.nodes ++ [← g.type true])

/-- Fields in braces. A field list nested in another is as deep as the tokens allow. -/
def namedFields (g : Grammar) : Parser (List (Field × List Node)) := do
  let depth := TokenTree.sizeAll (← cursor)
  fieldsAt depth
where
  fieldsAt : Nat → Parser (List (Field × List Node))
    | 0 => fail (.group .brace)
    | depth + 1 => group .brace (commaList (namedField g (fieldsAt depth *> pure ())))

/-- A field of a tuple struct or tuple variant. -/
def tupleField (g : Grammar) : Parser (Field × List Node) := do
  let start ← here
  let attributes ← g.outerAttributes
  let _ ← visibility
  let type ← g.type true
  return (⟨attributes.attributes, none, start.getD 0⟩, attributes.nodes ++ [type])

def tupleFields (g : Grammar) : Parser (List (Field × List Node)) :=
  group .parenthesis (commaList (tupleField g))

/-- What follows the generic parameters of a struct: the conditions and the fields. -/
def structBody (g : Grammar) : Parser (List Node × List (Field × List Node)) := do
  let early ← g.whereClause?
  let ts ← cursor
  if early.isNone && ts.isGroup .parenthesis then
    let fields ← tupleFields g
    let late ← g.whereClause?
    if ← punct? ";" then return (late.getD [], fields)
    failExpecting (if late.isNone then [.word "where", .punct ";"] else [.punct ";"])
  else if ts.isGroup .brace then return (early.getD [], ← namedFields g)
  else if ← punct? ";" then return (early.getD [], [])
  else
    failExpecting <|
      (if early.isNone then [.word "where", .group .parenthesis] else [])
        ++ [.group .brace, .punct ";"]

def structItem (g : Grammar) (attributes : AttributeList) : Parser Node := do
  word "struct"
  let (name, place) ← ident
  let parameters ← g.parameters
  let (conditions, fields) ← structBody g
  return .node (.struct ⟨attributes.attributes, name, place, fields.map Prod.fst⟩)
    (attributes.nodes ++ parameters ++ conditions ++ fields.flatMap Prod.snd)

/-- A variant of an enumeration. -/
def variant (g : Grammar) : Parser (List Node) := do
  let attributes ← g.outerAttributes
  let _ ← visibility
  let _ ← ident
  let ts ← cursor
  let fields ← if ts.isGroup .brace then namedFields g
    else if ts.isGroup .parenthesis then tupleFields g
    else pure []
  let value ← if ← punct? "=" then pure [← g.expr true] else pure []
  return attributes.nodes ++ fields.flatMap Prod.snd ++ value

def enumItem (g : Grammar) : Parser (List Node) := do
  word "enum"
  let _ ← ident
  let parameters ← g.parameters
  let conditions ← g.whereClause?
  let variants ← group .brace (commaList (variant g))
  return parameters ++ conditions.getD [] ++ variants.flatten

def unionItem (g : Grammar) : Parser (List Node) := do
  word "union"
  let _ ← ident
  let parameters ← g.parameters
  let conditions ← g.whereClause?
  let fields ← namedFields g
  return parameters ++ conditions.getD [] ++ fields.flatMap Prod.snd

/-- Where the conditions of a type alias stand. -/
inductive ConditionPlace
  | beforeValue | afterValue | either
  deriving DecidableEq

/-- A type alias or associated type: the constructs in it, whether it has bounds, and whether it has a
value. -/
structure Alias where
  parts : List Node
  bounded : Bool
  valued : Bool

def aliasItem (g : Grammar) (place : ConditionPlace) : Parser Alias := do
  word "type"
  let _ ← ident
  let parameters ← g.parameters
  let bounded ← punct? ":"
  let stop := fun ts : Cursor => ts.isWord "where" || ts.isPunct "=" || ts.isPunct ";"
  let bounds ← if bounded then separated "+" stop (g.bound false true) else pure []
  let early ← if place == .afterValue then pure none else g.whereClause?
  let value ← if ← punct? "=" then pure [← g.type true] else pure []
  let late ← if place == .beforeValue || early.isSome then pure none else g.whereClause?
  punct ";"
  return ⟨parameters ++ early.getD [] ++ late.getD [] ++ bounds ++ value, bounded, !value.isEmpty⟩

/-- A macro call in the place of an item. -/
def macroItem : Parser Unit := do
  let _ ← plainPath
  punct "!"
  let ts ← cursor
  if ts.isIdent || ts.isWord "try" then let _ ← anyIdent
  if (← anyGroup) != .brace then punct ";"

/-- A macro call in the place of an item of a trait, implementation or foreign block. -/
def nestedMacroItem : Parser Unit := do
  let _ ← plainPath
  punct "!"
  if (← anyGroup) != .brace then punct ";"

/-- A constant: its type and value, and whether the tree has a place for it. -/
def constTail (g : Grammar) : Parser (List Node × Bool × Bool) := do
  let generic := (← cursor).isPunct "<"
  let parameters ← g.parameters
  punct ":"
  let type ← g.type true
  let value ← if ← punct? "=" then pure (some (← g.expr true)) else pure none
  let conditions ← g.whereClause?
  punct ";"
  return (parameters ++ type :: value.toList, !generic && conditions.isNone, value.isSome)

/-- An item of a foreign block. -/
def foreignItem (g : Grammar) : Parser Node := do
  let attributes ← g.outerAttributes
  let visible ← ahead visibility
  let ts ← ahead (visibility *> cursor)
  if opensSignature true ts then
    let _ ← visibility
    let (parts, safe) ← signature g true
    if (← cursor).isGroup .brace then
      let _ ← body g parts
      return unread
    punct ";"
    return if safe then unread else .part (attributes.nodes ++ parts)
  else if ts.isWord "static" || ((ts.isWord "unsafe" || ts.isWord "safe") && ts.skip.isWord "static") then
    let _ ← visibility
    let dangerous ← word? "unsafe"
    let safe ← if dangerous then pure false else word? "safe"
    word "static"
    let _ ← word? "mut"
    let _ ← ident
    punct ":"
    let type ← g.type true
    let valued ← punct? "="
    if valued then let _ ← g.expr true
    punct ";"
    return if dangerous || safe || valued then unread else .part (attributes.nodes ++ [type])
  else if ts.isWord "type" then
    let _ ← visibility
    let found ← aliasItem g .either
    return if found.bounded || found.valued then unread else .part (attributes.nodes ++ found.parts)
  else if !visible && opensMacro ts then
    nestedMacroItem
    return .part attributes.nodes
  else
    let _ ← visibility
    failExpecting <| [.word "fn", .word "static", .word "type"] ++ if visible then [] else macroOpenings

/-- A block of foreign items. -/
def foreignBlock (g : Grammar) : Parser (List Node) := do
  let _ ← word? "unsafe"
  word "extern"
  if (← cursor).isLiteralOf .text then literal
  group .brace do
    let attributes ← g.innerAttributes
    return attributes.nodes ++ (← untilEnd (foreignItem g))

/-- An item of a trait. -/
def traitItem (g : Grammar) : Parser Node := do
  let attributes ← g.outerAttributes
  let visible ← visibility
  let default_ ← word? "default"
  let ts ← cursor
  let kept := !visible && !default_
  let function : Parser Node := do
    let (parts, _) ← signature g false
    let ts ← cursor
    let whole ← if ts.isGroup .brace then body g parts
      else if ts.isPunct ";" then punct ";"; pure parts
      else failExpecting [.group .brace, .punct ";"]
    return if kept then .part (attributes.nodes ++ whole) else unread
  if opensSignature false ts then function
  else if ts.isWord "const" then
    let second := ts.skip
    if second.isIdent || second.isWord "_" then
      word "const"
      let _ ← anyIdent
      let (parts, plain, _) ← constTail g
      return if kept && plain then .part (attributes.nodes ++ parts) else unread
    else if second.isWord "async" || second.isWord "unsafe" || second.isWord "extern" || second.isWord "fn" then
      function
    else
      word "const"
      failExpecting [.identifier, .word "_", .word "async", .word "unsafe", .word "extern", .word "fn"]
  else if ts.isWord "type" then
    let found ← aliasItem g .afterValue
    return if kept then .part (attributes.nodes ++ found.parts) else unread
  else if kept && opensMacro ts then
    nestedMacroItem
    return .part attributes.nodes
  else
    failExpecting <| [.word "fn", .word "const", .word "type"] ++ if kept then macroOpenings else []

/-- What follows the name and parameters of a trait. -/
def traitTail (g : Grammar) (parameters : List Node) : Parser (List Node) := do
  let stop := fun ts : Cursor => ts.isWord "where" || ts.isGroup .brace
  let supertraits ← if ← punct? ":" then separated "+" stop (g.bound false true) else pure []
  let conditions ← g.whereClause?
  group .brace do
    let attributes ← g.innerAttributes
    let items ← untilEnd (traitItem g)
    return attributes.nodes ++ parameters ++ conditions.getD [] ++ supertraits ++ items

/-- A trait with the words that may stand before it. -/
def traitItemRest (g : Grammar) : Parser (List Node) := do
  let _ ← word? "unsafe"
  let _ ← word? "auto"
  word "trait"
  let _ ← ident
  let parameters ← g.parameters
  traitTail g parameters

/-- A trait, or a name for several traits. -/
def traitOrAlias (g : Grammar) : Parser (List Node) := do
  word "trait"
  let _ ← ident
  let parameters ← g.parameters
  let ts ← cursor
  if ts.isGroup .brace || ts.isPunct ":" || ts.isWord "where" then traitTail g parameters
  else if ts.isPunct "=" then
    punct "="
    let stop := fun ts : Cursor => ts.isWord "where" || ts.isPunct ";"
    let bounds ← separated "+" stop (g.bound false false)
    let conditions ← g.whereClause?
    punct ";"
    return parameters ++ conditions.getD [] ++ bounds
  else failExpecting [.group .brace, .punct ":", .word "where", .punct "="]

/-- An item of an implementation. -/
def implItem (g : Grammar) : Parser Node := do
  let attributes ← g.outerAttributes
  let visible ← ahead visibility
  let ts ← ahead (visibility *> cursor)
  let default_ := ts.isWord "default" && !ts.skip.isPunct "!"
  let ts := if default_ then ts.skip else ts
  let enter : Parser Unit := do
    let _ ← visibility
    if default_ then word "default"
  if opensSignature false ts then
    enter
    let (parts, _) ← signature g false
    if ← punct? ";" then return unread
    return .part (attributes.nodes ++ (← body g parts))
  else if ts.isWord "const" then
    enter
    word "const"
    let ts ← cursor
    let _ ← if ts.isIdent || ts.isWord "_" then anyIdent else failExpecting [.identifier, .word "_"]
    let (parts, plain, valued) ← constTail g
    return if plain && valued then .part (attributes.nodes ++ parts) else unread
  else if ts.isWord "type" then
    enter
    let found ← aliasItem g .afterValue
    return if found.bounded || !found.valued then unread else .part (attributes.nodes ++ found.parts)
  else if !visible && !default_ && opensMacro ts then
    nestedMacroItem
    return .part attributes.nodes
  else
    enter
    failExpecting <| (if default_ then [] else [.word "default"])
      ++ [.word "fn", .word "const", .word "type"]
      ++ if !visible && !default_ then macroOpenings else []

/-- Whether a type is a path that can name a trait. -/
def namesTrait (type : Node) : Bool :=
  match type.form with
  | .type (.path false _) => true
  | _ => false

/-- An implementation. One with a visibility, for a constant trait, or of what is no trait stays
unread. -/
def implementation (g : Grammar) (attributes : AttributeList) : Parser Node := do
  let visible ← visibility
  let _ ← word? "default"
  let _ ← word? "unsafe"
  word "impl"
  let parameters ← if opensParameters (← cursor) then g.parameters else pure []
  let ts ← cursor
  let constant := ts.isWord "const" || (ts.isPunct "?" && ts.skip.isWord "const")
  if constant then
    let _ ← punct? "?"
    word "const"
  let ts ← cursor
  let place ← here
  let negative := ts.isPunct "!" && !ts.skip.isGroup .brace
  if negative then punct "!"
  let first ← g.type true
  let forTrait ← word? "for"
  if !forTrait && negative then failAt place .negativeInherentImpl
  let types ← if forTrait then pure [first, ← g.type true] else pure [first]
  let conditions ← g.whereClause?
  let (inner, items) ← group .brace do
    let inner ← g.innerAttributes
    return (inner, ← untilEnd (implItem g))
  if visible || constant || (forTrait && !namesTrait first) then return unread
  return .part (attributes.nodes ++ inner.nodes ++ parameters ++ conditions.getD [] ++ types ++ items)

/-- The tree of names of an import; `root` tells whether a name in braces may begin with two colons. -/
def importTreeRule (g : Grammar) (root : Bool) : Parser Unit := do
  let ts ← cursor
  if ts.isIdent || ts.isWord "self" || ts.isWord "super" || ts.isWord "crate" || ts.isWord "try" then
    let _ ← anyIdent
    if ← punct? "::" then g.importTree false
    else if ← word? "as" then
      let ts ← cursor
      if ts.isIdent || ts.isWord "_" then let _ ← anyIdent
      else fail .newName
  else if ts.isPunct "*" then punct "*"
  else if ts.isGroup .brace then
    let _ ← group .brace <| commaList do
      let rooted ← if root then punct? "::" else pure false
      g.importTree (root && !rooted)
  else
    failExpecting [.identifier, .word "self", .word "super", .word "crate", .word "try", .punct "*",
      .group .brace]

def importItem (g : Grammar) : Parser Unit := do
  word "use"
  let absolute ← punct? "::"
  g.importTree (!absolute)
  punct ";"

/-- A link to another library. -/
def externItem : Parser Unit := do
  word "extern"
  word "crate"
  let _ ← if (← cursor).isWord "self" then anyIdent else ident
  if ← word? "as" then
    let _ ← if (← cursor).isWord "_" then anyIdent else ident
  punct ";"

/-- A static variable. One without a type or value stays unread. -/
def staticItem (g : Grammar) (attributes : AttributeList) : Parser Node := do
  word "static"
  let _ ← word? "mut"
  let _ ← ident
  if ← punct? "=" then
    let _ ← g.expr true
    punct ";"
    return unread
  punct ":"
  let type ← g.type true
  if ← punct? ";" then return unread
  punct "="
  let value ← g.expr true
  punct ";"
  return .part (attributes.nodes ++ [type, value])

/-- A module, whose items may stand in a file of their own. -/
def moduleItem (g : Grammar) : Parser (List Node) := do
  let _ ← word? "unsafe"
  word "mod"
  let _ ← if (← cursor).isWord "try" then anyIdent else ident
  let ts ← cursor
  if ts.isPunct ";" then
    punct ";"
    return []
  else if ts.isGroup .brace then
    group .brace do
      let attributes ← g.innerAttributes
      return attributes.nodes ++ (← untilEnd g.item)
  else failExpecting [.punct ";", .group .brace]

/-- The definition of a macro, which stays unread. -/
def macroDefinition : Parser Unit := do
  word "macro"
  let _ ← ident
  let ts ← cursor
  let arguments := ts.isGroup .parenthesis
  if arguments then group .parenthesis skipRest
  if (← cursor).isGroup .brace then group .brace skipRest
  else failExpecting (if arguments then [.group .brace] else [.group .parenthesis, .group .brace])

def itemOpenings : List Expected :=
  [.word "fn", .word "extern", .word "use", .word "static", .word "const", .word "unsafe", .word "mod",
   .word "type", .word "struct", .word "enum", .word "union", .word "trait", .word "auto", .word "impl",
   .word "default", .word "macro"]

/-- An item whose outer attributes have been read. -/
def itemRest (g : Grammar) (attributes : AttributeList) : Parser Node := do
  let visible ← ahead visibility
  let ts ← ahead (visibility *> cursor)
  let second := ts.skip
  let keep (p : Parser (List Node)) : Parser Node := do
    let _ ← visibility
    return .part (attributes.nodes ++ (← p))
  let unkept (p : Parser Unit) : Parser Node := do
    let _ ← visibility
    p
    return .part attributes.nodes
  if opensSignature false ts then
    let _ ← visibility
    let (parts, _) ← signature g false
    if ← punct? ";" then return unread
    return .part (attributes.nodes ++ (← body g parts))
  else if ts.isWord "extern" then
    if second.isWord "crate" then unkept externItem
    else if second.isGroup .brace || (second.isLiteralOf .text && second.skip.isGroup .brace) then
      return .part (attributes.nodes ++ (← foreignBlock g))
    else
      let _ ← visibility
      word "extern"
      if second.isLiteralOf .text then
        literal
        failExpecting [.group .brace]
      failExpecting [.word "crate", .group .brace, .textLiteral]
  else if ts.isWord "use" then unkept (importItem g)
  else if ts.isWord "static" then
    let _ ← visibility
    staticItem g attributes
  else if ts.isWord "const" then
    let _ ← visibility
    word "const"
    let ts ← cursor
    let _ ← if ts.isIdent || ts.isWord "_" then anyIdent else failExpecting [.identifier, .word "_"]
    let (parts, plain, valued) ← constTail g
    return if plain && valued then .part (attributes.nodes ++ parts) else unread
  else if ts.isWord "unsafe" then
    if second.isWord "trait" || (second.isWord "auto" && second.skip.isWord "trait") then
      keep (traitItemRest g)
    else if second.isWord "impl" then implementation g attributes
    else if second.isWord "extern" then return .part (attributes.nodes ++ (← foreignBlock g))
    else if second.isWord "mod" then keep (moduleItem g)
    else
      let _ ← visibility
      word "unsafe"
      failExpecting [.word "trait", .word "auto", .word "impl", .word "extern", .word "mod"]
  else if ts.isWord "mod" then keep (moduleItem g)
  else if ts.isWord "type" then
    let _ ← visibility
    let found ← aliasItem g .beforeValue
    return if found.bounded || !found.valued then unread else .part (attributes.nodes ++ found.parts)
  else if ts.isWord "struct" then
    let _ ← visibility
    structItem g attributes
  else if ts.isWord "enum" then keep (enumItem g)
  else if ts.isWord "union" && second.isIdent then keep (unionItem g)
  else if ts.isWord "trait" then keep (traitOrAlias g)
  else if ts.isWord "auto" && second.isWord "trait" then keep (traitItemRest g)
  else if ts.isWord "impl" || (ts.isWord "default" && !second.isPunct "!") then implementation g attributes
  else if ts.isWord "macro" then
    let _ ← visibility
    macroDefinition
    return unread
  else if !visible && opensMacro ts then unkept macroItem
  else
    let _ ← visibility
    failExpecting (itemOpenings ++ if visible then [] else macroOpenings)

/-- An item. -/
def itemRule (g : Grammar) : Parser Node := do
  itemRest g (← g.outerAttributes)

end Nullability.Syntax.Grammar
