import Nullability.Syntax.Parser

/-!
The rules of the grammar call each other in circles. `Grammar` names the rules that close the circles;
every other rule is a plain function of a `Grammar`, so each family of rules has a module of its own.
The module on files ties the knot by counting the depth of the calls.
-/

namespace Nullability.Syntax

/-- The binding strength of what may join two expressions, from the weakest up. -/
inductive Precedence
  | lowest | assign | range | or | and | binding | compare | bitOr | bitXor | bitAnd | shift | sum
  | product | cast
  deriving DecidableEq

/-- The rank of a precedence among all. -/
def Precedence.rank (p : Precedence) : Nat := p.ctorIdx

/-- The rules through which the families of rules call each other. -/
structure Grammar where
  /-- A type; `plus` tells whether bounds may be added to it. -/
  type : (plus : Bool) → Parser Node
  /-- A bound of a type parameter or trait object. -/
  bound : (capture const : Bool) → Parser Node
  /-- An expression; `braces` tells whether a path may be followed by the fields of a struct. -/
  expr : (braces : Bool) → Parser Node
  /-- An expression without binary operators. -/
  unary : (braces : Bool) → Parser Node
  /-- What may follow an expression under operators of at least the given precedence. -/
  operators : (braces : Bool) → (least : Precedence) → Node → Parser Node
  /-- An expression that a statement, or an arm of a match, may consist of. -/
  early : Parser Node
  /-- A pattern without alternatives. -/
  pattern : Parser Node
  /-- The statements that fill the rest of a block. -/
  statements : Parser (List Node)
  /-- An item, its outer attributes included. -/
  item : Parser Node
  /-- The tree of names of an import; `root` tells whether names in braces may be absolute. -/
  importTree : (root : Bool) → Parser Unit

/-- The grammar that refuses every text. -/
def Grammar.exhausted : Grammar where
  type := fun _ => Parser.fail (.oneOf [])
  bound := fun _ _ => Parser.fail (.oneOf [])
  expr := fun _ => Parser.fail (.oneOf [])
  unary := fun _ => Parser.fail (.oneOf [])
  operators := fun _ _ _ => Parser.fail (.oneOf [])
  early := Parser.fail (.oneOf [])
  pattern := Parser.fail (.oneOf [])
  statements := Parser.fail (.oneOf [])
  item := Parser.fail (.oneOf [])
  importTree := fun _ => Parser.fail (.oneOf [])

end Nullability.Syntax
