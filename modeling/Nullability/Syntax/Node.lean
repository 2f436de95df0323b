import Nullability.Source.TokenTree

/-!
The syntax tree. A node is a construct with the constructs it is made of, in the order in which they
are visited. Struct items carry all that is known of them; of other constructs a node keeps only the
shape that the grammar asks about. Token streams that the grammar leaves unread, such as the arguments
of a macro, have no nodes.
-/

namespace Nullability.Syntax

/-- What follows the path of an attribute. -/
inductive AttributeArguments
  | absent
  /-- A bracketed list of tokens. -/
  | listed (tokens : List TokenTree)
  /-- A value after an equals sign. -/
  | assigned

/-- The names of a path, with raw marks kept. There is at least one. -/
abbrev PathNames := { names : List String // names ≠ [] }

/-- An attribute: its path, with raw marks kept, and what follows it. -/
structure Attribute where
  absolute : Bool
  path : List String
  arguments : AttributeArguments
  path_ne_nil : path ≠ []

/-- A field of a struct. A tuple field has no name; `start` is its first token, which belongs to its
attributes if it has any. -/
structure Field where
  attributes : List Attribute
  name : Option (String × Mark)
  start : Mark

/-- A struct item: its outer attributes, its name and its fields in order. -/
structure StructItem where
  attributes : List Attribute
  name : String
  start : Mark
  fields : List Field

/-- The generic arguments of a path segment. -/
inductive ArgumentStyle
  | absent | angled | parenthesized
  deriving DecidableEq

structure PathShape where
  absolute : Bool
  segments : Nat
  /-- Whether no segment has arguments. -/
  plain : Bool
  lastArguments : ArgumentStyle

inductive TypeShape
  | path (qualified : Bool) (shape : PathShape)
  /-- Bounds joined by plus signs; `trailing` tells whether the last sign has no bound after it. -/
  | traitObject (marked : Bool) (bounds : Nat) (trailing : Bool)
  | other

inductive BoundShape
  | trait | unread
  | lifetime (start : Mark)
  | capture (stop : Mark)

inductive PatternShape
  /-- Two dots that stand for any number of elements. -/
  | rest
  /-- A range that lacks one of its ends. -/
  | openRange (dots : Mark)
  | other

inductive ExprShape
  | range
  | comparison
  /-- An expression that ends in a block of its own and so needs no separator after it. -/
  | block
  | macroCall (braced : Bool)
  | unread
  | other

/-- What the grammar needs to know of a construct once it is read. -/
inductive Form
  | struct (item : StructItem)
  | path (shape : PathShape)
  | type (shape : TypeShape)
  | bound (shape : BoundShape)
  | pattern (shape : PatternShape)
  | expr (shape : ExprShape)
  | part

/-- A construct and the constructs it is made of, in the order in which they are visited. -/
inductive Node
  | node (form : Form) (parts : List Node)

namespace Node

def form : Node → Form
  | node f _ => f

def parts : Node → List Node
  | node _ ps => ps

/-- A construct that no rule asks about. -/
def part (parts : List Node) : Node := node .part parts

mutual

/-- The struct items of a tree in visiting order: an item stands before those nested in it. -/
def structs : Node → List StructItem
  | node (.struct item) parts => item :: structsAll parts
  | node _ parts => structsAll parts

/-- The struct items of several trees, one tree after the other. -/
def structsAll : List Node → List StructItem
  | [] => []
  | n :: rest => structs n ++ structsAll rest

end

end Node

end Nullability.Syntax
