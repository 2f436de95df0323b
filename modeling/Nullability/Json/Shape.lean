import Nullability.Json.Value

/-!
Shapes of JSON values. A shape says what a value may look like, and `Shape.Denote` is the type of what
it then means. Writing and reading are defined once for all shapes.
-/

namespace Nullability.Json

/-- How a member of a structure may be left out. -/
inductive Presence
  /-- It may not. -/
  | required
  /-- It may be left out or null, and is left out when there is nothing to write. -/
  | optional
  /-- It may be left out or null, and is null when there is nothing to write. -/
  | nullable
  /-- It may be left out but not null. -/
  | defaulted
  deriving DecidableEq

mutual

inductive Shape
  | text
  /-- A text that names a file. -/
  | path
  /-- A whole number that fits sixty-four bits. -/
  | whole
  | truth
  /-- One of several names. -/
  | choice (names : List String)
  | sequence (element : Shape)
  | structure (name : String) (fields : Fields)

inductive Fields
  | nil
  | cons (name : String) (presence : Presence) (shape : Shape) (rest : Fields)

end

/-- What a member means: nothing may be there unless the member is required. -/
abbrev Presence.Denote (p : Presence) (α : Type) : Type :=
  match p with
  | .required => α
  | _ => Option α

mutual

/-- The type of what a value of a shape means. -/
def Shape.Denote : Shape → Type
  | .text => String
  | .path => String
  | .whole => Nat
  | .truth => Bool
  | .choice names => Fin names.length
  | .sequence element => List element.Denote
  | .structure _ fields => fields.Denote

def Fields.Denote : Fields → Type
  | .nil => Unit
  | .cons _ presence shape rest => presence.Denote shape.Denote × rest.Denote

end

/-- The number of members. -/
def Fields.size : Fields → Nat
  | .nil => 0
  | .cons _ _ _ rest => rest.size + 1

def Fields.names : Fields → List String
  | .nil => []
  | .cons name _ _ rest => name :: rest.names

/-- How messages name a structure. -/
def Fields.describe (fields : Fields) (name : String) : String :=
  "struct " ++ name ++ " with " ++ toString fields.size
    ++ if fields.size = 1 then " element" else " elements"

mutual

/-- The value that a meaning is written as. -/
def Shape.encode : (s : Shape) → s.Denote → Value
  | .text, t => .string t
  | .path, t => .string t
  | .whole, n => .nat n
  | .truth, b => .bool b
  | .choice names, i => .string (names.get i)
  | .sequence element, ds => .array (ds.map element.encode)
  | .structure _ fields, d => .object (fields.encode d)

def Fields.encode : (fs : Fields) → fs.Denote → List (String × Value)
  | .nil, _ => []
  | .cons name .required shape rest, (d, ds) => (name, shape.encode d) :: rest.encode ds
  | .cons name .optional shape rest, (d, ds) =>
    (d.toList.map fun x => (name, shape.encode x)) ++ rest.encode ds
  | .cons name .nullable shape rest, (d, ds) =>
    (name, (d.map shape.encode).getD .null) :: rest.encode ds
  | .cons name .defaulted shape rest, (d, ds) =>
    (d.toList.map fun x => (name, shape.encode x)) ++ rest.encode ds

end

end Nullability.Json
