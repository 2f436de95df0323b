/-!
Records: declarations with named components, each carrying the simple names of the tags attached to it.
-/

namespace Nullability

/-- One component of a record, reduced to what classification needs. Tags keep their order and
multiplicity. -/
structure Component where
  name : String
  tags : List String
  line : Option Nat
  deriving DecidableEq, Repr, Inhabited

namespace Component

def hasTag (c : Component) (tag : String) : Bool := c.tags.contains tag

def hasAnyTag (c : Component) (tags : List String) : Bool := tags.any c.hasTag

theorem hasAnyTag_iff {c : Component} {tags : List String} :
    c.hasAnyTag tags ↔ ∃ tag ∈ tags, tag ∈ c.tags := by
  simp [hasAnyTag, hasTag]

end Component

/-- A record declaration with its components in declaration order. -/
structure Record where
  name : String
  file : Option String
  line : Option Nat
  components : List Component
  deriving DecidableEq, Repr, Inhabited

/-- The file and line of a record as far as they are known, otherwise its name. -/
def Record.location (r : Record) : String :=
  match r.file, r.line with
  | some file, some line => file ++ ":" ++ toString line
  | some file, none => file
  | none, _ => r.name

end Nullability
