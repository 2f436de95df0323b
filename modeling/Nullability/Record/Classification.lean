import Nullability.Record.Basic

/-!
Nullability of components. A component is optional if it carries the optional tag and required if it
does not; one that carries both an optional and a required tag is refused.
-/

namespace Nullability

/-- The verdict on a component: whether it must hold a value. -/
inductive Classification
  | required | optional
  deriving DecidableEq, Repr, Inhabited

namespace Classification

def name : Classification → String
  | required => "required"
  | optional => "optional"

def isRequired : Classification → Bool
  | required => true
  | optional => false

def isOptional (c : Classification) : Bool := !c.isRequired

end Classification

/-- What construction does when a value is absent. -/
inductive NullPolicy
  | rejectAbsent | acceptAbsent
  deriving DecidableEq, Repr, Inhabited

namespace NullPolicy

def name : NullPolicy → String
  | rejectAbsent => "reject-absent"
  | acceptAbsent => "accept-absent"

def ofClassification : Classification → NullPolicy
  | .required => rejectAbsent
  | .optional => acceptAbsent

end NullPolicy

/-- The tags that mark a component as optional. -/
def optionalTags : List String := ["Nullable"]

/-- The tags that mark a component as required. -/
def requiredTags : List String := ["NotNull", "NonNull"]

/-- A component carries contradictory tags. -/
structure Conflict where
  component : String
  deriving DecidableEq, Repr

def Conflict.message (c : Conflict) : String :=
  "Element " ++ c.component ++ " has both a nullable and not-nullable annotation"

/-- The verdict on a name, given which of the two kinds of tags it carries. -/
def verdict (name : String) (hasOptional hasRequired : Bool) : Except Conflict Classification :=
  match hasOptional, hasRequired with
  | true, true => .error ⟨name⟩
  | true, false => .ok .optional
  | false, _ => .ok .required

/-- Classifies a component by its tags. -/
def classify (c : Component) : Except Conflict Classification :=
  verdict c.name (c.hasAnyTag optionalTags) (c.hasAnyTag requiredTags)

/-- Classifies a name with a list of tags, looking at each tag in turn. -/
def classifyTags (name : String) (tags : List String) : Except Conflict Classification :=
  verdict name (tags.any optionalTags.contains) (tags.any requiredTags.contains)

/-- Whether a tag list has members of both kinds. -/
def Conflicting (tags : List String) : Prop :=
  (∃ tag ∈ tags, tag ∈ optionalTags) ∧ ∃ tag ∈ tags, tag ∈ requiredTags

instance (tags : List String) : Decidable (Conflicting tags) :=
  inferInstanceAs (Decidable (_ ∧ _))

end Nullability
