import Nullability.Record.Classification

/-!
Builder specifications, and what a run of the assembler reports.
-/

namespace Nullability

/-- How a run reacts to a component that cannot be classified. -/
inductive FailurePolicy
  | failFast | collectAll
  deriving DecidableEq, Repr, Inhabited

def FailurePolicy.name : FailurePolicy → String
  | failFast => "fail-fast"
  | collectAll => "collect-all"

/-- One field of a builder: a classified component. -/
structure FieldSpec where
  name : String
  classification : Classification
  line : Option Nat
  deriving DecidableEq, Repr, Inhabited

namespace FieldSpec

def nullPolicy (f : FieldSpec) : NullPolicy := .ofClassification f.classification

/-- A required field has to be given when the builder is made. -/
def isMandatory (f : FieldSpec) : Bool := f.classification.isRequired

end FieldSpec

/-- What a builder for one record is made from. -/
structure BuilderSpec where
  record : String
  file : Option String
  line : Option Nat
  fields : List FieldSpec
  deriving DecidableEq, Repr, Inhabited

namespace BuilderSpec

def requiredFields (s : BuilderSpec) : List FieldSpec := s.fields.filter (·.isMandatory)

def optionalFields (s : BuilderSpec) : List FieldSpec := s.fields.filter (!·.isMandatory)

/-- The names of the arguments that the constructor takes, in declaration order. -/
def constructorParameters (s : BuilderSpec) : List String := s.requiredFields.map (·.name)

end BuilderSpec

/-- The conflicts of one record. -/
structure AssemblyError where
  record : String
  location : String
  conflicts : List Conflict
  deriving DecidableEq, Repr

def AssemblyError.message (e : AssemblyError) : String :=
  "Record " ++ e.record ++ " (" ++ e.location ++ "): "
    ++ String.intercalate "; " (e.conflicts.map Conflict.message)

/-- A run with failed records emits no builder at all. -/
structure IncompleteRun where
  failed : Nat
  total : Nat
  deriving DecidableEq, Repr

def IncompleteRun.message (e : IncompleteRun) : String :=
  toString e.failed ++ " of " ++ toString e.total
    ++ " records failed classification; no builders emitted"

/-- The outcome of assembling the records of a run; `skipped` counts those left out after a stop. -/
structure AssemblyReport where
  specs : List BuilderSpec
  failures : List AssemblyError
  skipped : Nat
  deriving DecidableEq, Repr

namespace AssemblyReport

def isCompleteSuccess (r : AssemblyReport) : Bool := r.failures.isEmpty && r.skipped == 0

def totalCount (r : AssemblyReport) : Nat := r.specs.length + r.failures.length + r.skipped

def failedComponentCount (r : AssemblyReport) : Nat :=
  (r.failures.flatMap (·.conflicts)).length

/-- The specs, if nothing failed. -/
def emittable (r : AssemblyReport) : Except IncompleteRun (List BuilderSpec) :=
  if r.isCompleteSuccess then .ok r.specs else .error ⟨r.failures.length, r.totalCount⟩

end AssemblyReport

end Nullability
