import Nullability.Assembly.Basic

/-!
What a configuration file says. Every section may be missing, and every accessor answers the default
where nothing is said.
-/

namespace Nullability

/-- How a report is written. -/
inductive OutputFormat
  | json | terminal
  deriving DecidableEq, Repr, Inhabited

def OutputFormat.name : OutputFormat → String
  | json => "json"
  | terminal => "terminal"

/-- How components are classified. -/
structure ClassificationSection where
  failurePolicy : FailurePolicy
  parallel : Bool
  deriving DecidableEq, Repr

/-- Which declarations are records. -/
structure RecordsSection where
  marker : Option String
  deriving DecidableEq, Repr

structure OutputSection where
  defaultFormat : OutputFormat
  deriving DecidableEq, Repr

structure Config where
  classification : Option ClassificationSection
  records : Option RecordsSection
  output : Option OutputSection
  deriving DecidableEq, Repr

namespace Config

/-- The configuration of a run without a configuration file. -/
def default : Config := ⟨none, none, none⟩

def failurePolicy (c : Config) : FailurePolicy :=
  (c.classification.map (·.failurePolicy)).getD .collectAll

def parallel (c : Config) : Bool := (c.classification.map (·.parallel)).getD true

def marker (c : Config) : Option String := c.records.bind (·.marker)

def defaultFormat (c : Config) : OutputFormat := (c.output.map (·.defaultFormat)).getD .terminal

end Config

end Nullability
