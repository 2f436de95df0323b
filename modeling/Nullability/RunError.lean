import Nullability.Assembly.Basic
import Nullability.FileTree.SystemError
import Nullability.Record.Extraction

/-!
Why a run, or one step of it, failed.
-/

namespace Nullability

inductive RunError
  /-- A file could not be read or written. -/
  | fileSystem (text : String) (path : Option String) (cause : Option SystemError)
  /-- A source file could not be parsed. -/
  | parse (e : ParseError)
  /-- A configuration file could not be understood. -/
  | configuration (text : String)
  /-- A component carries contradictory tags. -/
  | conflict (c : Conflict)
  /-- Components of a record could not be classified. -/
  | assembly (e : AssemblyError)
  /-- Records of a run could not be assembled. -/
  | incomplete (e : IncompleteRun)
  deriving DecidableEq, Repr

namespace RunError

def message : RunError → String
  | fileSystem text _ _ => "File system error: " ++ text
  | parse e => e.message
  | configuration text => "Configuration error: " ++ text
  | conflict c => c.message
  | assembly e => e.message
  | incomplete e => e.message

/-- The texts of what lies behind the error. -/
def causes : RunError → List String
  | fileSystem _ _ (some cause) => [cause.message]
  | _ => []

/-- The text of the error followed by the texts of what lies behind it. -/
def chain (e : RunError) : List String := e.message :: e.causes

end RunError

end Nullability
