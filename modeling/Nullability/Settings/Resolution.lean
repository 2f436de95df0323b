import Nullability.Assembly.Assembler
import Nullability.Settings.Config
import Nullability.Settings.Marker
import Nullability.Text.Quoted

/-!
The settings of an inspection: what the flags say, and for the rest what the configuration says.
-/

namespace Nullability

/-- What is given with an inspection. -/
structure InspectFlags where
  path : String
  config : Option String
  format : Option OutputFormat
  marker : Option String
  failFast : Bool
  noParallel : Bool
  jobs : Nat
  plain : Bool
  deriving DecidableEq, Repr

/-- The settings that hold for an inspection. -/
structure InspectSettings where
  format : OutputFormat
  marker : Option String
  failurePolicy : FailurePolicy
  parallel : Bool
  deriving DecidableEq, Repr

namespace InspectSettings

def assembler (s : InspectSettings) : Assembler := ⟨s.failurePolicy, s.parallel⟩

/-- The message about a marker that is no identifier. -/
def invalidMarker (marker : String) : String :=
  "Invalid record marker " ++ Text.quoted marker ++ ": expected a single identifier"

/-- The settings under flags and a configuration. -/
def merge (flags : InspectFlags) (config : Config) : InspectSettings where
  format := flags.format.getD config.defaultFormat
  marker := flags.marker <|> config.marker
  failurePolicy := if flags.failFast then .failFast else config.failurePolicy
  parallel := !flags.noParallel && config.parallel

/-- The settings, or the message that refuses the marker given. -/
def resolve (flags : InspectFlags) (config : Config) : Except String InspectSettings :=
  match flags.marker with
  | none => .ok (merge flags config)
  | some m => if Marker.isValid m then .ok (merge flags config) else .error (invalidMarker m)

end InspectSettings

end Nullability
