import Nullability.Json.Codec
import Nullability.Log.Basic
import Nullability.Settings.Marker
import Nullability.Toml.Decode

/-!
Reading configuration texts. A marker that is no identifier is dropped with a warning; everything else
that is said stays.
-/

namespace Nullability.Config

/-- The name of configuration files. -/
def fileName : String := ".recbuild.toml"

/-- What a text says, or the message that refuses it. -/
def ofToml (text : String) : Except String Config :=
  let cs := text.toList
  match Toml.parse cs >>= Toml.readAs Json.Codec.config.shape with
  | .ok d => .ok (Json.Codec.config.ofDenote d)
  | .error fault => .error ("Failed to parse " ++ fileName ++ ": " ++ fault.message cs)

/-- The configuration without its marker if that is none, and the warning about it. -/
def dropInvalidMarker (c : Config) : Config × Logged :=
  match c.marker with
  | none => (c, [])
  | some m =>
    if Marker.isValid m then (c, [])
    else
      ({ c with records := some ⟨none⟩ },
       [⟨.warn, .discovery, "Ignoring invalid record marker " ++ Text.quoted m⟩])

/-- The configuration that a text says, with the lines that reading it logs. -/
def parse (text : String) : Except String (Config × Logged) := (ofToml text).map dropInvalidMarker

end Nullability.Config
