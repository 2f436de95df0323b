import Nullability.Json.OfValue
import Nullability.Settings.Config

/-!
The written forms of records, builder specifications and configurations. A codec gives a type the shape
of its values and the two directions between what a shape means and the type; going there and back
changes nothing.
-/

namespace Nullability.Json

/-- How a type is written. -/
structure Codec (α : Type) where
  shape : Shape
  toDenote : α → shape.Denote
  ofDenote : shape.Denote → α
  ofDenote_toDenote : ∀ a, ofDenote (toDenote a) = a := by intro a; cases a <;> rfl

namespace Codec

/-- The value that is written for a member of the type. -/
def encode {α : Type} (c : Codec α) (a : α) : Value := c.shape.encode (c.toDenote a)

/-- Reads a whole text. -/
def ofText {α : Type} (c : Codec α) (text : String) : Except Fault α := (c.shape.ofText text).map c.ofDenote

/-- Reads a value. -/
def ofValue {α : Type} (c : Codec α) (v : Value) : Except Cause α := (c.shape.ofValue v).map c.ofDenote

/-- Lists are written as arrays. -/
def list {α : Type} (c : Codec α) : Codec (List α) where
  shape := .sequence c.shape
  toDenote as := as.map c.toDenote
  ofDenote ds := ds.map c.ofDenote
  ofDenote_toDenote as := by
    have h : c.ofDenote ∘ c.toDenote = id := funext c.ofDenote_toDenote
    simp [h]

def classification : Codec Classification where
  shape := .choice ["required", "optional"]
  toDenote
    | .required => (0 : Fin 2)
    | .optional => (1 : Fin 2)
  ofDenote i := if i.val = 0 then .required else .optional

def nullPolicy : Codec NullPolicy where
  shape := .choice ["reject-absent", "accept-absent"]
  toDenote
    | .rejectAbsent => (0 : Fin 2)
    | .acceptAbsent => (1 : Fin 2)
  ofDenote i := if i.val = 0 then .rejectAbsent else .acceptAbsent

def failurePolicy : Codec FailurePolicy where
  shape := .choice ["fail-fast", "collect-all"]
  toDenote
    | .failFast => (0 : Fin 2)
    | .collectAll => (1 : Fin 2)
  ofDenote i := if i.val = 0 then .failFast else .collectAll

def outputFormat : Codec OutputFormat where
  shape := .choice ["json", "terminal"]
  toDenote
    | .json => (0 : Fin 2)
    | .terminal => (1 : Fin 2)
  ofDenote i := if i.val = 0 then .json else .terminal

def component : Codec Component where
  shape := .structure "RecordComponent"
    (.cons "name" .required .text
    (.cons "tag_names" .required (.sequence .text)
    (.cons "line" .optional .whole .nil)))
  toDenote c := (c.name, c.tags, c.line, ())
  ofDenote := fun (name, tags, line, _) => ⟨name, tags, line⟩

def record : Codec Record where
  shape := .structure "RecordDeclaration"
    (.cons "name" .required .text
    (.cons "file" .optional .path
    (.cons "line" .optional .whole
    (.cons "components" .required (.sequence component.shape) .nil))))
  toDenote r := (r.name, r.file, r.line, component.list.toDenote r.components, ())
  ofDenote := fun (name, file, line, components, _) => ⟨name, file, line, component.list.ofDenote components⟩
  ofDenote_toDenote r := by
    cases r
    simp only [component.list.ofDenote_toDenote]

def fieldSpec : Codec FieldSpec where
  shape := .structure "FieldSpec"
    (.cons "name" .required .text
    (.cons "classification" .required classification.shape
    (.cons "line" .optional .whole .nil)))
  toDenote f := (f.name, classification.toDenote f.classification, f.line, ())
  ofDenote := fun (name, verdict, line, _) => ⟨name, classification.ofDenote verdict, line⟩
  ofDenote_toDenote f := by
    cases f
    simp only [classification.ofDenote_toDenote]

def builderSpec : Codec BuilderSpec where
  shape := .structure "BuilderSpec"
    (.cons "record" .required .text
    (.cons "file" .optional .path
    (.cons "line" .optional .whole
    (.cons "fields" .required (.sequence fieldSpec.shape) .nil))))
  toDenote s := (s.record, s.file, s.line, fieldSpec.list.toDenote s.fields, ())
  ofDenote := fun (record, file, line, fields, _) => ⟨record, file, line, fieldSpec.list.ofDenote fields⟩
  ofDenote_toDenote s := by
    cases s
    simp only [fieldSpec.list.ofDenote_toDenote]

def classificationSection : Codec ClassificationSection where
  shape := .structure "ClassificationConfig"
    (.cons "failure_policy" .defaulted failurePolicy.shape
    (.cons "parallel" .defaulted .truth .nil))
  toDenote s := (some (failurePolicy.toDenote s.failurePolicy), some s.parallel, ())
  ofDenote := fun (policy, parallel, _) =>
    ⟨(policy.map failurePolicy.ofDenote).getD .collectAll, parallel.getD true⟩
  ofDenote_toDenote s := by
    cases s
    simp only [Option.map_some, failurePolicy.ofDenote_toDenote]
    rfl

def recordsSection : Codec RecordsSection where
  shape := .structure "RecordsConfig" (.cons "marker" .nullable .text .nil)
  toDenote s := (s.marker, ())
  ofDenote := fun (marker, _) => ⟨marker⟩

def outputSection : Codec OutputSection where
  shape := .structure "OutputConfig" (.cons "default_format" .defaulted outputFormat.shape .nil)
  toDenote s := (some (outputFormat.toDenote s.defaultFormat), ())
  ofDenote := fun (format, _) => ⟨(format.map outputFormat.ofDenote).getD .terminal⟩
  ofDenote_toDenote s := by
    cases s
    simp [outputFormat.ofDenote_toDenote]

def config : Codec Config where
  shape := .structure "RecbuildConfig"
    (.cons "classification" .nullable classificationSection.shape
    (.cons "records" .nullable recordsSection.shape
    (.cons "output" .nullable outputSection.shape .nil)))
  toDenote c := (c.classification.map classificationSection.toDenote,
    c.records.map recordsSection.toDenote, c.output.map outputSection.toDenote, ())
  ofDenote := fun (classification, records, output, _) =>
    ⟨classification.map classificationSection.ofDenote, records.map recordsSection.ofDenote,
      output.map outputSection.ofDenote⟩
  ofDenote_toDenote c := by
    obtain ⟨a, b, d⟩ := c
    cases a <;> cases b <;> cases d <;>
      simp [classificationSection.ofDenote_toDenote, recordsSection.ofDenote_toDenote,
        outputSection.ofDenote_toDenote]

end Codec

end Nullability.Json
