import Mathlib.Data.List.Forall2
import Nullability.Proofs.JsonShapeText
import Nullability.Proofs.JsonShapeValue
import Nullability.Report.Document

/-!
Nothing is lost in what is written. Records, builder specifications and configurations are read back from
their text and from their value, whichever keys are left out, and a JSON report is one value from which the
specifications and the failures can be had again.
-/

namespace Nullability

/-- A line number, if it is known, fits sixty-four bits. -/
def LineFits (line : Option Nat) : Prop := ∀ n ∈ line, n < Nat.pow 2 64

def Component.LinesFit (c : Component) : Prop := LineFits c.line

def Record.LinesFit (r : Record) : Prop := LineFits r.line ∧ ∀ c ∈ r.components, c.LinesFit

def FieldSpec.LinesFit (f : FieldSpec) : Prop := LineFits f.line

def BuilderSpec.LinesFit (s : BuilderSpec) : Prop := LineFits s.line ∧ ∀ f ∈ s.fields, f.LinesFit

namespace Json.Codec

variable {α : Type}

/-- What is written for a member of the type is read back from the value and from either text, which may end
in a line break. -/
structure RoundTrips (c : Codec α) (a : α) : Prop where
  value : c.ofValue (c.encode a) = .ok a
  text : ∀ style, c.ofText ((c.encode a).text style) = .ok a
  line : ∀ style, c.ofText ((c.encode a).text style ++ "\n") = .ok a

theorem ofValue_encode (c : Codec α) (hdistinct : c.shape.Distinct) (a : α) :
    c.ofValue (c.encode a) = .ok a := by
  rw [ofValue, encode, c.shape.ofValue_encode _ hdistinct, Except.map, c.ofDenote_toDenote]

theorem roundTrips (c : Codec α) {a : α} (hdistinct : c.shape.Distinct)
    (hfits : c.shape.Fits (c.toDenote a)) : c.RoundTrips a where
  value := c.ofValue_encode hdistinct a
  text style := by
    have h := c.shape.ofText_text hdistinct hfits style "" Reader.blanks_nil
    rw [String.append_empty] at h
    rw [ofText, encode, h, Except.map, c.ofDenote_toDenote]
  line style := by
    have h := c.shape.ofText_text hdistinct hfits style "\n" Reader.blanks_newline
    rw [ofText, encode, h, Except.map, c.ofDenote_toDenote]

theorem component_distinct : component.shape.Distinct := by
  simp [component, Shape.Distinct, Fields.Distinct, Fields.names]

theorem record_distinct : record.shape.Distinct := by
  simp [record, component, Shape.Distinct, Fields.Distinct, Fields.names]

theorem fieldSpec_distinct : fieldSpec.shape.Distinct := by
  simp [fieldSpec, classification, Shape.Distinct, Fields.Distinct, Fields.names]

theorem builderSpec_distinct : builderSpec.shape.Distinct := by
  simp [builderSpec, fieldSpec, classification, Shape.Distinct, Fields.Distinct, Fields.names]

theorem config_distinct : config.shape.Distinct := by
  simp [config, classificationSection, recordsSection, outputSection, failurePolicy, outputFormat,
    Shape.Distinct, Fields.Distinct, Fields.names]

theorem component_fits {c : Component} (h : c.LinesFit) : component.shape.Fits (component.toDenote c) :=
  ⟨fun _ _ => trivial, fun _ _ _ _ => trivial, h, trivial⟩

theorem fieldSpec_fits {f : FieldSpec} (h : f.LinesFit) : fieldSpec.shape.Fits (fieldSpec.toDenote f) :=
  ⟨fun _ _ => trivial, fun _ _ => trivial, h, trivial⟩

theorem list_fits (c : Codec α) {as : List α} (h : ∀ a ∈ as, c.shape.Fits (c.toDenote a)) :
    c.list.shape.Fits (c.list.toDenote as) := by
  intro d hd
  obtain ⟨a, ha, rfl⟩ := List.mem_map.mp hd
  exact h a ha

theorem record_fits {r : Record} (h : r.LinesFit) : record.shape.Fits (record.toDenote r) := by
  refine ⟨fun _ _ => trivial, fun _ _ => trivial, h.1, fun x hx => ?_, trivial⟩
  cases hx
  exact list_fits component fun c hc => component_fits (h.2 c hc)

theorem builderSpec_fits {s : BuilderSpec} (h : s.LinesFit) :
    builderSpec.shape.Fits (builderSpec.toDenote s) := by
  refine ⟨fun _ _ => trivial, fun _ _ => trivial, h.1, fun x hx => ?_, trivial⟩
  cases hx
  exact list_fits fieldSpec fun f hf => fieldSpec_fits (h.2 f hf)

theorem config_fits (c : Config) : config.shape.Fits (config.toDenote c) :=
  ⟨fun _ _ => ⟨fun _ _ => trivial, fun _ _ => trivial, trivial⟩, fun _ _ => ⟨fun _ _ => trivial, trivial⟩,
    fun _ _ => ⟨fun _ _ => trivial, trivial⟩, trivial⟩

end Json.Codec

namespace Report

open Json

/-- A value carries a failure: its path, its operation and its error, and its record if one is known. -/
structure Carries (f : Failure) (v : Value) : Prop where
  path : v.member? "path" = some (.string f.path)
  operation : v.member? "operation" = some (.string f.operation.key)
  record : v.member? "record" = f.record.map .string
  error : v.member? "error" = some (.string f.error)

theorem failureValue_carries (f : Failure) : Carries f (failureValue f) := by
  obtain ⟨path, operation, record, error⟩ := f
  cases record <;> exact ⟨rfl, rfl, rfl, rfl⟩

theorem failureValues_carry (failures : List Failure) :
    List.Forall₂ Carries failures (failures.map failureValue) := by
  rw [List.forall₂_map_right_iff]
  exact List.forall₂_same.mpr fun f _ => failureValue_carries f

theorem exact_failureValue (f : Failure) : (failureValue f).Exact := by
  refine .object fun m hm => ?_
  rcases List.mem_append.mp hm with hm | hm
  · rcases List.mem_append.mp hm with hm | hm
    · rcases List.mem_pair.mp hm with rfl | rfl <;> exact .string _
    · obtain ⟨r, -, rfl⟩ := List.mem_map.mp hm
      exact .string r
  · cases List.mem_singleton.mp hm
    exact .string f.error

theorem exact_document {specs : List BuilderSpec} (h : ∀ s ∈ specs, s.LinesFit) (failures : List Failure) :
    (document specs failures).Exact := by
  have hspecs : (Codec.builderSpec.list.encode specs).Exact :=
    Shape.exact_encode _ _ (Codec.list_fits _ fun s hs => Codec.builderSpec_fits (h s hs))
  have hfailures : (Value.array (failures.map failureValue)).Exact := by
    refine .array fun v hv => ?_
    obtain ⟨f, -, rfl⟩ := List.mem_map.mp hv
    exact exact_failureValue f
  refine .object fun m hm => ?_
  rcases List.mem_pair.mp hm with rfl | rfl
  · exact hspecs
  · exact hfailures

/-- A text gives specifications and failures again: it is one JSON value and a line break, the value's
records mean the specifications, and its failures carry the failures, both in order. -/
def Gives (text : String) (specs : List BuilderSpec) (failures : List Failure) : Prop :=
  ∃ body document records failed,
    text = body ++ "\n" ∧ Value.parse body = .ok document ∧ Value.parse text = .ok document ∧
    document.member? "records" = some records ∧ Codec.builderSpec.list.ofValue records = .ok specs ∧
    document.member? "failures" = some (.array failed) ∧ List.Forall₂ Carries failures failed

theorem text_gives (colour : Bool) {specs : List BuilderSpec} (h : ∀ s ∈ specs, s.LinesFit)
    (failures : List Failure) : Gives (text .json colour specs failures) specs failures := by
  have hexact := exact_document h failures
  have hparse := Value.parse_text hexact .indented "" Reader.blanks_nil
  rw [String.append_empty] at hparse
  have hline := Value.parse_text hexact .indented "\n" Reader.blanks_newline
  have hspecs := Codec.builderSpec.list.ofValue_encode Codec.builderSpec_distinct specs
  exact ⟨_, _, _, _, rfl, hparse, hline, rfl, hspecs, rfl, failureValues_carry failures⟩

/-- A record with odd characters in its names, read at the last line that fits. -/
def oddRecord : Record :=
  ⟨"\x01\"\\😀", some "src/\té.rs", some 18446744073709551615,
    [⟨"a\n", ["Optional", "𝔹"], none⟩, ⟨"", [], some 0⟩]⟩

/-- A specification for it. -/
def oddSpec : BuilderSpec :=
  ⟨oddRecord.name, oddRecord.file, oddRecord.line, [⟨"a\n", .optional, none⟩, ⟨"", .required, some 0⟩]⟩

/-- Failures with and without a record. -/
def oddFailures : List Failure :=
  [⟨"b.rs", .classification, some "S", "\x7f"⟩, ⟨"", .fileRead, none, ""⟩]

end Report

end Nullability
