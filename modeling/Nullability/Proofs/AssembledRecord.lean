import Mathlib.Data.List.Forall2
import Nullability.Proofs.RecordAssembly

/-!
What assembling one record comes to. A record without contradictory tags becomes a specification with one
field for each component, and its required and optional fields together are all its fields, the order of
each kept. Any other record is refused, and the refusal names the contradicted components that the policy
lets through.
-/

namespace Nullability

/-- A list is made of two others, the elements of each in their order: every element comes from exactly one
of the two. -/
inductive Interleaves {α : Type} : List α → List α → List α → Prop
  | nil : Interleaves [] [] []
  | left {a : α} {as bs cs : List α} : Interleaves as bs cs → Interleaves (a :: as) bs (a :: cs)
  | right {b : α} {as bs cs : List α} : Interleaves as bs cs → Interleaves as (b :: bs) (b :: cs)

/-- What satisfies a condition and what does not make up the whole. -/
theorem interleaves_filter {α : Type} (p : α → Bool) (as : List α) :
    Interleaves (as.filter p) (as.filter (!p ·)) as := by
  induction as with
  | nil => exact .nil
  | cons a as ih =>
      cases h : p a with
      | true =>
          rw [List.filter_cons_of_pos h, List.filter_cons_of_neg (by simp [h])]
          exact .left ih
      | false =>
          rw [List.filter_cons_of_neg (by simp [h]), List.filter_cons_of_pos (by simp [h])]
          exact .right ih

/-- The names of the components that carry the optional tag beside a required one, in declaration order. -/
def Record.contradicted (r : Record) : List String :=
  (r.components.filter fun c =>
    "Nullable" ∈ c.tags ∧ ("NotNull" ∈ c.tags ∨ "NonNull" ∈ c.tags)).map (·.name)

/-- A field shows a component: it keeps the name and the line, and is optional exactly if the component
carries the optional tag. -/
structure FieldSpec.Shows (c : Component) (f : FieldSpec) : Prop where
  name : f.name = c.name
  line : f.line = c.line
  optional : f.classification = .optional ↔ "Nullable" ∈ c.tags

/-- A specification is that of a record: there is one field for each component, in order, every field is
either required or optional, and the constructor takes what is not optional. -/
structure BuilderSpec.Specifies (r : Record) (s : BuilderSpec) : Prop where
  record : s.record = r.name
  file : s.file = r.file
  line : s.line = r.line
  fields : List.Forall₂ FieldSpec.Shows r.components s.fields
  kinds : Interleaves s.requiredFields s.optionalFields s.fields
  required : ∀ f ∈ s.requiredFields, f.classification = .required
  optional : ∀ f ∈ s.optionalFields, f.classification = .optional
  arguments : s.constructorParameters = (r.components.filter ("Nullable" ∉ ·.tags)).map (·.name)

theorem Component.field_shows (c : Component) : FieldSpec.Shows c c.field :=
  ⟨rfl, rfl, Classification.ofTags_eq_optional_iff⟩

theorem Component.field_isMandatory (c : Component) :
    c.field.isMandatory = decide ("Nullable" ∉ c.tags) := by
  by_cases h : "Nullable" ∈ c.tags <;>
    simp [FieldSpec.isMandatory, field, Classification.ofTags, Classification.isRequired, h]

namespace BuilderSpec

theorem kinds_interleave (s : BuilderSpec) : Interleaves s.requiredFields s.optionalFields s.fields :=
  interleaves_filter _ _

theorem required_of_mem {s : BuilderSpec} {f : FieldSpec} (h : f ∈ s.requiredFields) :
    f.classification = .required := by
  have hmandatory := (List.mem_filter.mp h).2
  cases hf : f.classification with
  | required => rfl
  | optional => simp [FieldSpec.isMandatory, hf, Classification.isRequired] at hmandatory

theorem optional_of_mem {s : BuilderSpec} {f : FieldSpec} (h : f ∈ s.optionalFields) :
    f.classification = .optional := by
  have hmandatory := (List.mem_filter.mp h).2
  cases hf : f.classification with
  | required => simp [FieldSpec.isMandatory, hf, Classification.isRequired] at hmandatory
  | optional => rfl

end BuilderSpec

namespace Record

theorem spec_constructorParameters (r : Record) :
    r.spec.constructorParameters = (r.components.filter ("Nullable" ∉ ·.tags)).map (·.name) := by
  rw [BuilderSpec.constructorParameters, BuilderSpec.requiredFields, spec, List.filter_map, List.map_map]
  congr 1
  exact List.filter_congr fun c _ => c.field_isMandatory

theorem spec_specifies (r : Record) : r.spec.Specifies r where
  record := rfl
  file := rfl
  line := rfl
  fields := by
    rw [spec, List.forall₂_map_right_iff]
    exact List.forall₂_same.mpr fun c _ => c.field_shows
  kinds := r.spec.kinds_interleave
  required _ := BuilderSpec.required_of_mem
  optional _ := BuilderSpec.optional_of_mem
  arguments := r.spec_constructorParameters

theorem conflicts_names (r : Record) : r.conflicts.map (·.component) = r.contradicted := by
  rw [conflicts, Component.conflicts, List.map_map, contradicted]
  simp only [conflicting_iff]
  rfl

theorem contradicted_eq_nil {r : Record} : r.contradicted = [] ↔ ¬r.Conflicted := by
  rw [← conflicts_names, List.map_eq_nil_iff, conflicts_eq_nil]

theorem refusal_names (p : FailurePolicy) (r : Record) :
    (r.refusal p).conflicts.map (·.component) = p.reported r.contradicted := by
  rw [← conflicts_names, FailurePolicy.reported_map]
  rfl

end Record

namespace Assembler

/-- A record in which no component is contradicted is assembled into its specification. Any other is
refused under its name and location; the refusal names every contradicted component if failures are
collected, and the first one if the run fails fast. -/
theorem assemble_specifies_or_names (a : Assembler) (r : Record) :
    match r.contradicted with
    | [] => ∃ spec, (a.assemble r).1 = .ok spec ∧ spec.Specifies r
    | first :: more =>
      ∃ e, (a.assemble r).1 = .error e ∧ e.record = r.name ∧ e.location = r.location ∧
        e.conflicts.map (·.component) =
          match a.policy with
          | .collectAll => first :: more
          | .failFast => [first] := by
  rw [assemble_eq]
  cases h : r.contradicted with
  | nil =>
      rw [if_neg (Record.contradicted_eq_nil.mp h)]
      exact ⟨r.spec, rfl, r.spec_specifies⟩
  | cons first more =>
      have hconflicted : r.Conflicted := by
        refine Classical.not_not.mp fun hnone => ?_
        rw [Record.contradicted_eq_nil.mpr hnone] at h
        cases h
      rw [if_pos hconflicted]
      refine ⟨r.refusal a.policy, rfl, rfl, rfl, ?_⟩
      rw [Record.refusal_names, h]
      cases a.policy <;> rfl

end Assembler

end Nullability
