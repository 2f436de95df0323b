import Nullability.Proofs.AssembledRecord
import Nullability.Proofs.StructRecords

/-!
What the verdicts on a struct item depend on. Of each field only its name counts and which of three names
are last in the paths of its own attributes. Two items whose fields agree in this show the same verdicts,
whatever else there is to them and around them.
-/

namespace Nullability

set_option maxRecDepth 4000

open Syntax

/-- Two fields have the same name and, among the last names of their attributes, the same of the tags that
a verdict looks at. -/
structure Syntax.Field.Alike (f g : Field) : Prop where
  name : f.name.map Prod.fst = g.name.map Prod.fst
  tags : ∀ tag ∈ verdictTags,
    tag ∈ f.attributes.map Attribute.lastName ↔ tag ∈ g.attributes.map Attribute.lastName

instance : DecidableRel Field.Alike := fun f g =>
  decidable_of_iff (f.name.map Prod.fst = g.name.map Prod.fst ∧ ∀ tag ∈ verdictTags,
      (tag ∈ f.attributes.map Attribute.lastName ↔ tag ∈ g.attributes.map Attribute.lastName))
    ⟨fun h => ⟨h.1, h.2⟩, fun h => ⟨h.name, h.tags⟩⟩

/-- Two lists of attributes differ in what no verdict looks at: in their order, in repetitions, in
attributes with other last names, or in all but the last names of their paths. -/
inductive Syntax.Attribute.Restyled : List Attribute → List Attribute → Prop
  | reordered {as bs : List Attribute} : as.Perm bs → Restyled as bs
  | repeated {a : Attribute} {as : List Attribute} : a ∈ as → Restyled as (a :: as)
  | respelled {a b : Attribute} {as : List Attribute} :
      a.lastName = b.lastName → Restyled (a :: as) (b :: as)
  | unrelated {a : Attribute} {as : List Attribute} : a.lastName ∉ verdictTags → Restyled as (a :: as)
  | symm {as bs : List Attribute} : Restyled as bs → Restyled bs as
  | trans {as bs cs : List Attribute} : Restyled as bs → Restyled bs cs → Restyled as cs

theorem Syntax.Attribute.Restyled.mem_iff {as bs : List Attribute} (h : Restyled as bs) {tag : String}
    (htag : tag ∈ verdictTags) :
    tag ∈ as.map Attribute.lastName ↔ tag ∈ bs.map Attribute.lastName := by
  induction h with
  | reordered hperm => exact (hperm.map Attribute.lastName).mem_iff
  | repeated ha =>
      rw [List.map_cons, List.mem_cons]
      refine ⟨Or.inr, ?_⟩
      rintro (rfl | h)
      · exact List.mem_map_of_mem ha
      · exact h
  | respelled hname => rw [List.map_cons, List.map_cons, List.mem_cons, List.mem_cons, hname]
  | unrelated hname =>
      rw [List.map_cons, List.mem_cons]
      refine ⟨Or.inr, ?_⟩
      rintro (rfl | h)
      · exact absurd htag hname
      · exact h
  | symm _ ih => exact ih.symm
  | trans _ _ ih ih' => exact ih.trans ih'

/-- Two fields have the same name, and their attributes differ in what no verdict looks at. -/
def Syntax.Field.Restyled (f g : Field) : Prop :=
  f.name.map Prod.fst = g.name.map Prod.fst ∧ Attribute.Restyled f.attributes g.attributes

theorem Syntax.Field.Restyled.alike {f g : Field} (h : f.Restyled g) : f.Alike g :=
  ⟨h.1, fun _ htag => h.2.mem_iff htag⟩

/-- What is shown of a record that has been assembled: the names and verdicts of its fields, or the names
that were refused. -/
def Assembler.shown : Except AssemblyError BuilderSpec → Except (List String) (List (String × Classification))
  | .ok spec => .ok (spec.fields.map fun f => (f.name, f.classification))
  | .error e => .error (e.conflicts.map (·.component))

namespace Record

variable {r s : Record}

theorem contradicted_of_alike (h : List.Forall₂ Component.Alike r.components s.components) :
    r.contradicted = s.contradicted := by
  rw [contradicted, contradicted]
  generalize r.components = cs, s.components = ds at h ⊢
  induction h with
  | nil => rfl
  | cons hcd _ ih =>
      rw [List.filter_cons, List.filter_cons]
      simp only [hcd.nullable_iff, hcd.required_iff]
      split
      · rw [List.map_cons, List.map_cons, hcd.name, ih]
      · exact ih

theorem verdicts_of_alike (h : List.Forall₂ Component.Alike r.components s.components) :
    (r.components.map fun c => (c.name, Classification.ofTags c.tags)) =
      s.components.map fun c => (c.name, Classification.ofTags c.tags) := by
  generalize r.components = cs, s.components = ds at h ⊢
  induction h with
  | nil => rfl
  | cons hcd _ ih => rw [List.map_cons, List.map_cons, hcd.name, hcd.classification_eq, ih]

theorem shown_assemble (a : Assembler) (r : Record) :
    Assembler.shown (a.assemble r).1 =
      if r.contradicted = [] then .ok (r.components.map fun c => (c.name, .ofTags c.tags))
      else .error (a.policy.reported r.contradicted) := by
  rw [Assembler.assemble_eq]
  by_cases h : r.Conflicted
  · rw [if_pos h, if_neg fun hnil => contradicted_eq_nil.mp hnil h, ← refusal_names]
    rfl
  · rw [if_neg h, if_pos (contradicted_eq_nil.mpr h), Assembler.shown, spec, List.map_map]
    rfl

/-- Fields that are alike become components that are alike, whatever texts they stand in. -/
theorem componentOfField_alike {f g : Field} (h : f.Alike g) (text text' : List Char) (index : Nat) :
    (componentOfField text index f).Alike (componentOfField text' index g) := by
  have hf := componentOfField_shows text index f
  have hg := componentOfField_shows text' index g
  refine ⟨?_, ?_⟩
  · have hname := h.name
    cases hfname : f.name with
    | none =>
        rw [hfname, Option.map_none, eq_comm, Option.map_eq_none_iff] at hname
        rw [hf.numbered hfname, hg.numbered hname]
    | some named =>
        obtain ⟨name, place⟩ := named
        rw [hfname, Option.map_some, eq_comm, Option.map_eq_some_iff] at hname
        obtain ⟨⟨_, place'⟩, hgname, rfl⟩ := hname
        rw [hf.named _ _ hfname, hg.named _ _ hgname]
  · rw [hf.tags, hg.tags]
    exact h.tags

theorem mapIdx_alike {fields fields' : List Field} (h : List.Forall₂ Field.Alike fields fields')
    {component component' : Nat → Field → Component}
    (heach : ∀ i f g, f.Alike g → (component i f).Alike (component' i g)) :
    List.Forall₂ Component.Alike (fields.mapIdx component) (fields'.mapIdx component') := by
  induction h generalizing component component' with
  | nil => exact .nil
  | cons hfg _ ih =>
      rw [List.mapIdx_cons, List.mapIdx_cons]
      exact .cons (heach 0 _ _ hfg) (ih fun i => heach (i + 1))

/-- The verdicts on a struct item depend on the names of its fields and on which of three simple names
their own attributes carry. The file, the text around the item, its attributes, the types and whatever
else belongs to a field do not count; nor do the order and repetition of attributes, their arguments, what
stands before the last name of a path, and attributes of other names. -/
theorem verdicts_from_simple_names (p : FailurePolicy) (parallel parallel' : Bool) (text text' : List Char)
    (file file' : String) (item item' : StructItem) :
    (List.Forall₂ Field.Alike item.fields item'.fields →
      Assembler.shown (Assembler.assemble ⟨p, parallel⟩ (ofStruct text file item)).1 =
        Assembler.shown (Assembler.assemble ⟨p, parallel'⟩ (ofStruct text' file' item')).1) ∧
    (List.Forall₂ Field.Restyled item.fields item'.fields →
      Assembler.shown (Assembler.assemble ⟨p, parallel⟩ (ofStruct text file item)).1 =
        Assembler.shown (Assembler.assemble ⟨p, parallel'⟩ (ofStruct text' file' item')).1) := by
  have hsame (h : List.Forall₂ Field.Alike item.fields item'.fields) :
      Assembler.shown (Assembler.assemble ⟨p, parallel⟩ (ofStruct text file item)).1 =
        Assembler.shown (Assembler.assemble ⟨p, parallel'⟩ (ofStruct text' file' item')).1 := by
    have halike : List.Forall₂ Component.Alike (ofStruct text file item).components
        (ofStruct text' file' item').components :=
      mapIdx_alike h fun i _ _ hfg => componentOfField_alike hfg text text' i
    rw [shown_assemble, shown_assemble, contradicted_of_alike halike, verdicts_of_alike halike]
  exact ⟨hsame, fun h => hsame (h.imp fun _ _ => Field.Restyled.alike)⟩

/-- The first struct item of a text. -/
def firstStruct? (source : String) : Option StructItem :=
  (Syntax.parse source.toList).toOption.bind (·.structs.head?)

/-- A text whose struct has tags in arguments, in a type and on the struct itself, and a text with none of
that whose struct gets the same verdicts. -/
def decoratedSource : String :=
  "#[Nullable] #[derive(NonNull)] pub struct A<T> \x7b
  #[serde(rename = \"Nullable\")] pub a: Option<Nullable>,
  #[x::y::r#Nullable(NotNull)] #[Other] #[Nullable] pub(crate) b: [u8; \x7b struct Inner; 2 \x7d],
\x7d"

def bareSource : String := "struct B \x7b a: u8, #[Nullable] b: u8 \x7d"

theorem firstStruct?_ofList (cs : List Char) :
    firstStruct? (String.ofList cs) = (Syntax.parse cs).toOption.bind (·.structs.head?) := by
  rw [firstStruct?, String.toList_ofList]

-- Evaluated on lists of characters: taking them from the bytes of a text is slow in the kernel.
private theorem sources_read :
    (do
      let item ← firstStruct? decoratedSource
      let item' ← firstStruct? bareSource
      return decide (List.Forall₂ Field.Alike item.fields item'.fields ∧
        Assembler.shown (Assembler.assemble ⟨.failFast, false⟩ (ofStruct [] "b.rs" item')).1 =
          .ok [("a", .required), ("b", .optional)])) = some true := by
  have hdecorated : decoratedSource = String.ofList _ := rfl
  have hbare : bareSource = String.ofList _ := rfl
  rw [hdecorated, hbare, firstStruct?_ofList, firstStruct?_ofList]
  decide +kernel

theorem decoration_does_not_count :
    ∃ item item', firstStruct? decoratedSource = some item ∧ firstStruct? bareSource = some item' ∧
      List.Forall₂ Field.Alike item.fields item'.fields ∧
      Assembler.shown (Assembler.assemble ⟨.failFast, true⟩ (ofStruct [] "a.rs" item)).1 =
        Assembler.shown (Assembler.assemble ⟨.failFast, false⟩ (ofStruct [] "b.rs" item')).1 ∧
      Assembler.shown (Assembler.assemble ⟨.failFast, false⟩ (ofStruct [] "b.rs" item')).1 =
        .ok [("a", .required), ("b", .optional)] := by
  have hread := sources_read
  simp only [Option.bind_eq_bind, Option.pure_def, Option.bind_eq_some_iff, Option.some.injEq,
    decide_eq_true_eq] at hread
  obtain ⟨item, hitem, item', hitem', halike, hverdicts⟩ := hread
  have hsame := (verdicts_from_simple_names .failFast true false [] [] "a.rs" "b.rs" item item').1 halike
  exact ⟨item, item', hitem, hitem', halike, hsame, hverdicts⟩

end Record

end Nullability
