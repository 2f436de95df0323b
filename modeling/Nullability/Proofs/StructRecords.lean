import Mathlib.Data.List.Forall2
import Nullability.Proofs.StructPlaces
import Nullability.Record.Extraction

/-!
The records of a text. Every struct item of the syntax tree has one record, wherever it stands, and the
record has one component for each field with the field's name or number and the last names of the field's
attributes.
-/

namespace Nullability

open Syntax

/-- The last name of an attribute's path, without a raw mark. -/
def Syntax.Attribute.lastName (a : Attribute) : String :=
  Text.withoutRawMark (a.path.getLast a.path_ne_nil)

theorem Syntax.Attribute.simpleName?_eq (a : Attribute) : a.simpleName? = some a.lastName := by
  rw [simpleName?, List.getLast?_eq_some_getLast a.path_ne_nil]
  rfl

/-- A component shows the field with a given number: under the field's name, or under the number in
decimal if the field has no name, with one tag for each attribute. -/
structure Component.Shows (index : Nat) (f : Field) (c : Component) : Prop where
  named : ∀ name place, f.name = some (name, place) → c.name = name
  numbered : f.name = none → c.name = String.ofList (Nat.toDigits 10 index)
  tags : c.tags = f.attributes.map Attribute.lastName

/-- A record shows a struct item of a file: each field has a component, in order, and no two fields
without a name share the name of their components. -/
structure Record.Shows (file : String) (item : StructItem) (r : Record) : Prop where
  name : r.name = item.name
  file : r.file = some file
  length : r.components.length = item.fields.length
  each : ∀ (i : Nat) f c, item.fields[i]? = some f → r.components[i]? = some c → c.Shows i f
  distinct : ∀ (i j : Nat) f g c d, item.fields[i]? = some f → item.fields[j]? = some g →
    f.name = none → g.name = none → r.components[i]? = some c → r.components[j]? = some d →
    c.name = d.name → i = j

namespace Record

variable (text : List Char)

theorem componentOfField_shows (index : Nat) (f : Field) : (componentOfField text index f).Shows index f where
  named name place h := by
    rw [componentOfField, h]
  numbered h := by
    rw [componentOfField, h]
    exact Nat.toString_eq_ofList_toDigits
  tags := by
    have hnames : f.attributes.filterMap (·.simpleName?) = f.attributes.map Attribute.lastName := by
      rw [← List.filterMap_eq_map]
      exact List.filterMap_congr fun a _ => a.simpleName?_eq
    exact hnames

private theorem toDigits_injective {i j : Nat}
    (h : String.ofList (Nat.toDigits 10 i) = String.ofList (Nat.toDigits 10 j)) : i = j := by
  have hdigits : Nat.toDigits 10 i = Nat.toDigits 10 j := String.ofList_injective h
  calc i = Nat.ofDigitChars 10 (Nat.toDigits 10 i) 0 := Nat.ofDigitChars_ten_toDigits.symm
    _ = Nat.ofDigitChars 10 (Nat.toDigits 10 j) 0 := by rw [hdigits]
    _ = j := Nat.ofDigitChars_ten_toDigits

theorem ofStruct_shows (file : String) (item : StructItem) : (ofStruct text file item).Shows file item := by
  have heach : ∀ (i : Nat) f c, item.fields[i]? = some f →
      (ofStruct text file item).components[i]? = some c → c.Shows i f := by
    intro i f c hf hc
    rw [ofStruct, List.getElem?_mapIdx, hf, Option.map_some] at hc
    cases hc
    exact componentOfField_shows text i f
  refine ⟨rfl, rfl, List.length_mapIdx, heach, ?_⟩
  intro i j f g c d hf hg hfnone hgnone hc hd hname
  have hi := (heach i f c hf hc).numbered hfnone
  have hj := (heach j g d hg hd).numbered hgnone
  rw [hi, hj] at hname
  exact toDigits_injective hname

theorem select_none (items : List StructItem) : (select none items).1 = items := by
  induction items with
  | nil => rfl
  | cons item rest ih => exact congrArg (item :: ·) ih

/-- A marker selects struct items among those given and keeps their order. -/
theorem select_sublist (marker : Option String) (items : List StructItem) :
    (select marker items).1.Sublist items := by
  induction items with
  | nil => exact List.Sublist.refl []
  | cons item rest ih =>
      rw [select]
      dsimp only
      split
      · exact ih.cons_cons item
      · exact ih.cons item

theorem parse_of_tree {source : String} {tree : Node}
    (hparse : Syntax.parse (fileContent source.toList) = .ok tree) (file : String) (marker : Option String) :
    parse source file marker = .ok (collect (fileContent source.toList) file marker tree) := by
  rw [parse]
  simp only [hparse]

theorem parse_of_fault {source : String} {fault : Fault}
    (hparse : Syntax.parse (fileContent source.toList) = .error fault) (file : String)
    (marker : Option String) :
    parse source file marker = .error (.ofFault file (fileContent source.toList) fault) := by
  rw [parse]
  simp only [hparse]

/-- A text of which something is shown has a syntax tree and records, and it is shown of the records. -/
theorem exists_tree_of_shown {β : Type} {source file : String} {marker : Option String}
    {f : List Record × Logged → β} {b : β} (h : (parse source file marker).toOption.map f = some b) :
    ∃ tree found, Syntax.parse (fileContent source.toList) = .ok tree ∧
      parse source file marker = .ok found ∧ f found = b := by
  cases hparse : Syntax.parse (fileContent source.toList) with
  | error fault =>
      rw [parse_of_fault hparse] at h
      cases h
  | ok tree =>
      rw [parse_of_tree hparse] at h
      exact ⟨tree, _, rfl, parse_of_tree hparse file marker, Option.some.inj h⟩

/-- The records of a tree without a marker, place by place. -/
theorem collect_none (file : String) (tree : Node) :
    (collect text file none tree).1 = tree.placed.map fun at_ => ofStruct text file at_.2 :=
  calc (collect text file none tree).1
      = (select none tree.structs).1.map (ofStruct text file) := rfl
    _ = (tree.placed.map Prod.snd).map (ofStruct text file) := by rw [select_none, Node.placed_items]
    _ = tree.placed.map fun at_ => ofStruct text file at_.2 := List.map_map

/-- A text that parses has one record for each place at which a struct item stands, in the order of the
places, so that an item comes before those nested in it, and no other records. -/
theorem struct_items_have_records {source : String} {tree : Node}
    (hparse : Syntax.parse (fileContent source.toList) = .ok tree) (file : String) :
    ∃ (found : List (Place × StructItem)) (records : List Record) (log : Logged),
      parse source file none = .ok (records, log) ∧
      (∀ p item, (p, item) ∈ found ↔ tree.StandsAt item p) ∧
      (found.map Prod.fst).Pairwise Place.Before ∧
      found.Pairwise (fun earlier later => ¬later.1 <+: earlier.1) ∧
      List.Forall₂ (fun at_ r => r.Shows file at_.2) found records := by
  have hsorted := tree.placed_sorted
  have hshows : List.Forall₂ (fun at_ r => Shows file at_.2 r) tree.placed
      (collect (fileContent source.toList) file none tree).1 := by
    rw [collect_none, List.forall₂_map_right_iff]
    exact List.forall₂_same.mpr fun at_ _ => ofStruct_shows (fileContent source.toList) file at_.2
  refine ⟨tree.placed, _, _, parse_of_tree hparse file none, fun p item => Node.mem_placed, hsorted, ?_,
    hshows⟩
  rw [List.pairwise_map] at hsorted
  exact hsorted.imp Place.not_prefix_of_before

/-- A text with struct items in a type, a module and the body of a function, and one that stays unread. -/
def nestingSource : String :=
  "struct A([u8; { struct B; 0 }]);
mod m { fn f() { struct C(#[a::r#T] u8, u8); } }
m! { struct D; }"

theorem nested_struct_items_have_records :
    ∃ tree found records log, Syntax.parse (fileContent nestingSource.toList) = .ok tree ∧
      parse nestingSource "model.rs" none = .ok (records, log) ∧
      (∀ p item, (p, item) ∈ found ↔ tree.StandsAt item p) ∧
      List.Forall₂ (fun at_ r => Shows "model.rs" at_.2 r) found records ∧
      records.map (fun r => (r.name, r.components.map fun c => (c.name, c.tags))) =
        [("A", [("0", [])]), ("B", []), ("C", [("0", ["T"]), ("1", [])])] := by
  have hshown : (parse nestingSource "model.rs" none).toOption.map
      (fun found => found.1.map fun r => (r.name, r.components.map fun c => (c.name, c.tags))) =
        some [("A", [("0", [])]), ("B", []), ("C", [("0", ["T"]), ("1", [])])] := by
    decide +kernel
  obtain ⟨tree, found, hparse, hfound, hnames⟩ := exists_tree_of_shown hshown
  obtain ⟨placed, records, log, hrecords, hplaces, -, -, hshows⟩ := struct_items_have_records hparse "model.rs"
  obtain rfl := Except.ok.inj (hfound.symm.trans hrecords)
  exact ⟨tree, placed, records, log, hparse, hrecords, hplaces, hshows, hnames⟩

end Record

end Nullability
