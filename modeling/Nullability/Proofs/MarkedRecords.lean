import Nullability.Proofs.DeriveLists
import Nullability.Proofs.MarkerSelection
import Nullability.Proofs.StructRecords

/-!
The records that a marker leaves. A marker takes records away and changes nothing else: a text is refused
with it if and only if it is refused without it, and a struct item that carries the marker has its record
wherever it stands, whatever the items around it carry.
-/

namespace Nullability

open Syntax

namespace Record

variable {m : String}

/-- A struct item whose derive lists are well formed carries a marker if and only if it is the last name of
another attribute or of a derived path. -/
theorem carries_iff_of_listsPaths {attributes : List Attribute}
    (h : ∀ a ∈ attributes, a.isDerive = true → ∃ paths, a.ListsPaths paths) :
    (carries m attributes).1 = true ↔
      (∃ a ∈ attributes, a.isDerive = false ∧ a.path.getLast? = some m) ∨
      ∃ a ∈ attributes, a.isDerive = true ∧ ∃ paths, a.ListsPaths paths ∧
        ∃ path ∈ paths, path.getLast? = some m := by
  rw [carries_iff]
  constructor
  · rintro ⟨a, ha, hspells⟩
    rw [Attribute.Spells] at hspells
    by_cases hderive : a.isDerive = true
    · obtain ⟨paths, hpaths⟩ := h a ha hderive
      rw [if_pos hderive, Attribute.derives_of_listsPaths hpaths] at hspells
      exact Or.inr ⟨a, ha, hderive, paths, hpaths, hspells⟩
    · rw [if_neg hderive] at hspells
      exact Or.inl ⟨a, ha, Bool.eq_false_iff.mpr hderive, hspells⟩
  · rintro (⟨a, ha, hderive, hlast⟩ | ⟨a, ha, hderive, paths, hpaths, hpath⟩)
    · refine ⟨a, ha, ?_⟩
      rw [Attribute.Spells, if_neg (Bool.eq_false_iff.mp hderive)]
      exact hlast
    · refine ⟨a, ha, ?_⟩
      rw [Attribute.Spells, if_pos hderive, Attribute.derives_of_listsPaths hpaths]
      exact hpath

theorem select_marked (items : List StructItem) :
    (select (some m) items).1 = items.filter fun item => (carries m item.attributes).1 := by
  induction items with
  | nil => rfl
  | cons item rest ih =>
      rw [select, List.filter_cons, ← ih]
      rfl

/-- The records of a tree with a marker, place by place. -/
theorem collect_marked (text : List Char) (file : String) (tree : Node) :
    (collect text file (some m) tree).1 =
      (tree.placed.filter fun at_ => (carries m at_.2.attributes).1).map
        fun at_ => ofStruct text file at_.2 := by
  have hitems : (select (some m) tree.structs).1 =
      (tree.placed.filter fun at_ => (carries m at_.2.attributes).1).map Prod.snd := by
    rw [select_marked, ← Node.placed_items, List.filter_map]
    rfl
  calc (collect text file (some m) tree).1
      = (select (some m) tree.structs).1.map (ofStruct text file) := rfl
    _ = _ := by rw [hitems, List.map_map]; rfl

/-- With a marker a text is refused exactly as without one. Otherwise its records are those of the struct
items that carry the marker, unchanged and in the order in which they stand; an item may stand inside one
that does not carry it. An item with well-formed derive lists carries the marker if and only if the marker
is the last name of another attribute or of a derived path. -/
theorem marker_filters_records (source file m : String) :
    (∀ e, parse source file (some m) = .error e ↔ parse source file none = .error e) ∧
    (∀ tree, Syntax.parse (fileContent source.toList) = .ok tree →
      ∃ (found : List (Place × StructItem)) (all marked : List Record) (allLog markedLog : Logged),
        parse source file none = .ok (all, allLog) ∧
        parse source file (some m) = .ok (marked, markedLog) ∧
        (∀ p item, (p, item) ∈ found ↔ tree.StandsAt item p) ∧
        (found.map Prod.fst).Pairwise Place.Before ∧
        all = found.map (fun at_ => ofStruct (fileContent source.toList) file at_.2) ∧
        marked = (found.filter fun at_ => (carries m at_.2.attributes).1).map
          (fun at_ => ofStruct (fileContent source.toList) file at_.2) ∧
        ∀ p q outer inner, tree.StandsAt outer p → tree.StandsAt inner (p ++ q) → q ≠ [] →
          (carries m outer.attributes).1 = false → (carries m inner.attributes).1 = true →
          ofStruct (fileContent source.toList) file inner ∈ marked) ∧
    ∀ item : StructItem, (∀ a ∈ item.attributes, a.isDerive = true → ∃ paths, a.ListsPaths paths) →
      ((carries m item.attributes).1 = true ↔
        (∃ a ∈ item.attributes, a.isDerive = false ∧ a.path.getLast? = some m) ∨
        ∃ a ∈ item.attributes, a.isDerive = true ∧ ∃ paths, a.ListsPaths paths ∧
          ∃ path ∈ paths, path.getLast? = some m) := by
  refine ⟨?_, ?_, fun item h => carries_iff_of_listsPaths h⟩
  · intro e
    cases hparse : Syntax.parse (fileContent source.toList) with
    | error fault => rw [parse_of_fault hparse, parse_of_fault hparse]
    | ok tree =>
        rw [parse_of_tree hparse, parse_of_tree hparse]
        constructor <;> rintro ⟨⟩
  · intro tree hparse
    have hmarked := collect_marked (m := m) (fileContent source.toList) file tree
    have hnested : ∀ p q outer inner, tree.StandsAt outer p → tree.StandsAt inner (p ++ q) → q ≠ [] →
        (carries m outer.attributes).1 = false → (carries m inner.attributes).1 = true →
        ofStruct (fileContent source.toList) file inner ∈
          (collect (fileContent source.toList) file (some m) tree).1 := by
      intro p q outer inner _ hinner _ _ hcarries
      rw [hmarked]
      refine List.mem_map.mpr ⟨(p ++ q, inner), List.mem_filter.mpr ⟨?_, hcarries⟩, rfl⟩
      exact Node.mem_placed.mpr hinner
    exact ⟨tree.placed, _, _, _, _, parse_of_tree hparse file none, parse_of_tree hparse file (some m),
      fun p item => Node.mem_placed, tree.placed_sorted, collect_none _ file tree, hmarked, hnested⟩

/-- A text with a struct item that derives a name in a longer list, inside one that does not. -/
def derivingSource : String := "struct A([u8; { #[derive(X, p::M,)] struct B; 0 }]);"

theorem nested_deriving_item_is_selected :
    ∃ tree all marked allLog markedLog,
      Syntax.parse (fileContent derivingSource.toList) = .ok tree ∧
      parse derivingSource "model.rs" none = .ok (all, allLog) ∧
      parse derivingSource "model.rs" (some "M") = .ok (marked, markedLog) ∧
      all.map Record.name = ["A", "B"] ∧ marked.map Record.name = ["B"] := by
  have hall : (parse derivingSource "model.rs" none).toOption.map (fun found => found.1.map Record.name) =
      some ["A", "B"] := by
    decide +kernel
  have hmarked : (parse derivingSource "model.rs" (some "M")).toOption.map
      (fun found => found.1.map Record.name) = some ["B"] := by
    decide +kernel
  obtain ⟨tree, _, hparse, hfound, hnames⟩ := exists_tree_of_shown hall
  obtain ⟨_, _, -, hfoundMarked, hnamesMarked⟩ := exists_tree_of_shown hmarked
  obtain ⟨-, all, marked, allLog, markedLog, hparseAll, hparseMarked, -⟩ :=
    (marker_filters_records derivingSource "model.rs" "M").2.1 tree hparse
  obtain rfl := Except.ok.inj (hfound.symm.trans hparseAll)
  obtain rfl := Except.ok.inj (hfoundMarked.symm.trans hparseMarked)
  exact ⟨tree, all, marked, allLog, markedLog, hparse, hparseAll, hparseMarked, hnames, hnamesMarked⟩

end Record

end Nullability
