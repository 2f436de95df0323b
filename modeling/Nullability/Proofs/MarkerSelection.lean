import Mathlib.Control.Monad.Basic
import Nullability.Record.Extraction
import Nullability.Settings.Marker

/-!
Which struct items a marker selects. A marker is compared with the last segments of attribute paths and of
the entries of derive lists as they are spelled. A marker that is valid but spelled in another way than the
mark on a struct, with a raw mark or with blanks, does not find it.
-/

namespace Nullability

namespace Syntax

/-- An attribute carries a marker in its own spelling: as the last segment of its path or, in a derive
list, as the last segment of an entry. -/
def Attribute.Spells (marker : String) (a : Attribute) : Prop :=
  if a.isDerive then ∃ entry ∈ a.derives.1, entry.getLast? = some marker else a.path.getLast? = some marker

instance (marker : String) : DecidablePred (Attribute.Spells marker) :=
  fun a => inferInstanceAs (Decidable (if a.isDerive then _ else _))

/-- An attribute is a mark with a name: it consists of the name alone, or it is a derive list of paths,
one of which ends in the name. The condition says which spellings of the name count. -/
def Attribute.Marks (isName : String → Prop) (a : Attribute) : Prop :=
  (∃ name, a.absolute = false ∧ a.path = [name] ∧ isName name) ∨
    (a.isDerive = true ∧ a.derives.2 = none ∧
      ∃ entry ∈ a.derives.1, ∃ name, entry.getLast? = some name ∧ isName name)

/-- A struct item has an attribute that spells a marker. -/
def StructItem.Spells (marker : String) (item : StructItem) : Prop := ∃ a ∈ item.attributes, a.Spells marker

instance (marker : String) : DecidablePred (StructItem.Spells marker) :=
  fun item => inferInstanceAs (Decidable (∃ a ∈ item.attributes, a.Spells marker))

theorem Attribute.isDerive_iff {a : Attribute} :
    a.isDerive = true ↔ a.absolute = false ∧ a.path = ["derive"] := by
  rw [isDerive, Bool.and_eq_true, Bool.not_eq_true', beq_iff_eq]

/-- A mark in the spelling of the marker carries the marker, unless it is the word for derive lists
itself. -/
theorem Attribute.spells_of_marks {marker : String} {a : Attribute} (hm : marker ≠ "derive")
    (h : a.Marks (· = marker)) : a.Spells marker := by
  rw [Spells]
  rcases h with ⟨name, -, hpath, rfl⟩ | ⟨hderive, -, entry, hentry, name, hlast, rfl⟩
  · have hplain : ¬a.isDerive = true := by
      rw [isDerive_iff, hpath]
      rintro ⟨-, h⟩
      exact hm (List.singleton_inj.mp h)
    rw [if_neg hplain, hpath]
    rfl
  · rw [if_pos hderive]
    exact ⟨entry, hentry, hlast⟩

end Syntax

namespace Record

open Syntax

variable {marker : String}

theorem attributeCarries_iff {a : Attribute} : (attributeCarries marker a).1 = true ↔ a.Spells marker := by
  rw [attributeCarries, Attribute.Spells]
  split
  · simp only [List.any_eq_true, beq_iff_eq]
  · simp only [beq_iff_eq]

theorem carries_iff {attributes : List Attribute} :
    (carries marker attributes).1 = true ↔ ∃ a ∈ attributes, a.Spells marker := by
  induction attributes with
  | nil => simp [carries]
  | cons a rest ih =>
      rw [carries]
      simp only [List.mem_cons, exists_eq_or_imp]
      rw [← ih, ← attributeCarries_iff]
      split
      · next h => simp [h]
      · next h => simp [h]

theorem selects_iff {item : StructItem} : (selects (some marker) item).1 = true ↔ item.Spells marker :=
  carries_iff

/-- Selecting keeps the struct items that spell the marker, in order. -/
theorem select_items (items : List StructItem) :
    (select (some marker) items).1 = items.filter (·.Spells marker) := by
  induction items with
  | nil => rfl
  | cons item rest ih =>
      rw [select, List.filter_cons, ← ih]
      by_cases h : item.Spells marker
      · rw [if_pos (decide_eq_true h)]
        simp only [selects_iff.mpr h, if_true]
      · rw [if_neg (fun hd => h (of_decide_eq_true hd))]
        simp only [mt selects_iff.mp h]
        rfl

theorem collect_records (text : List Char) (file : String) (tree : Node) :
    (collect text file (some marker) tree).1 =
      (tree.structs.filter (·.Spells marker)).map (ofStruct text file) := by
  rw [← select_items]
  rfl

/-- A text that parses has the records of the struct items that spell the marker. So every struct with a
mark in the spelling of the marker is among them, if the marker is not the word for derive lists. -/
theorem marker_selects_its_spelling {source : String} {tree : Node}
    (hparse : Syntax.parse (fileContent source.toList) = .ok tree) (file : String) (m : String) :
    ∃ records log, parse source file (some m) = .ok (records, log) ∧
      records = (tree.structs.filter (·.Spells m)).map (ofStruct (fileContent source.toList) file) ∧
      (m ≠ "derive" → ∀ item ∈ tree.structs, (∃ a ∈ item.attributes, a.Marks (· = m)) →
        ofStruct (fileContent source.toList) file item ∈ records) := by
  have hcollect : parse source file (some m) =
      .ok ((tree.structs.filter (·.Spells m)).map (ofStruct (fileContent source.toList) file),
        (collect (fileContent source.toList) file (some m) tree).2) := by
    rw [parse, ← collect_records]
    simp only [hparse]
  refine ⟨_, _, hcollect, rfl, ?_⟩
  rintro hm item hitem ⟨a, ha, hmark⟩
  refine List.mem_map_of_mem (List.mem_filter.mpr ⟨hitem, decide_eq_true ?_⟩)
  exact ⟨a, ha, Attribute.spells_of_marks hm hmark⟩

/-- A text with one struct, which is marked by a plain identifier. -/
def markedSource : String := "#[Foo]\nstruct S { a: u8 }\n"

private theorem markedSource_parses :
    ∃ tree item a, Syntax.parse (fileContent markedSource.toList) = .ok tree ∧ item ∈ tree.structs ∧
      a ∈ item.attributes ∧ a.absolute = false ∧ a.path = ["Foo"] := by
  have hmarked : ((Syntax.parse (fileContent markedSource.toList)).toOption.any fun tree =>
      tree.structs.any fun item => item.attributes.any fun a => !a.absolute && a.path == ["Foo"]) = true := by
    decide +kernel
  cases hparse : Syntax.parse (fileContent markedSource.toList) with
  | error fault =>
      rw [hparse] at hmarked
      cases hmarked
  | ok tree =>
      rw [hparse, Except.toOption, Option.any_some] at hmarked
      simp only [List.any_eq_true, Bool.and_eq_true, Bool.not_eq_true', beq_iff_eq] at hmarked
      obtain ⟨item, hitem, a, ha, habsolute, hpath⟩ := hmarked
      exact ⟨tree, item, a, rfl, hitem, ha, habsolute, hpath⟩

theorem plain_marker_finds_plain_mark :
    ∃ tree item a, Syntax.parse (fileContent markedSource.toList) = .ok tree ∧ item ∈ tree.structs ∧
      a ∈ item.attributes ∧ a.Marks (· = "Foo") ∧
      ∃ records log, parse markedSource "model.rs" (some "Foo") = .ok (records, log) ∧
        ofStruct (fileContent markedSource.toList) "model.rs" item ∈ records := by
  obtain ⟨tree, item, a, hparse, hitem, ha, habsolute, hpath⟩ := markedSource_parses
  have hmark : a.Marks (· = "Foo") := Or.inl ⟨"Foo", habsolute, hpath, rfl⟩
  obtain ⟨records, log, hrecords, -, hselected⟩ := marker_selects_its_spelling hparse "model.rs" "Foo"
  exact ⟨tree, item, a, hparse, hitem, ha, hmark, records, log, hrecords,
    hselected (by decide) item hitem ⟨a, ha, hmark⟩⟩

/-- A marker that is valid may miss a struct marked with its identifier: a raw one does not find a plain
mark. -/
theorem raw_marker_misses_plain_mark :
    ¬∀ m i, Marker.identifier? m = some i → ∀ (source file : String) (tree : Node),
      Syntax.parse (fileContent source.toList) = .ok tree →
      ∃ records log, parse source file (some m) = .ok (records, log) ∧
        ∀ item ∈ tree.structs,
          (∃ a ∈ item.attributes,
            a.Marks fun name => Text.withoutRawMark name = Text.withoutRawMark i) →
          ofStruct (fileContent source.toList) file item ∈ records := by
  intro h
  obtain ⟨tree, item, a, hparse, hitem, ha, habsolute, hpath⟩ := markedSource_parses
  obtain ⟨records, log, hrecords, hselected⟩ :=
    h "r#Foo" "r#Foo" (by decide +kernel) markedSource "model.rs" tree hparse
  have hmark : a.Marks fun name => Text.withoutRawMark name = Text.withoutRawMark "r#Foo" :=
    Or.inl ⟨"Foo", habsolute, hpath, by decide +kernel⟩
  have hnone : (parse markedSource "model.rs" (some "r#Foo")).toOption.map Prod.fst = some [] := by
    decide +kernel
  rw [hrecords] at hnone
  have hnil : records = [] := Option.some.inj hnone
  exact List.not_mem_nil (hnil ▸ hselected item hitem ⟨a, ha, hmark⟩)

end Record

end Nullability
