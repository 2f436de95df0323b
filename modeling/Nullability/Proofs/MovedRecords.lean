import Nullability.Proofs.ItemPlaces
import Nullability.Proofs.StructRecords

/-!
Texts with lines put in front of them. Everything that is read from a text is placed by its distance from the
end of the text, so line breaks in front leave the syntax tree, or the fault, as it is, and what is shown of it
moves with the text. A fault at the end of a text outside all brackets has no place: it is shown at the first
character and stays there.
-/

namespace Nullability

open Syntax TokenTree

/-- A component `k` lines further down. -/
def Component.moved (k : Nat) (c : Component) : Component := { c with line := c.line.map (· + k) }

/-- A record `k` lines further down, with its components. -/
def Record.moved (k : Nat) (r : Record) : Record :=
  { r with line := r.line.map (· + k), components := r.components.map (Component.moved k) }

/-- Whether every line of a record is known. -/
structure Record.Lined (r : Record) : Prop where
  line : r.line.isSome
  components : ∀ c ∈ r.components, c.line.isSome

/-- A parse error shown `k` lines further down. -/
def ParseError.moved (k : Nat) (e : ParseError) : ParseError := { e with line := e.line + k }

/-- A text with `k` line breaks in front of it. -/
def Text.below (k : Nat) (source : String) : String := String.ofList (List.replicate k '\n') ++ source

/-! ### What is read -/

theorem Text.toList_below (k : Nat) (source : String) :
    (Text.below k source).toList = List.replicate k '\n' ++ source.toList := by
  rw [below, String.toList_append, String.toList_ofList]

/-- A text that begins neither with a byte order mark nor with an interpreter line is read from its start. -/
theorem Syntax.fileContent_of_plain {text : List Char} (hmark : ¬['\ufeff'] <+: text)
    (hline : ¬['#', '!'] <+: text) : fileContent text = text := by
  rw [fileContent.eq_def]
  split
  · exact absurd (List.prefix_append _ _) hmark
  · dsimp only
    split
    · exact absurd (List.prefix_append _ _) hline
    · rfl

/-- What is shown of a field moves with the text that the field is read from. -/
theorem Record.componentOfField_below {text : List Char} {tokens : List TokenTree}
    (hall : Descend text.length (marksAll tokens)) {f : Field} (hf : f.StandsIn tokens) (k index : Nat) :
    componentOfField (List.replicate k '\n' ++ text) index f = (componentOfField text index f).moved k := by
  obtain ⟨front, rest, hreaches, hwritten⟩ := hf
  cases hname : f.name with
  | none =>
      have hle : f.start ≤ text.length := (hwritten.hasMark_start hreaches).le hall
      simp only [componentOfField, hname, Component.moved, Option.map_some, Mark.line_append _ hle,
        List.count_replicate_self, Nat.add_comm k]
  | some named =>
      have hle : named.2 ≤ text.length := (hwritten.hasMark_name hreaches hname).le hall
      simp only [componentOfField, hname, Component.moved, Option.map_some, Mark.line_append _ hle,
        List.count_replicate_self, Nat.add_comm k]

theorem Record.ofStruct_below {text : List Char} {tokens : List TokenTree}
    (hall : Descend text.length (marksAll tokens)) {item : StructItem} (hitem : item.StandsIn tokens)
    (k : Nat) (file : String) :
    ofStruct (List.replicate k '\n' ++ text) file item = (ofStruct text file item).moved k := by
  have hline := Mark.line_append (List.replicate k '\n') (hitem.start.le hall)
  have hfields : item.fields.mapIdx (componentOfField (List.replicate k '\n' ++ text)) =
      (item.fields.mapIdx (componentOfField text)).map (Component.moved k) := by
    refine List.ext_getElem (by simp) fun i _ hi => ?_
    rw [List.getElem_mapIdx, List.getElem_map, List.getElem_mapIdx]
    exact componentOfField_below hall (hitem.fields _ (List.getElem_mem _)) k i
  simp only [ofStruct, moved, hfields, hline, Option.map_some, List.count_replicate_self, Nat.add_comm k]

theorem Record.ofStruct_lined (text : List Char) (file : String) (item : StructItem) :
    (ofStruct text file item).Lined where
  line := rfl
  components c hc := by
    obtain ⟨i, hi, rfl⟩ := List.mem_mapIdx.mp hc
    rfl

/-- A fault that has a place in a text is shown as many lines further down as there are line breaks in front;
one that has none is shown at the first character. -/
theorem ParseError.ofFault_below {text : List Char} {fault : Fault}
    (hplace : ∀ m, fault.place = some m → m ≤ text.length) (k : Nat) (file : String) :
    (fault.place ≠ none →
      ofFault file (List.replicate k '\n' ++ text) fault = (ofFault file text fault).moved k) ∧
    (fault.place = none → ofFault file (List.replicate k '\n' ++ text) fault = ofFault file text fault ∧
      (ofFault file text fault).line = 1 ∧ (ofFault file text fault).column = 1) := by
  cases hm : fault.place with
  | none => simp [ofFault, hm]
  | some m =>
      have hle := hplace m hm
      simp [ofFault, hm, moved, Mark.position, Mark.line_append _ hle, Mark.column_append_newlines k hle,
        Nat.add_comm k]

section Moved

variable {source : String} (hmark : ¬['\ufeff'] <+: source.toList)
  (hline : ¬['#', '!'] <+: source.toList) (k : Nat)

include hmark hline

theorem fileContent_below :
    fileContent (Text.below k source).toList = List.replicate k '\n' ++ fileContent source.toList := by
  rw [fileContent_of_plain hmark hline, Text.toList_below]
  cases k with
  | zero => exact fileContent_of_plain hmark hline
  | succ k => rfl

theorem parse_below :
    Syntax.parse (fileContent (Text.below k source).toList) = Syntax.parse (fileContent source.toList) := by
  rw [fileContent_below hmark hline, fileContent_of_plain hmark hline, Syntax.parse, ofText_newlines hmark,
    Syntax.parse]

theorem Record.collect_below {tree : Node} (hparse : Syntax.parse (fileContent source.toList) = .ok tree)
    (file : String) (marker : Option String) :
    collect (fileContent (Text.below k source).toList) file marker tree =
      ((collect (fileContent source.toList) file marker tree).1.map (moved k),
        (collect (fileContent source.toList) file marker tree).2) := by
  obtain ⟨tokens, -, hall, htree⟩ := located_of_parse hparse
  have hrecords : (select marker tree.structs).1.map
        (ofStruct (fileContent (Text.below k source).toList) file) =
      ((select marker tree.structs).1.map (ofStruct (fileContent source.toList) file)).map (moved k) := by
    rw [List.map_map, fileContent_below hmark hline]
    refine List.map_congr_left fun item hitem => ?_
    obtain ⟨p, hstands⟩ := Node.exists_standsAt ((select_sublist marker _).subset hitem)
    exact ofStruct_below hall (hstands.standsIn htree) k file
  simp only [collect, hrecords, List.length_map]

end Moved

namespace Record

/-- The records of a text move with it: with `k` line breaks in front, the same records are read in the same
order, each of them and each of their components `k` lines further down, and all of them have lines. -/
theorem records_move_with_text {source : String} (hmark : ¬['\ufeff'] <+: source.toList)
    (hline : ¬['#', '!'] <+: source.toList) (k : Nat) (file : String) (marker : Option String)
    {records : List Record} {log : Logged} (h : parse source file marker = .ok (records, log)) :
    parse (Text.below k source) file marker = .ok (records.map (moved k), log) ∧
      ∀ r ∈ records, r.Lined := by
  cases hparse : Syntax.parse (fileContent source.toList) with
  | error fault =>
      rw [parse_of_fault hparse] at h
      cases h
  | ok tree =>
      rw [parse_of_tree hparse] at h
      cases h
      rw [parse_of_tree ((parse_below hmark hline k).trans hparse), collect_below hmark hline k hparse]
      refine ⟨rfl, fun r hr => ?_⟩
      obtain ⟨item, -, rfl⟩ := List.mem_map.mp hr
      exact ofStruct_lined _ file item

/-- A comment of two lines in front of a struct item with an attribute, and a tuple struct. -/
def commentedSource : String :=
  "/* two
lines */ struct S {
    #[Nullable]
    a: u8,
}
struct T(u8);
"

theorem commented_records_move :
    ∃ records log, parse commentedSource "model.rs" none = .ok (records, log) ∧
      parse (Text.below 2 commentedSource) "model.rs" none = .ok (records.map (moved 2), log) ∧
      records.map (fun r => (r.line, r.components.map Component.line)) =
        [(some 2, [some 4]), (some 6, [some 6])] := by
  have hshown : (parse commentedSource "model.rs" none).toOption.map
      (fun found => found.1.map fun r => (r.line, r.components.map Component.line)) =
        some [(some 2, [some 4]), (some 6, [some 6])] := by
    decide +kernel
  obtain ⟨-, ⟨records, log⟩, -, hfound, hlines⟩ := exists_tree_of_shown hshown
  have hmoved := records_move_with_text (by decide +kernel) (by decide +kernel) 2 "model.rs" none hfound
  exact ⟨records, log, hfound, hmoved.1, hlines⟩

/-- What is wrong with a text moves with it if it has a place: with `k` line breaks in front, the text is
refused for the same reason at the same column, `k` lines further down. Without a place, where the text ends
outside all brackets, it is refused at the first character, with and without the line breaks. -/
theorem placed_errors_move_with_text {source : String} (hmark : ¬['\ufeff'] <+: source.toList)
    (hline : ¬['#', '!'] <+: source.toList) (k : Nat) (file : String) (marker : Option String)
    {e : ParseError} (h : parse source file marker = .error e) :
    ∃ fault, Syntax.parse (fileContent source.toList) = .error fault ∧
      (fault.place ≠ none → parse (Text.below k source) file marker = .error (e.moved k)) ∧
      (fault.place = none → parse (Text.below k source) file marker = .error e ∧
        e.line = 1 ∧ e.column = 1) := by
  cases hparse : Syntax.parse (fileContent source.toList) with
  | error fault =>
      rw [parse_of_fault hparse] at h
      cases h
      have hbelow := (parse_below hmark hline k).trans hparse
      obtain ⟨hsome, hnone⟩ := ParseError.ofFault_below (fun m => place_le_of_parse hparse) k file
      rw [← fileContent_below hmark hline] at hsome hnone
      rw [parse_of_fault hbelow]
      refine ⟨fault, rfl, fun hplace => by rw [hsome hplace], fun hplace => ?_⟩
      obtain ⟨heq, hshown⟩ := hnone hplace
      exact ⟨by rw [heq], hshown⟩
  | ok tree =>
      rw [parse_of_tree hparse] at h
      cases h

/-- A struct item with a field that has no type: what is wrong stands at the closing bracket. -/
def untypedSource : String := "struct S {
    a }
"

theorem error_at_bracket_moves :
    let e : ParseError := ⟨"model.rs", 2, 7, "expected `:`"⟩
    parse untypedSource "model.rs" none = .error e ∧
      parse (Text.below 3 untypedSource) "model.rs" none = .error (e.moved 3) := by
  intro e
  have hfront : parse untypedSource "model.rs" none = .error e := by decide +kernel
  obtain ⟨fault, -, hplaced, hunplaced⟩ :=
    placed_errors_move_with_text (by decide +kernel) (by decide +kernel) 3 "model.rs" none hfront
  refine ⟨hfront, hplaced fun hnone => ?_⟩
  exact absurd (hunplaced hnone).2.1 (by decide)

/-- A text that ends within a struct item, outside all brackets. -/
def unfinishedSource : String := "struct S"

/-- The place of the fault is the first character in both texts, although both end on their last line. -/
theorem error_at_end_may_not_move :
    ¬∀ (source : String) (k : Nat) (file : String) (marker : Option String) (e : ParseError),
      ¬['\ufeff'] <+: source.toList → ¬['#', '!'] <+: source.toList → parse source file marker = .error e →
        parse (Text.below k source) file marker = .error (e.moved k) := by
  intro hmoves
  let e : ParseError := ⟨"model.rs", 1, 1,
    "unexpected end of input, expected one of: `where`, parentheses, curly braces, `;`"⟩
  have hfront : parse unfinishedSource "model.rs" none = .error e := by decide +kernel
  have hbelow : parse (Text.below 1 unfinishedSource) "model.rs" none = .error e := by decide +kernel
  have hmoved := hmoves unfinishedSource 1 "model.rs" none e (by decide +kernel) (by decide +kernel) hfront
  rw [hbelow] at hmoved
  exact absurd hmoved (by decide)

end Record

end Nullability
