import Nullability.Proofs.MovedRecords

/-!
The lines of components. A field is written with its attributes in front and its visibility, name and type
behind them. The line of a component is that of the field's name, which stands behind the attributes; a field
without a name is placed by its first token, which belongs to its attributes if it has some.
-/

namespace Nullability

open Syntax TokenTree

/-- Places nearer to the end of a text are not on earlier lines. -/
theorem Mark.line_le {m n : Mark} (text : List Char) (h : m ≤ n) : Mark.line text n ≤ Mark.line text m := by
  have hfront : textBefore text n <+: textBefore text m := List.take_prefix_take_left (Nat.sub_le_sub_left h _)
  exact Nat.add_le_add_left (hfront.sublist.count_le '\n') 1

/-- No token begins on an earlier line than the first of those that stand behind each other. -/
theorem TokenTree.line_head_le {text : List Char} {tokens : List TokenTree}
    (hall : Descend text.length (marksAll tokens)) {ts : List TokenTree} (hts : Reaches tokens ts)
    {first t : TokenTree} (hfirst : first ∈ ts.head?) (ht : t ∈ ts) : first.start.line text ≤ t.start.line text := by
  cases ts with
  | nil => cases ht
  | cons u ts =>
      cases hfirst
      exact Mark.line_le text ((hts.descend hall).start_le ht)

/-- What the line of a field can be if its attributes are written as `front` and `rest` begins with the rest of
it. -/
structure Syntax.Field.ShownOn (text : List Char) (f : Field) (front rest : List TokenTree) (line : Nat) :
    Prop where
  behind : f.name ≠ none ∨ f.attributes = [] → ∀ first ∈ rest.head?, first.start.line text ≤ line
  unnamed : f.name = none → ∀ first ∈ (front ++ rest).head?, line = first.start.line text

/-- A component is shown on a line of its field as the field is written. -/
def Component.LinesUp (text : List Char) (tokens : List TokenTree) (f : Field) (c : Component) : Prop :=
  ∃ front rest line, Reaches tokens (front ++ rest) ∧ f.WrittenAs front rest ∧ c.line = some line ∧
    f.ShownOn text front rest line

/-- A component is not on an earlier line than the rest of its field, if all tokens of the field's attributes
are. -/
def Component.Behind (text : List Char) (tokens : List TokenTree) (f : Field) (c : Component) : Prop :=
  ∀ front first rest, Reaches tokens (front ++ first :: rest) → f.WrittenAs front (first :: rest) →
    (∀ m ∈ marksAll front, m.line text < first.start.line text) →
    ∃ line, c.line = some line ∧ first.start.line text ≤ line

namespace Record

theorem componentOfField_linesUp {text : List Char} {tokens : List TokenTree}
    (hall : Descend text.length (marksAll tokens)) {f : Field} (hf : f.StandsIn tokens) (index : Nat) :
    (componentOfField text index f).LinesUp text tokens f := by
  obtain ⟨front, rest, hreaches, hwritten⟩ := hf
  cases hname : f.name with
  | none =>
      refine ⟨front, rest, f.start.line text, hreaches, hwritten, by rw [componentOfField, hname], ?_, ?_⟩
      · intro hplain first hfirst
        have hattributes : f.attributes = [] := hplain.resolve_left (absurd hname)
        have hfront : front = [] := by
          have htokens := hwritten.attributes
          rw [hattributes] at htokens
          exact htokens.eq_nil
        rw [hwritten.start first (by rwa [hfront])]
      · intro _ first hfirst
        rw [hwritten.start first hfirst]
  | some named =>
      have hmem : TokenTree.ident named.1 named.2 ∈ rest := hwritten.name named.1 named.2 hname
      refine ⟨front, rest, named.2.line text, hreaches, hwritten, by rw [componentOfField, hname], ?_, ?_⟩
      · intro _ first hfirst
        exact line_head_le hall hreaches.drop hfirst hmem
      · intro hnone
        rw [hname] at hnone
        cases hnone

/-- In a text that parses, the component of a field with a name or without attributes is not on an earlier line
than the field behind its attributes. The component of a field without a name is on the line of the field's first
token, which belongs to its attributes if there are any. -/
theorem component_lines_behind_attributes {source : String} {tree : Node}
    (hparse : Syntax.parse (fileContent source.toList) = .ok tree) (file : String) (marker : Option String) :
    ∃ tokens records log, ofText (fileContent source.toList) = .ok tokens ∧
      parse source file marker = .ok (records, log) ∧
      List.Forall₂ (fun item r =>
          List.Forall₂ (Component.LinesUp (fileContent source.toList) tokens) item.fields r.components)
        (select marker tree.structs).1 records := by
  obtain ⟨tokens, htokens, hall, htree⟩ := located_of_parse hparse
  refine ⟨tokens, _, _, htokens, parse_of_tree hparse file marker, ?_⟩
  refine List.forall₂_map_right_iff.mpr (List.forall₂_same.mpr fun item hitem => ?_)
  obtain ⟨p, hstands⟩ := Node.exists_standsAt ((select_sublist marker _).subset hitem)
  have hfields := (hstands.standsIn htree).fields
  refine List.forall₂_iff_get.mpr ⟨List.length_mapIdx.symm, fun i hi _ => ?_⟩
  simp only [ofStruct, List.get_eq_getElem, List.getElem_mapIdx]
  exact componentOfField_linesUp hall (hfields _ (List.getElem_mem hi)) i

/-- A named field behind its attribute, and two fields without names, one of them behind an attribute. -/
def annotatedSource : String :=
  "struct Person {
    #[Nullable]
    email: String,
}
struct Pair(
    u8,
    #[Nullable]
    u8,
);
"

theorem annotated_components_have_lines :
    ∃ tree tokens records log, Syntax.parse (fileContent annotatedSource.toList) = .ok tree ∧
      ofText (fileContent annotatedSource.toList) = .ok tokens ∧
      parse annotatedSource "model.rs" none = .ok (records, log) ∧
      List.Forall₂ (fun item r =>
          List.Forall₂ (Component.LinesUp (fileContent annotatedSource.toList) tokens) item.fields r.components)
        tree.structs records ∧
      records.map (fun r => r.components.map Component.line) = [[some 3], [some 6, some 7]] := by
  have hshown : (parse annotatedSource "model.rs" none).toOption.map
      (fun found => found.1.map fun r => r.components.map Component.line) =
        some [[some 3], [some 6, some 7]] := by
    decide +kernel
  obtain ⟨tree, found, hparse, hfound, hlines⟩ := exists_tree_of_shown hshown
  obtain ⟨tokens, records, log, htokens, hrecords, hall⟩ :=
    component_lines_behind_attributes hparse "model.rs" none
  obtain rfl := Except.ok.inj (hfound.symm.trans hrecords)
  rw [select_none] at hall
  exact ⟨tree, tokens, records, log, hparse, htokens, hrecords, hall, hlines⟩

/-- A field without a name whose attribute ends on the line before. -/
def tupleSource : String := "struct A(
#[Nullable]
u8);"

theorem tuple_field_line_may_be_its_attributes :
    ¬∀ (source file : String) (tree : Node) (tokens : List TokenTree) (records : List Record) (log : Logged),
      Syntax.parse (fileContent source.toList) = .ok tree → ofText (fileContent source.toList) = .ok tokens →
      parse source file none = .ok (records, log) →
      List.Forall₂ (fun item r =>
          List.Forall₂ (Component.Behind (fileContent source.toList) tokens) item.fields r.components)
        tree.structs records := by
  intro hbehind
  have hshown : (Syntax.parse (fileContent tupleSource.toList)).toOption.map (fun tree =>
      tree.structs.map fun item => item.fields.map fun f => (f.name, f.start, f.attributes.length)) =
        some [[(none, 16, 1)]] := by
    decide +kernel
  have htokens : ofText (fileContent tupleSource.toList) = .ok [.ident "struct" 26, .ident "A" 19,
      .group .parenthesis [.punct '#' false 16, .group .bracket [.ident "Nullable" 14] 15 6, .ident "u8" 4]
        18 2, .punct ';' false 1] := by
    rfl
  cases hparse : Syntax.parse (fileContent tupleSource.toList) with
  | error fault =>
      rw [hparse] at hshown
      cases hshown
  | ok tree =>
      rw [hparse] at hshown
      obtain ⟨item, hitems, hfields⟩ := List.map_eq_singleton_iff.mp (Option.some.inj hshown)
      obtain ⟨f, hfield, hf⟩ := List.map_eq_singleton_iff.mp hfields
      obtain ⟨hname, hstart, hcount⟩ : f.name = none ∧ f.start = 16 ∧ f.attributes.length = 1 := by
        simpa using hf
      have hall := hbehind tupleSource "model.rs" tree _ _ _ hparse htokens
        (parse_of_tree hparse "model.rs" none)
      have hwritten : f.WrittenAs [.punct '#' false 16, .group .bracket [.ident "Nullable" 14] 15 6]
          [.ident "u8" 4] :=
        ⟨hcount ▸ .cons .nil, List.cons_ne_nil _ _, by rintro _ ⟨⟩; exact hstart, by simp [hname]⟩
      -- the one component of the one record is shown on line 2, its type stands on line 3
      simp only [select_none, hitems, List.map_singleton, List.forall₂_cons, ofStruct, hfield,
        List.mapIdx_cons] at hall
      obtain ⟨line, hline, hle⟩ := hall.1.1 _ _ _ (.content (.tail (.tail .all))) hwritten (by decide +kernel)
      simp only [componentOfField, hname, hstart, Option.some.injEq] at hline
      subst hline
      exact absurd hle (by decide +kernel)

end Record

end Nullability
