import Mathlib.Data.List.Lex
import Nullability.Syntax.Node

/-!
Where the struct items of a syntax tree stand. A place is the list of the numbers of the parts that lead
from the root of the tree to a construct, so a place that goes on is nested in the place at which it goes
on. The visit of a tree meets each place at which a struct item stands once, and in the lexicographic order
of places, in which an item stands before those nested in it and behind those of earlier parts.
-/

namespace Nullability.Syntax

/-- The numbers of the parts that lead from the root of a tree to a construct. -/
abbrev Place := List Nat

/-- The order of places in a text: part by part, and what encloses before what is enclosed. -/
def Place.Before (p q : Place) : Prop := List.Lex (· < ·) p q

/-- What stands before a place is not nested in it. -/
theorem Place.not_prefix_of_before {p q : Place} (h : p.Before q) : ¬q <+: p := by
  induction h with
  | nil =>
      intro hprefix
      cases List.prefix_nil.mp hprefix
  | cons _ ih =>
      intro hprefix
      exact ih (List.cons_prefix_cons.mp hprefix).2
  | rel hlt =>
      intro hprefix
      exact Nat.ne_of_gt hlt (List.cons_prefix_cons.mp hprefix).1

namespace Node

/-- A struct item stands at a place of a tree. -/
inductive StandsAt (item : StructItem) : Node → Place → Prop
  | root (parts : List Node) : StandsAt item (node (.struct item) parts) []
  | part {form : Form} {parts : List Node} {i : Nat} {n : Node} {p : Place} (hpart : parts[i]? = some n)
      (hbelow : StandsAt item n p) : StandsAt item (node form parts) (i :: p)

/-- What holds of a construct whenever it holds of its parts holds of every construct. -/
theorem induction {motive : Node → Prop}
    (step : ∀ form parts, (∀ n ∈ parts, motive n) → motive (node form parts)) (n : Node) : motive n := by
  refine @Node.rec motive (fun ns => ∀ n ∈ ns, motive n) step ?_ ?_ n
  · intro n hn
    cases hn
  · intro head tail hhead htail n hn
    rcases List.mem_cons.mp hn with rfl | hn
    · exact hhead
    · exact htail n hn

mutual

/-- The struct items of a tree in visiting order, each with its place. -/
def placed : Node → List (Place × StructItem)
  | node (.struct item) parts => ([], item) :: placedFrom 0 parts
  | node _ parts => placedFrom 0 parts

/-- The struct items of parts, of which the first has the given number. -/
def placedFrom : Nat → List Node → List (Place × StructItem)
  | _, [] => []
  | i, n :: rest => (placed n).map (fun found => (i :: found.1, found.2)) ++ placedFrom (i + 1) rest

end

/-! ### The items -/

private theorem placedFrom_items {ns : List Node} (h : ∀ n ∈ ns, (placed n).map Prod.snd = structs n)
    (i : Nat) : (placedFrom i ns).map Prod.snd = structsAll ns := by
  induction ns generalizing i with
  | nil => rfl
  | cons n rest ih =>
      rw [placedFrom, structsAll, List.map_append, List.map_map,
        ih (fun m hm => h m (List.mem_cons_of_mem n hm))]
      exact congrArg (· ++ structsAll rest) (h n List.mem_cons_self)

theorem placed_items (n : Node) : (placed n).map Prod.snd = structs n := by
  induction n using Node.induction with
  | step form parts ih =>
      have hparts := placedFrom_items ih 0
      cases form with
      | struct item => exact congrArg (item :: ·) hparts
      | _ => exact hparts

/-! ### The places -/

private theorem mem_placedFrom {ns : List Node} {i : Nat} {q : Place} {item : StructItem} :
    (q, item) ∈ placedFrom i ns ↔
      ∃ j n p, ns[j]? = some n ∧ q = (i + j) :: p ∧ (p, item) ∈ placed n := by
  induction ns generalizing i with
  | nil => simp [placedFrom]
  | cons n rest ih =>
      rw [placedFrom, List.mem_append, List.mem_map, ih]
      constructor
      · rintro (⟨⟨p, item⟩, hfound, heq⟩ | ⟨j, m, p, hm, rfl, hfound⟩)
        · cases heq
          exact ⟨0, n, p, rfl, rfl, hfound⟩
        · refine ⟨j + 1, m, p, hm, ?_, hfound⟩
          congr 1
          omega
      · rintro ⟨j, m, p, hm, rfl, hfound⟩
        cases j with
        | zero =>
            cases hm
            exact Or.inl ⟨(p, item), hfound, rfl⟩
        | succ j =>
            refine Or.inr ⟨j, m, p, hm, ?_, hfound⟩
            congr 1
            omega

/-- The visit meets the struct items of a tree, each at its place, and nothing else. -/
theorem mem_placed {n : Node} {p : Place} {item : StructItem} :
    (p, item) ∈ placed n ↔ n.StandsAt item p := by
  induction n using Node.induction generalizing p with
  | step form parts ih =>
      have hparts : (p, item) ∈ placedFrom 0 parts ↔
          ∃ i n q, parts[i]? = some n ∧ p = i :: q ∧ n.StandsAt item q := by
        rw [mem_placedFrom]
        constructor
        · rintro ⟨i, n, q, hn, rfl, hfound⟩
          rw [Nat.zero_add]
          exact ⟨i, n, q, hn, rfl, (ih n (List.mem_of_getElem? hn)).mp hfound⟩
        · rintro ⟨i, n, q, hn, rfl, hstands⟩
          refine ⟨i, n, q, hn, ?_, (ih n (List.mem_of_getElem? hn)).mpr hstands⟩
          rw [Nat.zero_add]
      have hbelow : (∃ i n q, parts[i]? = some n ∧ p = i :: q ∧ n.StandsAt item q) →
          (node form parts).StandsAt item p := by
        rintro ⟨i, n, q, hn, rfl, hstands⟩
        exact .part hn hstands
      cases form with
      | struct own =>
          rw [placed, List.mem_cons, hparts]
          constructor
          · rintro (heq | h)
            · cases heq
              exact .root parts
            · exact hbelow h
          · intro h
            cases h with
            | root => exact Or.inl rfl
            | part hn hstands => exact Or.inr ⟨_, _, _, hn, rfl, hstands⟩
      | _ =>
          rw [placed, hparts]
          · constructor
            · exact hbelow
            · intro h
              cases h with
              | part hn hstands => exact ⟨_, _, _, hn, rfl, hstands⟩
          · intro item hitem
            cases hitem

theorem exists_standsAt {n : Node} {item : StructItem} (h : item ∈ n.structs) :
    ∃ p, n.StandsAt item p := by
  rw [← placed_items] at h
  obtain ⟨⟨p, item⟩, hfound, rfl⟩ := List.mem_map.mp h
  exact ⟨p, mem_placed.mp hfound⟩

/-! ### Their order -/

private theorem placedFrom_sorted {ns : List Node}
    (h : ∀ n ∈ ns, ((placed n).map Prod.fst).Pairwise Place.Before) (i : Nat) :
    ((placedFrom i ns).map Prod.fst).Pairwise Place.Before := by
  induction ns generalizing i with
  | nil => exact List.Pairwise.nil
  | cons n rest ih =>
      rw [placedFrom, List.map_append, List.map_map, List.pairwise_append]
      refine ⟨?_, ih (fun m hm => h m (List.mem_cons_of_mem n hm)) (i + 1), ?_⟩
      · have hn := h n List.mem_cons_self
        rw [List.pairwise_map] at hn ⊢
        exact hn.imp fun hbefore => List.Lex.cons hbefore
      · intro p hp q hq
        obtain ⟨⟨p', item⟩, -, rfl⟩ := List.mem_map.mp hp
        obtain ⟨⟨q', item'⟩, hfound, rfl⟩ := List.mem_map.mp hq
        obtain ⟨j, m, r, -, rfl, -⟩ := mem_placedFrom.mp hfound
        exact List.Lex.rel (by omega)

/-- The visit goes through the places of struct items in their order, and so meets each once. -/
theorem placed_sorted (n : Node) : ((placed n).map Prod.fst).Pairwise Place.Before := by
  induction n using Node.induction with
  | step form parts ih =>
      have hparts := placedFrom_sorted ih 0
      cases form with
      | struct item =>
          rw [placed, List.map_cons, List.pairwise_cons]
          refine ⟨?_, hparts⟩
          intro q hq
          obtain ⟨⟨q, item'⟩, hfound, rfl⟩ := List.mem_map.mp hq
          obtain ⟨j, m, r, -, rfl, -⟩ := mem_placedFrom.mp hfound
          exact List.Lex.nil
      | _ => exact hparts

end Node

end Nullability.Syntax
