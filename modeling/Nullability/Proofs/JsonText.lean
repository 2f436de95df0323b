import Nullability.Proofs.JsonEnclosed

/-!
The text of a value. Reading the text of a value gives the value again, in both styles, if its numbers are
whole and fit sixty-four bits: no other number has a text that stands for it alone.
-/

namespace Nullability.Json

open Reader

namespace Value

/-- A value that can be read back: its numbers are whole and fit sixty-four bits. -/
inductive Exact : Value → Prop
  | null : Exact .null
  | bool (b : Bool) : Exact (.bool b)
  | natural {n : Nat} (h : n < Nat.pow 2 64) : Exact (.number (.natural n))
  | negative {n : Nat} (hpos : 0 < n) (h : n ≤ Nat.pow 2 63) : Exact (.number (.negative n))
  | string (s : String) : Exact (.string s)
  | array {elements : List Value} (h : ∀ v ∈ elements, Exact v) : Exact (.array elements)
  | object {members : List (String × Value)} (h : ∀ m ∈ members, Exact m.2) : Exact (.object members)

end Value

theorem renderAll_eq_map (s : Style) (depth : Nat) (elements : List Value) :
    renderAll s depth elements = elements.map (render s depth) := by
  induction elements with
  | nil => rfl
  | cons v rest ih => rw [renderAll, ih, List.map_cons]

theorem renderMembers_eq_map (s : Style) (depth : Nat) (members : List (String × Value)) :
    renderMembers s depth members = members.map fun m => memberText s m.1 (render s depth m.2) := by
  induction members with
  | nil => rfl
  | cons m rest ih =>
      obtain ⟨name, v⟩ := m
      rw [renderMembers, ih, List.map_cons, memberText, List.append_assoc]

theorem render_array (s : Style) (depth : Nat) (elements : List Value) :
    render s depth (.array elements) =
      '[' :: (s.frame depth true (elements.map (render s (depth + 1))) ++ [']']) := by
  rw [render, s.enclose_eq, renderAll_eq_map]

theorem render_object (s : Style) (depth : Nat) (members : List (String × Value)) :
    render s depth (.object members) =
      '\x7b' :: (s.frame depth true
        (members.map fun m => memberText s m.1 (render s (depth + 1) m.2)) ++ ['\x7d']) := by
  rw [render, s.enclose_eq, renderMembers_eq_map]

theorem length_le_frame {α : Type} (s : Style) (depth : Nat) (first : Bool) {write : α → List Char}
    {as : List α} (h : ∀ a ∈ as, write a ≠ []) :
    as.length ≤ (s.frame depth first (as.map write)).length := by
  induction as generalizing first with
  | nil => exact Nat.zero_le _
  | cons a as ih =>
      have ha : 0 < (write a).length := List.length_pos_iff.mpr (h a List.mem_cons_self)
      have hmore := ih false fun b hb => h b (List.mem_cons_of_mem a hb)
      simp only [List.map_cons, Style.frame, List.length_append, List.length_cons]
      omega

/-- The length of what is left covers the number of parts in it. -/
theorem length_lt_frame {α : Type} (s : Style) (depth : Nat) {write : α → List Char} (as : List α)
    (h : ∀ a ∈ as, write a ≠ []) (rest : List Char) :
    as.length < (s.frame depth true (as.map write) ++ rest).length + 1 := by
  have hle := length_le_frame s depth true h
  rw [List.length_append]
  omega

theorem length_le_frame_of_mem (s : Style) (depth : Nat) (first : Bool) {parts : List (List Char)}
    {part : List Char} (h : part ∈ parts) : part.length ≤ (s.frame depth first parts).length := by
  induction parts generalizing first with
  | nil => exact absurd h List.not_mem_nil
  | cons p parts ih =>
      simp only [Style.frame, List.length_append]
      rcases List.mem_cons.mp h with rfl | h
      · omega
      · have hmore := ih false h
        omega

theorem opens_digits (n : Nat) : ∃ d ds, Nat.toDigits 10 n = d :: ds ∧ d.isDigit = true := by
  obtain ⟨d, ds, hds⟩ := List.exists_cons_of_ne_nil (Nat.toDigits_ne_nil (n := n) (b := 10))
  refine ⟨d, ds, hds, Nat.isDigit_of_mem_toDigits (b := 10) (n := n) (by decide) (by decide) ?_⟩
  rw [hds]
  exact List.mem_cons_self

theorem ne_of_isDigit {d c : Char} (hd : d.isDigit = true) (hc : c.isDigit = false) : d ≠ c := by
  rintro rfl
  rw [hd] at hc
  cases hc

theorem isBlank_of_isDigit {d : Char} (hd : d.isDigit = true) : isBlank d = false := by
  simp only [isBlank, Bool.or_eq_false_iff, beq_eq_false_iff_ne]
  exact ⟨⟨⟨ne_of_isDigit hd rfl, ne_of_isDigit hd rfl⟩, ne_of_isDigit hd rfl⟩, ne_of_isDigit hd rfl⟩

theorem Reader.Opens.ne_nil {text : List Char} (h : Opens text) : text ≠ [] := by
  obtain ⟨c, rest, rfl, -⟩ := h
  exact List.cons_ne_nil c rest

theorem length_le_memberText (s : Style) (name : String) (value : List Char) :
    value.length ≤ (memberText s name value).length := by
  simp only [memberText, List.length_append]
  omega

/-- The text of a value that can be read back begins like a value, and like null only if it is null. -/
theorem render_eq_cons {v : Value} (h : v.Exact) (s : Style) (depth : Nat) :
    ∃ c rest, render s depth v = c :: rest ∧ isBlank c = false ∧ c ≠ ']' ∧ (v ≠ .null → c ≠ 'n') := by
  cases h with
  | null => exact ⟨_, _, rfl, rfl, by decide, fun hne => absurd rfl hne⟩
  | bool b => cases b <;> exact ⟨_, _, rfl, rfl, by decide, fun _ => by decide⟩
  | @natural n h =>
      obtain ⟨d, ds, hds, hd⟩ := opens_digits n
      exact ⟨d, ds, hds, isBlank_of_isDigit hd, ne_of_isDigit hd rfl, fun _ => ne_of_isDigit hd rfl⟩
  | negative hpos h => exact ⟨_, _, rfl, rfl, by decide, fun _ => by decide⟩
  | string t => exact ⟨_, _, rfl, rfl, by decide, fun _ => by decide⟩
  | array h => exact ⟨_, _, render_array s depth _, rfl, by decide, fun _ => by decide⟩
  | object h => exact ⟨_, _, render_object s depth _, rfl, by decide, fun _ => by decide⟩

theorem opens_render {v : Value} (h : v.Exact) (s : Style) (depth : Nat) : Opens (render s depth v) := by
  obtain ⟨c, rest, htext, hblank, hclose, -⟩ := render_eq_cons h s depth
  exact ⟨c, rest, htext, hblank, hclose⟩

namespace Reader

variable {α : Type}

/-- A word is skipped from its first letter on. -/
theorem drop_word (c : Char) (ws rest : List Char) (f : Reader α) :
    (drop 1 >>= fun _ => word ws >>= fun _ => f) (c :: (ws ++ rest)) = f rest := by
  rw [bind_of_ok (drop_cons c _), bind_of_ok (word_append ws rest)]

/-- Members whose values are each read back are read back from their frame. -/
theorem members_frame (s : Style) (depth : Nat) {fuel : Nat} {write : Value → List Char}
    {members : List (String × Value)} (hreads : ∀ m ∈ members, Reads (any fuel) (write m.2) m.2)
    {count : Nat} (hcount : members.length < count) (first : Bool) (rest : List Char) :
    any.members fuel count first
        (s.frame depth first (members.map fun m => memberText s m.1 (write m.2)) ++ '\x7d' :: rest) =
      .ok (members, '\x7d' :: rest) := by
  induction members generalizing count first with
  | nil =>
      obtain ⟨count, rfl⟩ := Nat.exists_eq_add_one_of_ne_zero (Nat.ne_zero_of_lt hcount)
      rw [any.members]
      exact bind_of_ok (nextMember_close first (s.blanks_frame_nil depth first) rest)
  | cons m members ih =>
      obtain ⟨count, rfl⟩ := Nat.exists_eq_add_one_of_ne_zero (Nat.ne_zero_of_lt hcount)
      have hrest : EndsNumber (s.frame depth false
          (members.map fun m => memberText s m.1 (write m.2)) ++ '\x7d' :: rest) :=
        endsNumber_frame s depth _ (endsNumber_cons (by decide) rest)
      have hmore := ih (fun b hb => hreads b (List.mem_cons_of_mem m hb))
        (Nat.lt_of_succ_lt_succ hcount) false
      rw [any.members]
      simp only [List.map_cons, Style.frame, List.append_assoc]
      rw [bind_of_ok (nextMember_memberText first (s.blanks_lineBreak (depth + 1)) s m.1 _ _)]
      simp only [if_true]
      rw [bind_of_ok (string_quoted m.1 _), bind_of_ok (colon_cons _),
        bind_of_ok (hreads m List.mem_cons_self _ _ s.blanks_gap hrest), bind_of_ok hmore]
      rfl

theorem any_digit {d : Char} (hd : d.isDigit = true) {blanks : List Char} (hblanks : Blanks blanks)
    (fuel : Nat) (rest : List Char) :
    any (fuel + 1) (blanks ++ d :: rest) =
      (number true >>= fun n => pure (Value.number n) : Reader Value) (d :: rest) := by
  rw [any, bind_of_ok (start_blanks hblanks (isBlank_of_isDigit hd) rest)]
  split
  case h_8 => rw [if_pos hd]
  all_goals exact absurd hd (by decide)

/-- Any value that can be read back is read from its text, if the count covers its length. -/
theorem any_reads {v : Value} (h : v.Exact) (s : Style) (depth : Nat) {fuel : Nat}
    (hfuel : (render s depth v).length ≤ fuel) : Reads (any fuel) (render s depth v) v := by
  intro blanks rest hblanks hrest
  induction h generalizing depth fuel blanks rest with
  | null =>
      obtain ⟨fuel, rfl⟩ := Nat.exists_eq_add_one_of_ne_zero (Nat.ne_zero_of_lt hfuel)
      rw [any]
      exact (bind_of_ok (start_blanks hblanks rfl _)).trans (drop_word 'n' _ rest _)
  | bool b =>
      cases b with
      | true =>
          obtain ⟨fuel, rfl⟩ := Nat.exists_eq_add_one_of_ne_zero (Nat.ne_zero_of_lt hfuel)
          rw [any]
          exact (bind_of_ok (start_blanks hblanks rfl _)).trans (drop_word 't' _ rest _)
      | false =>
          obtain ⟨fuel, rfl⟩ := Nat.exists_eq_add_one_of_ne_zero (Nat.ne_zero_of_lt hfuel)
          rw [any]
          exact (bind_of_ok (start_blanks hblanks rfl _)).trans (drop_word 'f' _ rest _)
  | @natural n h =>
      obtain ⟨d, ds, hds, hd⟩ := opens_digits n
      have hnumber : number true (d :: (ds ++ rest)) = .ok (.natural n, rest) := by
        rw [← List.cons_append, ← hds, number_natural h hrest]
      rw [render, numberText, hds] at hfuel ⊢
      obtain ⟨fuel, rfl⟩ := Nat.exists_eq_add_one_of_ne_zero (Nat.ne_zero_of_lt hfuel)
      rw [List.cons_append, any_digit hd hblanks, bind_of_ok hnumber]
      rfl
  | @negative n hpos h =>
      obtain ⟨fuel, rfl⟩ := Nat.exists_eq_add_one_of_ne_zero (Nat.ne_zero_of_lt hfuel)
      rw [any, render, numberText, List.cons_append, bind_of_ok (start_blanks hblanks rfl _)]
      exact (bind_of_ok (drop_cons '-' _)).trans (bind_of_ok (number_negative hpos h hrest))
  | string t =>
      obtain ⟨fuel, rfl⟩ := Nat.exists_eq_add_one_of_ne_zero (Nat.ne_zero_of_lt hfuel)
      rw [any, render]
      exact (bind_of_ok (start_blanks hblanks rfl _)).trans (bind_of_ok (string_quoted t rest))
  | @array vs h ih =>
      rw [render_array, List.length_cons, List.length_append] at hfuel
      obtain ⟨fuel, rfl⟩ := Nat.exists_eq_add_one_of_ne_zero (Nat.ne_zero_of_lt hfuel)
      -- A part is no longer than its frame, so the count that is left covers it.
      have hreads : ∀ v ∈ vs, Reads (any fuel) (render s (depth + 1) v) v := by
        intro v hv blanks rest hblanks hrest
        have hle := length_le_frame_of_mem s depth true
          (List.mem_map_of_mem (f := render s (depth + 1)) hv)
        exact ih v hv (depth + 1) (by omega) blanks rest hblanks hrest
      have hopens : ∀ v ∈ vs, Opens (render s (depth + 1) v) := fun v hv => opens_render (h v hv) s _
      have hcount : vs.length < fuel + 1 := by
        have hlt := length_lt_frame s depth vs (fun v hv => (hopens v hv).ne_nil) [']']
        rw [List.length_append] at hlt
        omega
      have helements := elements_frame s depth hreads hopens hcount true rest
      rw [any, render_array, List.cons_append, List.append_assoc, List.singleton_append,
        bind_of_ok (start_blanks hblanks rfl _)]
      exact (bind_of_ok (drop_cons '[' _)).trans
        ((bind_of_ok helements).trans (bind_of_ok (endArray_close rest)))
  | @object ms h ih =>
      rw [render_object, List.length_cons, List.length_append] at hfuel
      obtain ⟨fuel, rfl⟩ := Nat.exists_eq_add_one_of_ne_zero (Nat.ne_zero_of_lt hfuel)
      have hreads : ∀ m ∈ ms, Reads (any fuel) (render s (depth + 1) m.2) m.2 := by
        intro m hm blanks rest hblanks hrest
        have hle := length_le_frame_of_mem s depth true
          (List.mem_map_of_mem (f := fun m => memberText s m.1 (render s (depth + 1) m.2)) hm)
        have hvalue := length_le_memberText s m.1 (render s (depth + 1) m.2)
        exact ih m hm (depth + 1) (by omega) blanks rest hblanks hrest
      have hcount : ms.length < fuel + 1 := by
        have hlt := length_lt_frame s depth ms
          (fun m _ => memberText_ne_nil s m.1 (render s (depth + 1) m.2)) ['\x7d']
        rw [List.length_append] at hlt
        omega
      have hmembers := members_frame s depth hreads hcount true rest
      rw [any, render_object, List.cons_append, List.append_assoc, List.singleton_append,
        bind_of_ok (start_blanks hblanks rfl _)]
      exact (bind_of_ok (drop_cons '\x7b' _)).trans
        ((bind_of_ok hmembers).trans (bind_of_ok (endObject_close rest)))

/-- A reader that reads a text reads it as a whole; blanks may follow it. -/
theorem whole_of_reads {r : Reader α} {text blanks : List Char} {a : α} (h : Reads r text a)
    (hblanks : Blanks blanks) : r.whole (text ++ blanks) = .ok (a, []) := by
  have hends : EndsNumber blanks := by
    have hnil := endsNumber_blanks hblanks endsNumber_nil
    rwa [List.append_nil] at hnil
  have hnone : (blanks ++ []).dropWhile isBlank = [].dropWhile isBlank := List.dropWhile_append_of_pos hblanks
  rw [List.append_nil, List.dropWhile_nil] at hnone
  rw [whole, bind_of_ok (h.run hends)]
  show (if (blanks.dropWhile isBlank).isEmpty then _ else _ : Reader α) (blanks.dropWhile isBlank) = _
  rw [hnone]
  rfl

end Reader

/-- The text of a value is read as that value; blanks may follow it. -/
theorem Value.parse_text {v : Value} (h : v.Exact) (s : Style) (after : String)
    (hafter : Blanks after.toList) : Value.parse (v.text s ++ after) = .ok v := by
  have hlength : (render s 0 v).length ≤ (render s 0 v ++ after.toList).length + 1 := by
    rw [List.length_append]
    omega
  rw [Value.parse, Value.text, String.toList_append, String.toList_ofList]
  simp only [whole_of_reads (any_reads h s 0 hlength) hafter]
  rfl

end Nullability.Json
