import Nullability.Proofs.JsonScanning

/-!
Parts in brackets. Elements and members stand in the same frame in both styles: the first part behind a line
break, each other one behind a comma and a line break, and a line break before the closing bracket. A reader
that reads every part back reads all of them back, in order.
-/

namespace Nullability.Json

open Reader

namespace Style

/-- What stands before a part: a comma, unless it is the first. -/
def separator (first : Bool) : List Char := if first then [] else [',']

/-- Parts as they stand up to the closing bracket; `first` tells whether none stands before them. -/
def frame (s : Style) (depth : Nat) (first : Bool) : List (List Char) → List Char
  | [] => if first then [] else s.lineBreak depth
  | part :: rest => separator first ++ (s.lineBreak (depth + 1) ++ (part ++ s.frame depth false rest))

theorem frame_false (s : Style) (depth : Nat) (parts : List (List Char)) :
    s.frame depth false parts =
      parts.flatMap (fun part => ',' :: s.lineBreak (depth + 1) ++ part) ++ s.lineBreak depth := by
  induction parts with
  | nil => rfl
  | cons part rest ih =>
      rw [frame, ih, List.flatMap_cons]
      simp only [separator, Bool.false_eq_true, if_false, List.append_assoc, List.cons_append,
        List.nil_append]

theorem enclose_eq (s : Style) (depth : Nat) (opening closing : Char) (parts : List (List Char)) :
    s.enclose depth opening closing parts = opening :: (s.frame depth true parts ++ [closing]) := by
  cases parts with
  | nil => rfl
  | cons first rest =>
      rw [enclose, frame, frame_false]
      simp only [separator, if_true, List.append_assoc, List.cons_append, List.nil_append]

theorem blanks_lineBreak (s : Style) (depth : Nat) : Blanks (s.lineBreak depth) := by
  cases s with
  | compact => exact blanks_nil
  | indented =>
      intro c hc
      rcases List.mem_cons.mp hc with rfl | hc
      · rfl
      · rw [List.eq_of_mem_replicate hc]
        rfl

theorem blanks_frame_nil (s : Style) (depth : Nat) (first : Bool) : Blanks (s.frame depth first []) := by
  cases first with
  | true => exact blanks_nil
  | false => exact s.blanks_lineBreak depth

/-- What stands between the colon behind a name and the value. -/
def gap : Style → List Char
  | compact => []
  | indented => [' ']

theorem colon_eq (s : Style) : s.colon = ':' :: s.gap := by
  cases s <;> rfl

theorem blanks_gap (s : Style) : Blanks s.gap := by
  cases s with
  | compact => exact blanks_nil
  | indented =>
      intro c hc
      rw [List.mem_singleton.mp hc]
      rfl

end Style

namespace Reader

variable {α : Type}

theorem endsNumber_nil : EndsNumber [] := fun _ h => absurd h (Option.not_mem_none _)

theorem endsNumber_cons {c : Char} (hc : c.isDigit = false ∧ c ≠ '.' ∧ c ≠ 'e' ∧ c ≠ 'E')
    (rest : List Char) : EndsNumber (c :: rest) := by
  intro d hd
  cases hd
  exact hc

theorem endsNumber_blanks {blanks rest : List Char} (hblanks : Blanks blanks) (hrest : EndsNumber rest) :
    EndsNumber (blanks ++ rest) := by
  cases blanks with
  | nil => exact hrest
  | cons b blanks =>
      have hb : isBlank b = true := hblanks b List.mem_cons_self
      simp only [isBlank, Bool.or_eq_true, beq_iff_eq] at hb
      rcases hb with ((rfl | rfl) | rfl) | rfl <;> exact endsNumber_cons (by decide) _

theorem endsNumber_frame (s : Style) (depth : Nat) (parts : List (List Char)) {rest : List Char}
    (hrest : EndsNumber rest) : EndsNumber (s.frame depth false parts ++ rest) := by
  cases parts with
  | nil => exact endsNumber_blanks (s.blanks_lineBreak depth) hrest
  | cons part parts => exact endsNumber_cons (by decide) _

/-- A reader reads a text: behind blanks, and in front of a text that does not go on where a number ends, it
gives the value and leaves what stands behind. -/
def Reads (r : Reader α) (text : List Char) (a : α) : Prop :=
  ∀ blanks rest, Blanks blanks → EndsNumber rest → r (blanks ++ (text ++ rest)) = .ok (a, rest)

theorem Reads.run {r : Reader α} {text rest : List Char} {a : α} (h : Reads r text a)
    (hrest : EndsNumber rest) : r (text ++ rest) = .ok (a, rest) :=
  h [] rest blanks_nil hrest

/-- A text begins with a character that can begin an element. -/
def Opens (text : List Char) : Prop := ∃ c rest, text = c :: rest ∧ isBlank c = false ∧ c ≠ ']'

theorem nextElement_part (first : Bool) {blanks text rest : List Char} (hblanks : Blanks blanks)
    (h : Opens text) :
    nextElement first (Style.separator first ++ (blanks ++ (text ++ rest))) = .ok (true, text ++ rest) := by
  obtain ⟨c, tail, rfl, hc, hclose⟩ := h
  rw [List.cons_append]
  cases first with
  | true =>
      rw [nextElement, Style.separator, if_pos rfl, List.nil_append,
        bind_of_ok (skipBlank_blanks hblanks hc _)]
      simp only [if_true]
      rfl
  | false =>
      rw [nextElement, Style.separator, if_neg Bool.false_ne_true, List.singleton_append,
        bind_of_ok (skipBlank_cons rfl _)]
      simp only [Bool.false_eq_true, if_false]
      show (if ',' = ',' then set _ >>= _ else (_ : Reader Bool)) _ = _
      rw [if_pos rfl, bind_of_ok (set_run _ _), bind_of_ok (skipBlank_blanks hblanks hc _)]
      simp only [List.cons.injEq, hclose, false_and, imp_self, implies_true]
      rfl

theorem nextElement_close (first : Bool) {blanks : List Char} (hblanks : Blanks blanks) (rest : List Char) :
    nextElement first (blanks ++ ']' :: rest) = .ok (false, ']' :: rest) := by
  rw [nextElement, bind_of_ok (skipBlank_blanks hblanks rfl rest)]
  rfl

theorem endArray_close (rest : List Char) : endArray (']' :: rest) = .ok ((), rest) := by
  rw [endArray, bind_of_ok (skipBlank_cons rfl rest)]
  rfl

/-- Elements that are each read back are read back from their frame. -/
theorem elements_frame {r : Reader α} {write : α → List Char} {as : List α} (s : Style) (depth : Nat)
    (hreads : ∀ a ∈ as, Reads r (write a) a) (hopens : ∀ a ∈ as, Opens (write a)) {fuel : Nat}
    (hfuel : as.length < fuel) (first : Bool) (rest : List Char) :
    elements r fuel first (s.frame depth first (as.map write) ++ ']' :: rest) = .ok (as, ']' :: rest) := by
  induction as generalizing fuel first with
  | nil =>
      obtain ⟨fuel, rfl⟩ := Nat.exists_eq_add_one_of_ne_zero (Nat.ne_zero_of_lt hfuel)
      rw [elements]
      exact bind_of_ok (nextElement_close first (s.blanks_frame_nil depth first) rest)
  | cons a as ih =>
      have hrest : EndsNumber (s.frame depth false (as.map write) ++ ']' :: rest) :=
        endsNumber_frame s depth _ (endsNumber_cons (by decide) rest)
      obtain ⟨fuel, rfl⟩ := Nat.exists_eq_add_one_of_ne_zero (Nat.ne_zero_of_lt hfuel)
      have hmore := ih (fun b hb => hreads b (List.mem_cons_of_mem a hb))
        (fun b hb => hopens b (List.mem_cons_of_mem a hb)) (Nat.lt_of_succ_lt_succ hfuel) false
      rw [elements]
      simp only [List.map_cons, Style.frame, List.append_assoc]
      rw [bind_of_ok
        (nextElement_part first (s.blanks_lineBreak (depth + 1)) (hopens a List.mem_cons_self))]
      simp only [if_true]
      rw [bind_of_ok ((hreads a List.mem_cons_self).run hrest), bind_of_ok hmore]
      rfl

theorem nextMember_part (first : Bool) {blanks : List Char} (hblanks : Blanks blanks) (rest : List Char) :
    nextMember first (Style.separator first ++ (blanks ++ '"' :: rest)) = .ok (true, '"' :: rest) := by
  cases first with
  | true =>
      rw [nextMember, Style.separator, if_pos rfl, List.nil_append,
        bind_of_ok (skipBlank_blanks hblanks rfl rest)]
      rfl
  | false =>
      rw [nextMember, Style.separator, if_neg Bool.false_ne_true, List.singleton_append,
        bind_of_ok (skipBlank_cons rfl _)]
      show (set (blanks ++ '"' :: rest) >>= fun _ => skipBlank >>= _ : Reader Bool) _ = _
      rw [bind_of_ok (set_run _ _), bind_of_ok (skipBlank_blanks hblanks rfl rest)]
      rfl

theorem nextMember_close (first : Bool) {blanks : List Char} (hblanks : Blanks blanks) (rest : List Char) :
    nextMember first (blanks ++ '\x7d' :: rest) = .ok (false, '\x7d' :: rest) := by
  rw [nextMember, bind_of_ok (skipBlank_blanks hblanks rfl rest)]
  rfl

theorem colon_cons (rest : List Char) : colon (':' :: rest) = .ok ((), rest) := by
  rw [colon, bind_of_ok (skipBlank_cons rfl rest)]
  rfl

theorem endObject_close (rest : List Char) : endObject ('\x7d' :: rest) = .ok ((), rest) := by
  rw [endObject, bind_of_ok (skipBlank_cons rfl rest)]
  rfl

/-- The text of a member: its name, the colon and the text of its value. -/
def memberText (s : Style) (name : String) (value : List Char) : List Char :=
  quotedString name ++ (s.colon ++ value)

theorem memberText_ne_nil (s : Style) (name : String) (value : List Char) : memberText s name value ≠ [] :=
  List.cons_ne_nil '"' _

theorem memberText_append (s : Style) (name : String) (value rest : List Char) :
    memberText s name value ++ rest = quotedString name ++ (':' :: (s.gap ++ (value ++ rest))) := by
  rw [memberText, s.colon_eq, List.append_assoc, List.cons_append, List.cons_append, List.append_assoc]

/-- What stands before a member is left behind. -/
theorem nextMember_memberText (first : Bool) {blanks : List Char} (hblanks : Blanks blanks) (s : Style)
    (name : String) (value rest : List Char) :
    nextMember first (Style.separator first ++ (blanks ++ (memberText s name value ++ rest))) =
      .ok (true, quotedString name ++ (':' :: (s.gap ++ (value ++ rest)))) := by
  rw [memberText_append]
  exact nextMember_part first hblanks _

end Reader

end Nullability.Json
