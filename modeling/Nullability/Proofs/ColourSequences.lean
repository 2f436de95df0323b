import Mathlib.Data.List.Basic
import Nullability.Report.Styled

/-!
Colour sequences. A styled text that is written in colour differs from the same text written without only by
the sequences that begin and end its styles: where no span holds an escape character of its own, taking the
sequences out leaves the plain text.
-/

namespace Nullability

/-- A text does not hold a character. -/
def Text.Lacks (c : Char) (text : String) : Prop := c ∉ text.toList

instance (c : Char) (text : String) : Decidable (Text.Lacks c text) := inferInstanceAs (Decidable (_ ∉ _))

namespace Text

variable {c : Char} {a b text : String}

theorem lacks_append_iff : Lacks c (a ++ b) ↔ Lacks c a ∧ Lacks c b := by
  rw [Lacks, Lacks, Lacks, String.toList_append, List.mem_append, not_or]

theorem Lacks.append (ha : Lacks c a) (hb : Lacks c b) : Lacks c (a ++ b) := lacks_append_iff.mpr ⟨ha, hb⟩

theorem lacks_join_iff {texts : List String} : Lacks c (String.join texts) ↔ ∀ t ∈ texts, Lacks c t := by
  simp [Lacks, String.toList_join]

theorem mem_intercalate {α : Type} {x : α} {separator : List α} {parts : List (List α)}
    (h : x ∈ separator.intercalate parts) : x ∈ separator ∨ ∃ part ∈ parts, x ∈ part := by
  induction parts with
  | nil => cases h
  | cons part parts ih =>
      cases parts with
      | nil => exact Or.inr ⟨part, List.mem_cons_self, by simpa using h⟩
      | cons next parts =>
          rw [List.intercalate_cons_cons, List.append_assoc, List.mem_append, List.mem_append] at h
          rcases h with h | h | h
          · exact Or.inr ⟨part, List.mem_cons_self, h⟩
          · exact Or.inl h
          · exact (ih h).imp_right fun ⟨p, hp, hx⟩ => ⟨p, List.mem_cons_of_mem part hp, hx⟩

theorem Lacks.intercalate {separator : String} {texts : List String} (hseparator : Lacks c separator)
    (h : ∀ t ∈ texts, Lacks c t) : Lacks c (separator.intercalate texts) := by
  rw [Lacks, String.toList_intercalate]
  intro hmem
  rcases mem_intercalate hmem with hmem | ⟨part, hpart, hmem⟩
  · exact hseparator hmem
  · obtain ⟨t, ht, rfl⟩ := List.mem_map.mp hpart
    exact h t ht hmem

theorem lacks_replicate {d : Char} (h : c ≠ d) (n : Nat) : Lacks c (String.ofList (List.replicate n d)) := by
  rw [Lacks, String.toList_ofList, List.mem_replicate, not_and]
  exact fun _ => h

/-- Control characters do not stand in a text that can be printed. -/
theorem lacks_of_printable (hc : c.toNat < 32) (h : text.toList.all fun d => decide (32 ≤ d.toNat)) :
    Lacks c text := by
  intro hmem
  have hprintable : 32 ≤ c.toNat := of_decide_eq_true (List.all_eq_true.mp h c hmem)
  omega

theorem lacks_number (hc : c.toNat < 32) (n : Nat) : Lacks c (toString n) := by
  intro hmem
  have hdigit : c.isDigit = true := by
    rw [Nat.toString_eq_ofList_toDigits, String.toList_ofList] at hmem
    exact Nat.isDigit_of_mem_toDigits (by decide) (by decide) hmem
  have hzero : '0'.toNat ≤ c.toNat := by
    rw [Char.isDigit, Bool.and_eq_true, decide_eq_true_eq] at hdigit
    exact hdigit.1
  exact absurd (Nat.lt_of_le_of_lt hzero hc) (by decide)

end Text

namespace Report

open Text

/-- The length of the colour sequence at the front of a text: an escape character and an opening bracket,
numbers with semicolons between them, and the letter m. -/
def sequenceLength : List Char → Nat
  | '\x1b' :: '[' :: rest =>
    let numbers := rest.takeWhile fun c => c.isDigit || c = ';'
    if rest[numbers.length]? = some 'm' then numbers.length + 3 else 0
  | _ => 0

/-- What is left of a text without its colour sequences, when some characters of one are still to be left
out. -/
def leaveOut : Nat → List Char → List Char
  | _, [] => []
  | skip + 1, _ :: rest => leaveOut skip rest
  | 0, c :: rest =>
    match sequenceLength (c :: rest) with
    | 0 => c :: leaveOut 0 rest
    | more + 1 => leaveOut more rest

/-- A text without its colour sequences. -/
def withoutColours (text : String) : String := String.ofList (leaveOut 0 text.toList)

theorem sequenceLength_of_ne {c : Char} (h : c ≠ '\x1b') (rest : List Char) :
    sequenceLength (c :: rest) = 0 := by
  unfold sequenceLength
  split
  · next heq => exact absurd (List.cons.inj heq).1 h
  · rfl

theorem leaveOut_append_of_lacks {cs : List Char} (h : '\x1b' ∉ cs) (rest : List Char) :
    leaveOut 0 (cs ++ rest) = cs ++ leaveOut 0 rest := by
  induction cs with
  | nil => rfl
  | cons c cs ih =>
      rw [List.mem_cons, not_or] at h
      rw [List.cons_append, leaveOut, sequenceLength_of_ne (Ne.symm h.1), ih h.2]
      rfl

theorem leaveOut_styleStart (style : TextStyle) (rest : List Char) :
    leaveOut 0 ((styleStart style).toList ++ rest) = leaveOut 0 rest := by
  cases style <;> rfl

theorem leaveOut_styleEnd (rest : List Char) : leaveOut 0 (styleEnd.toList ++ rest) = leaveOut 0 rest := rfl

theorem resumed_of_lacks {start cs : List Char} (h : '\x1b' ∉ cs) : resumed start cs = cs := by
  induction cs with
  | nil => rfl
  | cons c cs ih =>
      rw [List.mem_cons, not_or] at h
      rw [resumed]
      · rw [ih h.2]
      · rintro rest rfl -
        exact h.1 rfl

/-- Of a span in colour its own text is left. -/
theorem leaveOut_coloured {span : Span} (h : Lacks '\x1b' span.text) (rest : List Char) :
    leaveOut 0 (span.coloured.toList ++ rest) = span.text.toList ++ leaveOut 0 rest := by
  rw [Span.coloured]
  cases span.style with
  | none => exact leaveOut_append_of_lacks h rest
  | some style =>
      simp only [String.toList_append, String.toList_ofList, resumed_of_lacks h, List.append_assoc]
      rw [leaveOut_styleStart, leaveOut_append_of_lacks h, leaveOut_styleEnd]

/-- Without its colour sequences, a text in colour is the plain text. -/
theorem withoutColours_render {spans : Styled} (h : Lacks '\x1b' (spans.render false)) :
    withoutColours (spans.render true) = spans.render false := by
  have hspans : ∀ span ∈ spans, Lacks '\x1b' span.text := by
    rw [render_plain, lacks_join_iff] at h
    exact fun span hspan => h span.text (List.mem_map_of_mem hspan)
  clear h
  rw [withoutColours, ← String.toList_inj, String.toList_ofList]
  induction spans with
  | nil => rfl
  | cons span spans ih =>
      rw [List.forall_mem_cons] at hspans
      rw [render_cons, render_cons, String.toList_append, String.toList_append]
      exact (leaveOut_coloured hspans.1 _).trans (congrArg _ (ih hspans.2))

/-- A style shows in colour. -/
theorem escape_mem_render (style : TextStyle) (text : String) (spans : Styled) :
    '\x1b' ∈ (Styled.render true (⟨some style, text⟩ :: spans)).toList := by
  have hstart : '\x1b' ∈ (styleStart style).toList := by
    cases style <;> decide
  rw [render_cons, Span.render, if_pos rfl, Span.coloured]
  simp only [String.toList_append, List.mem_append]
  exact Or.inl (Or.inl (Or.inl hstart))

end Report

end Nullability
