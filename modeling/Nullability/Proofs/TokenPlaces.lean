import Mathlib.Data.List.Infix
import Nullability.Proofs.LexemePlaces

/-!
Where tokens stand. Matching brackets keeps the order of the lexemes and invents no place: the marks of the
token trees of a text fall from the front of the text to its back. What is left to read while the trees are
read is the end of the text or of a group in it, and its marks are some of those of the whole text.
-/

namespace Nullability.TokenTree

mutual

/-- The marks of a tree as they are read: of a group its opening bracket, its content and its closing
bracket. -/
def marks : TokenTree → List Mark
  | group _ content start stop => start :: (marksAll content ++ [stop])
  | ident _ m | punct _ _ m | literal _ m => [m]

/-- The marks of several trees, one tree after the other. -/
def marksAll : List TokenTree → List Mark
  | [] => []
  | t :: rest => marks t ++ marksAll rest

end

theorem marksAll_append (ts us : List TokenTree) : marksAll (ts ++ us) = marksAll ts ++ marksAll us := by
  induction ts with
  | nil => rfl
  | cons t ts ih => rw [List.cons_append, marksAll, marksAll, ih, List.append_assoc]

theorem marksAll_reverse_cons (t : TokenTree) (ts : List TokenTree) :
    marksAll (t :: ts).reverse = marksAll ts.reverse ++ marks t := by
  rw [List.reverse_cons, marksAll_append, marksAll, marksAll, List.append_nil]

theorem exists_marks_eq (t : TokenTree) : ∃ rest, marks t = t.start :: rest := by
  cases t <;> exact ⟨_, rfl⟩

theorem start_mem_marksAll {t : TokenTree} {ts : List TokenTree} (h : t ∈ ts) :
    t.start ∈ marksAll ts := by
  obtain ⟨before, after, rfl⟩ := List.append_of_mem h
  obtain ⟨rest, hrest⟩ := t.exists_marks_eq
  rw [marksAll_append, marksAll, hrest]
  simp

/-- Marks stand in a text of a given length, from its front to its back. -/
structure Descend (length : Nat) (ms : List Mark) : Prop where
  le : ∀ m ∈ ms, m ≤ length
  sorted : ms.Pairwise (· ≥ ·)

variable {length : Nat}

theorem Descend.sublist {ms ns : List Mark} (h : Descend length ns) (hsub : ms.Sublist ns) :
    Descend length ms :=
  ⟨fun m hm => h.le m (hsub.subset hm), h.sorted.sublist hsub⟩

/-- A mark may be read several times. -/
theorem Descend.replicate {before after : List Mark} {m : Mark}
    (h : Descend length (before ++ m :: after)) (n : Nat) :
    Descend length (before ++ List.replicate n m ++ after) := by
  obtain ⟨hle, hsorted⟩ := h
  simp only [List.pairwise_append, List.pairwise_cons, List.mem_append, List.mem_cons] at hle hsorted
  refine ⟨?_, ?_⟩
  · simp only [List.mem_append, List.mem_replicate]
    grind
  · simp only [List.pairwise_append, List.pairwise_replicate, List.mem_append, List.mem_replicate]
    grind

/-- The marks of what has been read while groups are open. -/
def marksRead : List OpenGroup → List TokenTree → List Mark
  | [], current => marksAll current.reverse
  | frame :: outer, current => marksRead outer frame.before ++ frame.start :: marksAll current.reverse

theorem marksRead_cons (stack : List OpenGroup) (t : TokenTree) (current : List TokenTree) :
    marksRead stack (t :: current) = marksRead stack current ++ marks t := by
  cases stack with
  | nil => exact marksAll_reverse_cons t current
  | cons frame outer =>
      rw [marksRead, marksRead, marksAll_reverse_cons, List.append_assoc, List.cons_append]

/-- What the matching of brackets answers stands in a text of the given length: all tokens, or the place of
the fault. -/
def Outcome (length : Nat) : Except Mark (List TokenTree) → Prop
  | .ok tokens => Descend length (marksAll tokens)
  | .error m => m ≤ length

/-- Matching brackets answers places of the lexemes only, and keeps their order. -/
theorem nest_outcome {bad : Option Mark} {lexemes : List (Lexeme × Mark)} {stack : List OpenGroup}
    {current : List TokenTree} (h : Descend length (marksRead stack current ++ lexemes.map Prod.snd))
    (hbad : ∀ m, bad = some m → m ≤ length) : Outcome length (nest bad stack current lexemes) := by
  induction lexemes generalizing stack current with
  | nil =>
      rw [List.map_nil, List.append_nil] at h
      cases bad with
      | some m => exact hbad m rfl
      | none =>
          cases stack with
          | nil => exact h
          | cons frame outer => exact h.le frame.start (by simp [marksRead])
  | cons lexeme rest ih =>
      obtain ⟨lexeme, m⟩ := lexeme
      rw [List.map_cons] at h
      have hm : m ≤ length := h.le m (by simp)
      -- a lexeme adds only its own mark to those read
      have hstep {stack' current'} (n : Nat)
          (hread : marksRead stack' current' = marksRead stack current ++ List.replicate n m) :
          Outcome length (nest bad stack' current' rest) := by
        refine ih ?_
        rw [hread]
        exact h.replicate n
      cases lexeme with
      | opening d => exact hstep 1 rfl
      | closing d =>
          cases stack with
          | nil => exact hm
          | cons frame outer =>
              by_cases hd : frame.delimiter = d
              · rw [nest, if_pos hd]
                refine hstep 1 ?_
                rw [marksRead_cons, marks, marksRead, List.append_assoc]
                rfl
              · rw [nest, if_neg hd]
                exact hm
      | ident text => exact hstep 1 (marksRead_cons _ _ _)
      | punct char joint => exact hstep 1 (marksRead_cons _ _ _)
      | literal text => exact hstep 1 (marksRead_cons _ _ _)
      | comment inner text =>
          cases inner with
          | true =>
              refine hstep 7 ?_
              change marksRead stack (_ :: _ :: _ :: current) = _
              rw [marksRead_cons, marksRead_cons, marksRead_cons]
              simp [marks, marksAll, List.replicate]
          | false =>
              refine hstep 6 ?_
              change marksRead stack (_ :: _ :: current) = _
              rw [marksRead_cons, marksRead_cons]
              simp [marks, marksAll, List.replicate]

/-- The tokens of a text, or the place of its first fault, stand in the text. -/
theorem ofText_outcome (text : List Char) : Outcome text.length (ofText text) := by
  have hbody (body : List Char) (h : body.length ≤ text.length) :
      Outcome text.length (nest (Lexeme.ofText body).2 [] [] (Lexeme.ofText body).1) := by
    obtain ⟨hle, hsorted, hbad⟩ := Lexeme.ofText_placed body
    exact nest_outcome ⟨fun m hm => Nat.le_trans (hle m hm) h, hsorted⟩
      fun m hm => Nat.le_trans (hbad m hm) h
  rw [ofText.eq_def]
  split
  · exact hbody _ (Nat.le_succ _)
  · exact hbody _ (Nat.le_refl _)

theorem ofText_of_not_marked {text : List Char} (h : ¬['\ufeff'] <+: text) :
    ofText text = nest (Lexeme.ofText text).2 [] [] (Lexeme.ofText text).1 := by
  rw [ofText.eq_def]
  split
  · exact absurd (List.prefix_append _ _) h
  · rfl

/-- Line breaks in front of a text that does not begin with a byte order mark change no token. -/
theorem ofText_newlines {text : List Char} (h : ¬['\ufeff'] <+: text) (k : Nat) :
    ofText (List.replicate k '\n' ++ text) = ofText text := by
  have hfront : ¬['\ufeff'] <+: List.replicate k '\n' ++ text := by
    cases k with
    | zero => exact h
    | succ k => simp [List.replicate_succ, List.cons_prefix_cons]
  rw [ofText_of_not_marked hfront, ofText_of_not_marked h, Lexeme.ofText_newlines]

/-! ### The tokens that can come to be read -/

/-- Tokens that stand behind each other at the end of a text or of a group in it: what can be left to read
while the text is read. -/
inductive Reaches (tokens : List TokenTree) : List TokenTree → Prop
  | all : Reaches tokens tokens
  | tail {t : TokenTree} {ts : List TokenTree} (h : Reaches tokens (t :: ts)) : Reaches tokens ts
  | content {d : Delimiter} {inner ts : List TokenTree} {start stop : Mark}
      (h : Reaches tokens (group d inner start stop :: ts)) : Reaches tokens inner

variable {tokens ts : List TokenTree}

theorem Reaches.drop {read rest : List TokenTree} (h : Reaches tokens (read ++ rest)) :
    Reaches tokens rest := by
  induction read with
  | nil => exact h
  | cons t read ih => exact ih h.tail

theorem Reaches.nil (h : Reaches tokens ts) : Reaches tokens [] := by
  rw [← List.append_nil ts] at h
  exact h.drop

theorem Reaches.marks_infix (h : Reaches tokens ts) : marksAll ts <:+: marksAll tokens := by
  induction h with
  | all => exact List.infix_rfl
  | tail _ ih => exact (List.suffix_append _ _).isInfix.trans ih
  | @content d inner ts start stop _ ih =>
      refine List.IsInfix.trans ?_ ih
      rw [marksAll, marks]
      exact ⟨[start], [stop] ++ marksAll ts, by simp⟩

theorem Reaches.descend (h : Reaches tokens ts) (hall : Descend length (marksAll tokens)) :
    Descend length (marksAll ts) :=
  hall.sublist h.marks_infix.sublist

/-- No token stands before the first of those that stand behind each other. -/
theorem Descend.start_le {t u : TokenTree} (h : Descend length (marksAll (t :: ts))) (hu : u ∈ t :: ts) :
    u.start ≤ t.start := by
  obtain ⟨rest, hrest⟩ := t.exists_marks_eq
  have hmem := start_mem_marksAll hu
  have hsorted := h.sorted
  rw [marksAll, hrest, List.cons_append] at hmem hsorted
  rcases List.mem_cons.mp hmem with heq | hmem
  · exact Nat.le_of_eq heq
  · exact (List.pairwise_cons.mp hsorted).1 _ hmem

/-- A mark of tokens, or of the end of the text. -/
def HasMark (tokens : List TokenTree) (m : Mark) : Prop := m = 0 ∨ m ∈ marksAll tokens

theorem HasMark.le {m : Mark} (h : HasMark tokens m) (hall : Descend length (marksAll tokens)) :
    m ≤ length := by
  rcases h with rfl | hm
  · exact Nat.zero_le length
  · exact hall.le m hm

theorem Reaches.hasMark {t : TokenTree} (h : Reaches tokens ts) (ht : t ∈ ts) : HasMark tokens t.start :=
  Or.inr (h.marks_infix.subset (start_mem_marksAll ht))

theorem Reaches.hasMark_stop {d : Delimiter} {inner : List TokenTree} {start stop : Mark}
    (h : Reaches tokens (group d inner start stop :: ts)) : HasMark tokens stop := by
  refine Or.inr (h.marks_infix.subset ?_)
  rw [marksAll, marks]
  simp

end Nullability.TokenTree
