/-!
Texts as pieces between a separator. Main statement: the pieces, joined again, are the text, and pieces
without the separator are found again in the text that joins them.
-/

namespace Nullability.Text

/-- The pieces of a text between the separators; there is at least one. -/
def pieces (separator : Char) : List Char → List (List Char)
  | [] => [[]]
  | c :: cs =>
    if c = separator then [] :: pieces separator cs
    else
      match pieces separator cs with
      | [] => [[c]]
      | piece :: rest => (c :: piece) :: rest

/-- Pieces with separators between them. -/
def joinPieces (separator : Char) : List (List Char) → List Char
  | [] => []
  | [piece] => piece
  | piece :: rest => piece ++ separator :: joinPieces separator rest

theorem pieces_ne_nil (separator : Char) (cs : List Char) : pieces separator cs ≠ [] := by
  cases cs with
  | nil => simp [pieces]
  | cons c cs =>
    simp only [pieces]
    split
    · simp
    · split <;> simp

theorem joinPieces_pieces (separator : Char) (cs : List Char) :
    joinPieces separator (pieces separator cs) = cs := by
  induction cs with
  | nil => rfl
  | cons c cs ih =>
    simp only [pieces]
    split
    · next h =>
      cases hs : pieces separator cs with
      | nil => exact absurd hs (pieces_ne_nil separator cs)
      | cons piece rest => rw [hs] at ih; simp [joinPieces, ih, h]
    · split
      · next hs => exact absurd hs (pieces_ne_nil separator cs)
      · next piece rest hs =>
        rw [hs] at ih
        cases rest with
        | nil => simp_all [joinPieces]
        | cons p ps => simp_all [joinPieces]

/-- Texts joined by a separator have the pieces of both. -/
theorem pieces_append (separator : Char) (as bs : List Char) :
    pieces separator (as ++ separator :: bs) = pieces separator as ++ pieces separator bs := by
  induction as with
  | nil => simp [pieces]
  | cons c as ih =>
    by_cases h : c = separator
    · simp [pieces, h, ih]
    · obtain ⟨piece, rest, hs⟩ := List.exists_cons_of_ne_nil (pieces_ne_nil separator as)
      simp [pieces, h, ih, hs]

theorem pieces_of_not_mem {separator : Char} {cs : List Char} (h : separator ∉ cs) :
    pieces separator cs = [cs] := by
  induction cs with
  | nil => rfl
  | cons c cs ih =>
    rw [List.mem_cons, not_or] at h
    simp [pieces, Ne.symm h.1, ih h.2]

/-- No piece holds the separator. -/
theorem not_mem_of_mem_pieces {separator : Char} {cs piece : List Char} (h : piece ∈ pieces separator cs) :
    separator ∉ piece := by
  induction cs generalizing piece with
  | nil =>
    rw [List.mem_singleton.mp h]
    exact List.not_mem_nil
  | cons c cs ih =>
    obtain ⟨first, rest, hs⟩ := List.exists_cons_of_ne_nil (pieces_ne_nil separator cs)
    by_cases hc : c = separator
    · rw [pieces, if_pos hc, List.mem_cons] at h
      rcases h with rfl | h
      · exact List.not_mem_nil
      · exact ih h
    · simp only [pieces, hc, if_false, hs, List.mem_cons] at h
      rcases h with rfl | h
      · rw [List.mem_cons, not_or]
        exact ⟨Ne.symm hc, ih (hs ▸ List.mem_cons_self)⟩
      · exact ih (hs ▸ List.mem_cons_of_mem first h)

theorem joinPieces_append (separator : Char) {ps qs : List (List Char)} (hps : ps ≠ []) (hqs : qs ≠ []) :
    joinPieces separator (ps ++ qs) = joinPieces separator ps ++ separator :: joinPieces separator qs := by
  induction ps with
  | nil => exact absurd rfl hps
  | cons p ps ih =>
    cases ps with
    | nil =>
      obtain ⟨q, rest, rfl⟩ := List.exists_cons_of_ne_nil hqs
      rfl
    | cons r ps =>
      have hrest := ih (List.cons_ne_nil r ps)
      calc joinPieces separator (p :: r :: ps ++ qs)
          = p ++ separator :: joinPieces separator (r :: ps ++ qs) := rfl
        _ = p ++ separator :: (joinPieces separator (r :: ps) ++ separator :: joinPieces separator qs) := by
          rw [hrest]
        _ = joinPieces separator (p :: r :: ps) ++ separator :: joinPieces separator qs := by
          simp [joinPieces]

theorem mem_joinPieces_of_mem {separator c : Char} {ps : List (List Char)} {p : List Char} (hp : p ∈ ps)
    (hc : c ∈ p) : c ∈ joinPieces separator ps := by
  induction ps with
  | nil => cases hp
  | cons q ps ih =>
    cases ps with
    | nil => exact List.mem_singleton.mp hp ▸ hc
    | cons r ps =>
      rw [joinPieces, List.mem_append, List.mem_cons]
      · rcases List.mem_cons.mp hp with rfl | hp
        · exact Or.inl hc
        · exact Or.inr (Or.inr (ih hp))
      · exact List.cons_ne_nil r ps

/-- Pieces that do not hold the separator are found again. -/
theorem pieces_joinPieces {separator : Char} {ps : List (List Char)} (hne : ps ≠ [])
    (h : ∀ p ∈ ps, separator ∉ p) : pieces separator (joinPieces separator ps) = ps := by
  induction ps with
  | nil => exact absurd rfl hne
  | cons p ps ih =>
    rw [List.forall_mem_cons] at h
    cases ps with
    | nil => exact pieces_of_not_mem h.1
    | cons q ps =>
      rw [joinPieces, pieces_append, pieces_of_not_mem h.1, ih (List.cons_ne_nil q ps) h.2,
        List.singleton_append]
      exact List.cons_ne_nil q ps

/-- The lines of a text. -/
def lines (text : String) : List String := (pieces '\n' text.toList).map String.ofList

/-- Lines as a text in which each of them is ended. -/
def ended (lines : List String) : String := String.join (lines.map (· ++ "\n"))

theorem ended_cons (l : String) (ls : List String) : ended (l :: ls) = l ++ "\n" ++ ended ls := by
  rw [ended, ended, List.map_cons, String.join_cons]

theorem ended_append (ls ms : List String) : ended (ls ++ ms) = ended ls ++ ended ms := by
  rw [ended, ended, ended, List.map_append, String.join_append]

/-- Lines without line breaks are found again; behind the end of the last there is nothing. -/
theorem lines_ended {ls : List String} (h : ∀ l ∈ ls, '\n' ∉ l.toList) : lines (ended ls) = ls ++ [""] := by
  induction ls with
  | nil => rfl
  | cons l ls ih =>
    rw [List.forall_mem_cons] at h
    have hrest := ih h.2
    have htext : (ended (l :: ls)).toList = l.toList ++ '\n' :: (ended ls).toList := by
      rw [ended_cons, String.toList_append, String.toList_append, List.append_assoc]
      rfl
    rw [lines] at hrest
    rw [lines, htext, pieces_append, pieces_of_not_mem h.1, List.map_append, hrest, List.map_singleton,
      String.ofList_toList]
    rfl

/-- A text with every line but the first behind a margin. -/
def withMargin (margin text : String) : String := ("\n" ++ margin).intercalate (lines text)

end Nullability.Text
