import Mathlib.Data.List.Chain
import Mathlib.Data.List.Nodup
import Mathlib.Data.List.TakeWhile
import Nullability.Proofs.EntryPaths

/-!
The parents of a path. A parent is the beginning of the path's own text, so the next parent is found in a
text that has been cut off, not in the components that are left. The text of a parent is read back as the
parent, whatever slashes and dots stood behind it; each parent therefore has the components of the path
before it but the last, and the chain of parents ends after as many steps as there are components.
-/

namespace Nullability

namespace Path

/-- The components of a path: the root or the dot that it starts from, and its names. -/
def components (p : Path) : List (List Char) :=
  (if p.start = .relative then [] else [p.start.text]) ++ p.names

/-- The path that the text of a path is read as: no segment is written like an empty one. -/
def reread (p : Path) : Path := if p.segments = [] then ⟨p.start, [[]]⟩ else p

/-- Segments end with one that names something, if there are any. -/
def EndsNamed (segments : List (List Char)) : Prop :=
  ∀ last ∈ segments.getLast?, isBlankSegment last = false

/-- One path is another without its last component: without its last name, or without the dot that it
starts from if there is no name. What names nothing before that component goes with it. -/
inductive IsParent : Path → Path → Prop
  | name {start : PathStart} {kept blanks behind : List (List Char)} {name : List Char}
      (hkept : EndsNamed kept) (hblanks : ∀ s ∈ blanks, isBlankSegment s = true)
      (hname : isBlankSegment name = false) (hbehind : ∀ s ∈ behind, isBlankSegment s = true) :
      IsParent ⟨start, kept⟩ ⟨start, kept ++ (blanks ++ name :: behind)⟩
  | dot {blanks : List (List Char)} (hblanks : ∀ s ∈ blanks, isBlankSegment s = true) :
      IsParent ⟨.relative, []⟩ ⟨.here, blanks⟩

variable {p q : Path} {segments : List (List Char)}

theorem not_blank_of_dropBlank_eq_cons {name : List Char} {rest : List (List Char)}
    (h : dropBlank segments = name :: rest) : isBlankSegment name = false := by
  have hhead := List.head?_dropWhile_not isBlankSegment segments
  rw [← dropBlank, h] at hhead
  exact hhead

theorem endsNamed_reverse_dropBlank (segments : List (List Char)) :
    EndsNamed (dropBlank segments).reverse := by
  intro last hlast
  rw [List.getLast?_reverse, Option.mem_def, List.head?_eq_some_iff] at hlast
  obtain ⟨rest, hrest⟩ := hlast
  exact not_blank_of_dropBlank_eq_cons hrest

/-- Reversed segments are blank ones and what is left without them. -/
theorem exists_blanks_append (segments : List (List Char)) :
    ∃ blanks, segments.reverse = (dropBlank segments).reverse ++ blanks ∧
      ∀ s ∈ blanks, isBlankSegment s = true := by
  refine ⟨(segments.takeWhile isBlankSegment).reverse, ?_, fun s hs => ?_⟩
  · rw [dropBlank, ← List.reverse_append, List.takeWhile_append_dropWhile]
  · exact List.mem_takeWhile_imp (List.mem_reverse.mp hs)

theorem isParent_of_parent? (h : p.parent? = some q) : IsParent q p := by
  obtain ⟨start, segments⟩ := p
  obtain ⟨behind, hsegments, hbehind⟩ := exists_blanks_append segments.reverse
  rw [List.reverse_reverse] at hsegments
  rw [parent?] at h
  split at h
  · next name before hdrop =>
    obtain ⟨blanks, hbefore, hblanks⟩ := exists_blanks_append before
    have hall : segments = (dropBlank before).reverse ++ (blanks ++ name :: behind) := by
      rw [hsegments, hdrop, List.reverse_cons, hbefore]
      simp
    cases h
    rw [hall]
    exact .name (endsNamed_reverse_dropBlank before) hblanks (not_blank_of_dropBlank_eq_cons hdrop) hbehind
  · next hdrop =>
    rw [hdrop] at hsegments
    split at h
    · next hhere =>
      cases h
      cases hhere
      exact .dot (hsegments ▸ hbehind)
    · cases h

/-! ### Components -/

theorem filter_names_of_blank {blanks : List (List Char)} (h : ∀ s ∈ blanks, isBlankSegment s = true) :
    blanks.filter (!isBlankSegment ·) = [] := by
  simpa using h

/-- One path has the names of another and one more. -/
theorem filter_names_append {kept blanks behind : List (List Char)} {name : List Char}
    (hblanks : ∀ s ∈ blanks, isBlankSegment s = true) (hname : isBlankSegment name = false)
    (hbehind : ∀ s ∈ behind, isBlankSegment s = true) :
    (kept ++ (blanks ++ name :: behind)).filter (!isBlankSegment ·) =
      kept.filter (!isBlankSegment ·) ++ [name] := by
  rw [List.filter_append, List.filter_append, List.filter_cons_of_pos (by rw [hname]; rfl),
    filter_names_of_blank hblanks, filter_names_of_blank hbehind, List.nil_append]

theorem IsParent.components (h : IsParent q p) : ∃ last, p.components = q.components ++ [last] := by
  cases h with
  | @name start kept blanks behind name hkept hblanks hname hbehind =>
      refine ⟨name, ?_⟩
      rw [Path.components, Path.components, names, names, filter_names_append hblanks hname hbehind,
        List.append_assoc]
  | dot hblanks =>
      refine ⟨['.'], ?_⟩
      rw [Path.components, names, filter_names_of_blank hblanks]
      rfl

theorem IsParent.size (h : IsParent q p) : p.size = q.size + 1 := by
  cases h with
  | name hkept hblanks hname hbehind =>
      rw [Path.size, Path.size, names, names, filter_names_append hblanks hname hbehind, List.length_append,
        List.length_singleton, Nat.add_right_comm]
  | dot hblanks =>
      rw [Path.size, names, filter_names_of_blank hblanks]
      rfl

theorem IsParent.start_eq_root_iff (h : IsParent q p) : q.start = .root ↔ p.start = .root := by
  cases h with
  | name => exact Iff.rfl
  | dot => simp

theorem parent?_eq_none (h : p.parent? = none) : p.start ≠ .here ∧ p.names = [] := by
  obtain ⟨behind, hsegments, hbehind⟩ := exists_blanks_append p.segments.reverse
  rw [List.reverse_reverse] at hsegments
  rw [parent?] at h
  split at h
  · cases h
  · next hdrop =>
    rw [hdrop, List.reverse_nil, List.nil_append] at hsegments
    refine ⟨fun hhere => ?_, ?_⟩
    · rw [if_pos hhere] at h
      cases h
    · rw [names, hsegments, filter_names_of_blank hbehind]

/-! ### Parents read back -/

theorem splitSlashes_segments (cs : List Char) :
    splitSlashes (joinSlashes (ofChars cs).segments) = (ofChars cs).segments := by
  unfold ofChars
  split
  · rw [joinSlashes_splitSlashes]
  · rfl
  · rw [joinSlashes_splitSlashes]
  · rw [joinSlashes_splitSlashes]

theorem slash_not_mem_segments {cs segment : List Char} (h : segment ∈ (ofChars cs).segments) :
    '/' ∉ segment := by
  rw [← splitSlashes_segments] at h
  exact Text.not_mem_of_mem_pieces h

theorem ofChars_chars_of_no_segments (start : PathStart) :
    ofChars (⟨start, []⟩ : Path).chars = ⟨start, [[]]⟩ := by
  cases start <;> rfl

theorem IsParent.begins (h : IsParent q p) : q.chars <+: p.chars := by
  cases h with
  | @name start kept blanks behind name hkept hblanks hname hbehind =>
      rw [chars, chars, List.prefix_append_right_inj]
      by_cases hnil : kept = []
      · rw [hnil]
        exact List.nil_prefix
      · rw [joinSlashes, joinSlashes, Text.joinPieces_append '/' hnil (by simp)]
        exact List.prefix_append _ _
  | dot hblanks => exact List.nil_prefix

/-- The text of a parent is read as the parent. -/
theorem IsParent.ofChars_chars {cs : List Char} (h : IsParent q (ofChars cs)) :
    ofChars q.chars = q.reread := by
  generalize hp : ofChars cs = p at h
  cases h with
  | dot hblanks => exact ofChars_chars_of_no_segments .relative
  | @name start kept blanks behind name hkept hblanks hname hbehind =>
      by_cases hnil : kept = []
      · subst hnil
        exact ofChars_chars_of_no_segments start
      have hslash : ∀ s ∈ kept, '/' ∉ s := fun s hs =>
        slash_not_mem_segments (hp.symm ▸ List.mem_append_left _ hs : s ∈ (ofChars cs).segments)
      have hkeptRead : splitSlashes (joinSlashes kept) = kept := Text.pieces_joinPieces hnil hslash
      have hchars : (⟨start, kept⟩ : Path).chars ≠ [] := by
        intro hempty
        rw [(List.append_eq_nil_iff.mp hempty).2] at hkeptRead
        have hlast : [] ∈ kept.getLast? := hkeptRead ▸ rfl
        cases hkept [] hlast
      have hwhole : cs = (⟨start, kept⟩ : Path).chars ++ '/' :: joinSlashes (blanks ++ name :: behind) := by
        rw [← chars_ofChars cs, hp, chars, chars, joinSlashes, joinSlashes,
          Text.joinPieces_append '/' hnil (by simp), List.append_assoc]
        rfl
      have hstart : (ofChars (⟨start, kept⟩ : Path).chars).start = start := by
        rw [← start_append_slash hchars, ← hwhole, hp]
      have hsegments : (ofChars (⟨start, kept⟩ : Path).chars).segments = kept := by
        have htext := chars_ofChars (⟨start, kept⟩ : Path).chars
        rw [chars, hstart] at htext
        rw [← splitSlashes_segments, List.append_cancel_left htext, hkeptRead]
      rw [reread, if_neg hnil]
      exact congrArg₂ Path.mk hstart hsegments

/-- What does not tell an empty segment from none is the same of a path and of its text. -/
theorem reread_congr {α : Type} (f : Path → α) (h : ∀ start, f ⟨start, [[]]⟩ = f ⟨start, []⟩) (p : Path) :
    f p.reread = f p := by
  obtain ⟨start, segments⟩ := p
  cases segments with
  | nil => exact h start
  | cons segment segments => rfl

/-! ### Texts of parents -/

/-- The text of the path without its last component. -/
def parentText? (text : String) : Option String := (ofText text).parent?.map Path.text

/-- The texts of a path and of the chain of its parents, at most the given number. -/
def ancestorTexts (text : String) (limit : Nat) : List String := ((ofText text).ancestors limit).map Path.text

/-- The components of the path that a text is. -/
def componentsOf (text : String) : List (List Char) := (ofText text).components

theorem text_ofText (text : String) : (ofText text).text = text := by
  rw [Path.text, ofText, chars_ofChars, String.ofList_toList]

theorem ofText_parentText {text : String} (h : (ofText text).parent? = some q) : ofText q.text = q.reread := by
  rw [ofText, Path.text, String.toList_ofList]
  exact (isParent_of_parent? h).ofChars_chars

section

variable {text parent : String}

theorem parentText?_components (h : parentText? text = some parent) :
    ∃ last, componentsOf text = componentsOf parent ++ [last] := by
  obtain ⟨q, hq, rfl⟩ := Option.map_eq_some_iff.mp h
  rw [componentsOf, componentsOf, ofText_parentText hq, reread_congr Path.components fun _ => rfl]
  exact (isParent_of_parent? hq).components

theorem parentText?_size (h : parentText? text = some parent) :
    (ofText text).size = (ofText parent).size + 1 := by
  obtain ⟨q, hq, rfl⟩ := Option.map_eq_some_iff.mp h
  rw [ofText_parentText hq, reread_congr Path.size fun _ => rfl]
  exact (isParent_of_parent? hq).size

theorem parentText?_begins (h : parentText? text = some parent) : parent.toList <+: text.toList := by
  obtain ⟨q, hq, rfl⟩ := Option.map_eq_some_iff.mp h
  have hprefix := (isParent_of_parent? hq).begins
  rw [ofText, chars_ofChars] at hprefix
  rwa [Path.text, String.toList_ofList]

theorem isAbsolute_iff : isAbsolute text ↔ (ofText text).start = .root := by
  rw [isAbsolute, decide_eq_true_eq, ofText]
  unfold ofChars
  split
  · next htext => simp [htext]
  · next htext => simp [htext]
  · next htext => simp [htext]
  · next hroot _ _ =>
    simp only [reduceCtorEq, iff_false]
    intro hhead
    obtain ⟨rest, hrest⟩ := List.head?_eq_some_iff.mp hhead
    exact hroot rest hrest

theorem parentText?_isAbsolute (h : parentText? text = some parent) : isAbsolute parent = isAbsolute text := by
  obtain ⟨q, hq, rfl⟩ := Option.map_eq_some_iff.mp h
  rw [Bool.eq_iff_iff, isAbsolute_iff, isAbsolute_iff, ofText_parentText hq,
    reread_congr Path.start fun _ => rfl]
  exact (isParent_of_parent? hq).start_eq_root_iff

/-- A path that starts from nothing and has no name has no text. -/
theorem eq_nil_of_names_eq_nil {cs : List Char} (hstart : (ofChars cs).start = .relative)
    (hnames : (ofChars cs).names = []) : cs = [] := by
  have hjoined := Text.joinPieces_pieces '/' cs
  obtain ⟨first, more, hpieces⟩ := List.exists_cons_of_ne_nil (Text.pieces_ne_nil '/' cs)
  have hfirst : first = [] ∨ first = ['.'] := by
    rw [names_ofChars, List.filter_eq_nil_iff, splitSlashes, hpieces] at hnames
    simpa [isBlankSegment, or_iff_not_imp_left] using hnames first List.mem_cons_self
  rw [hpieces] at hjoined
  unfold ofChars at hstart
  split at hstart
  · cases hstart
  · cases hstart
  · cases hstart
  · next hroot hdot hhere =>
    cases more with
    | nil =>
        rcases hfirst with rfl | rfl
        · exact hjoined.symm
        · exact absurd hjoined.symm hdot
    | cons piece more =>
        rcases hfirst with rfl | rfl
        · exact absurd hjoined.symm (hroot _)
        · exact absurd hjoined.symm (hhere _)

theorem size_of_parentText?_eq_none (h : parentText? text = none) : (ofText text).size = 0 := by
  obtain ⟨hstart, hnames⟩ := parent?_eq_none (Option.map_eq_none_iff.mp h)
  rw [size, hnames, if_neg hstart]
  rfl

/-- What has no parent is the root, in any spelling, or the empty path. -/
theorem componentsOf_top (h : parentText? text = none) :
    if isAbsolute text then componentsOf text = [['/']] else text = "" := by
  obtain ⟨hstart, hnames⟩ := parent?_eq_none (Option.map_eq_none_iff.mp h)
  split
  · next habsolute =>
    rw [componentsOf, components, hnames, isAbsolute_iff.mp habsolute]
    rfl
  · next habsolute =>
    rw [isAbsolute_iff] at habsolute
    have hrelative : (ofText text).start = .relative := by
      cases hs : (ofText text).start with
      | root => exact absurd hs habsolute
      | here => exact absurd hs hstart
      | relative => rfl
    exact String.toList_inj.mp (eq_nil_of_names_eq_nil hrelative hnames)

end

/-! ### The chain -/

theorem ancestorsFrom_of_size_lt {count : Nat} (h : p.size < count) :
    ancestorsFrom count p = ancestorsFrom (p.size + 1) p := by
  induction count generalizing p with
  | zero => cases h
  | succ count ih =>
      rw [ancestorsFrom, ancestorsFrom]
      cases hq : p.parent? with
      | none => rfl
      | some q =>
          have hsize := (isParent_of_parent? hq).size
          have hrest := ih (p := q) (by omega)
          simp only [hrest, hsize]

/-- The number of components does not cut the chain of parents. -/
theorem ancestors_eq (p : Path) (limit : Nat) : p.ancestors limit = ancestorsFrom limit p := by
  rw [ancestors]
  by_cases h : p.size < limit
  · rw [Nat.min_eq_right h, ancestorsFrom_of_size_lt h]
  · rw [Nat.min_eq_left (by omega)]

theorem ancestorsFrom_reread (p : Path) (count : Nat) :
    (ancestorsFrom count p.reread).map Path.text = (ancestorsFrom count p).map Path.text := by
  cases count with
  | zero => rfl
  | succ count =>
      rw [ancestorsFrom, ancestorsFrom, reread_congr parent? fun _ => rfl, List.map_cons, List.map_cons,
        reread_congr Path.text fun _ => rfl]

theorem ancestorTexts_zero (text : String) : ancestorTexts text 0 = [] := by
  rw [ancestorTexts, ancestors_eq]
  rfl

/-- Behind a path stand its parent and the parents of that, which are found in the parent's text. -/
theorem ancestorTexts_succ (text : String) (limit : Nat) :
    ancestorTexts text (limit + 1) =
      text :: (parentText? text).elim [] fun parent => ancestorTexts parent limit := by
  rw [ancestorTexts, ancestors_eq, ancestorsFrom, parentText?, List.map_cons, text_ofText]
  cases hq : (ofText text).parent? with
  | none => rfl
  | some q =>
      show text :: (ancestorsFrom limit q).map Path.text = text :: ancestorTexts q.text limit
      rw [ancestorTexts, ofText_parentText hq, ancestors_eq, ancestorsFrom_reread]

theorem ancestorTexts_head? (text : String) {limit : Nat} (h : 0 < limit) :
    (ancestorTexts text limit).head? = some text := by
  obtain ⟨count, rfl⟩ := Nat.exists_eq_add_one.mpr h
  rw [ancestorTexts_succ, List.head?_cons]

theorem ancestorTexts_length (text : String) (limit : Nat) :
    (ancestorTexts text limit).length = min limit ((ofText text).size + 1) := by
  induction limit generalizing text with
  | zero => rw [ancestorTexts_zero, List.length_nil, Nat.zero_min]
  | succ limit ih =>
      rw [ancestorTexts_succ, List.length_cons]
      cases hparent : parentText? text with
      | none =>
          rw [Option.elim_none, List.length_nil, size_of_parentText?_eq_none hparent]
          omega
      | some parent =>
          rw [Option.elim_some, ih, parentText?_size hparent]
          omega

theorem ancestorTexts_isChain (text : String) (limit : Nat) :
    (ancestorTexts text limit).IsChain fun t next => parentText? t = some next := by
  induction limit generalizing text with
  | zero =>
      rw [ancestorTexts_zero]
      exact .nil
  | succ limit ih =>
      rw [ancestorTexts_succ]
      cases hparent : parentText? text with
      | none => exact .singleton text
      | some parent =>
          rw [Option.elim_some, List.isChain_cons]
          refine ⟨fun next hnext => ?_, ih parent⟩
          cases limit with
          | zero =>
              rw [ancestorTexts_zero] at hnext
              cases hnext
          | succ limit =>
              rw [ancestorTexts_head? parent limit.succ_pos] at hnext
              rw [hparent, Option.mem_some_iff.mp hnext]

theorem prefix_of_mem_ancestorTexts {text t : String} {limit : Nat} (h : t ∈ ancestorTexts text limit) :
    t.toList <+: text.toList := by
  induction limit generalizing text with
  | zero =>
      rw [ancestorTexts_zero] at h
      cases h
  | succ limit ih =>
      rw [ancestorTexts_succ, List.mem_cons] at h
      rcases h with rfl | h
      · exact List.prefix_rfl
      · cases hparent : parentText? text with
        | none =>
            rw [hparent] at h
            cases h
        | some parent =>
            rw [hparent] at h
            exact (ih h).trans (parentText?_begins hparent)

theorem take_ancestorTexts (text : String) {limit more : Nat} (h : limit ≤ more) :
    (ancestorTexts text more).take limit = ancestorTexts text limit := by
  induction limit generalizing text more with
  | zero => rw [ancestorTexts_zero, List.take_zero]
  | succ limit ih =>
      obtain ⟨more, rfl⟩ := Nat.exists_eq_add_one.mpr (Nat.lt_of_lt_of_le limit.succ_pos h)
      rw [ancestorTexts_succ, ancestorTexts_succ, List.take_succ_cons]
      cases parentText? text with
      | none => rw [Option.elim_none, Option.elim_none, List.take_nil]
      | some parent => rw [Option.elim_some, Option.elim_some, ih parent (Nat.le_of_succ_le_succ h)]

/-- A chain that is not cut ends with a path that has no parent. -/
theorem ancestorTexts_getLast? (text : String) {limit : Nat} (h : (ofText text).size < limit) :
    ∃ top, (ancestorTexts text limit).getLast? = some top ∧ parentText? top = none ∧
      isAbsolute top = isAbsolute text := by
  induction limit generalizing text with
  | zero => cases h
  | succ limit ih =>
      rw [ancestorTexts_succ]
      cases hparent : parentText? text with
      | none => exact ⟨text, rfl, hparent, rfl⟩
      | some parent =>
          rw [parentText?_size hparent] at h
          obtain ⟨top, hlast, htop, habsolute⟩ := ih parent (Nat.lt_of_succ_lt_succ h)
          refine ⟨top, ?_, htop, habsolute.trans (parentText?_isAbsolute hparent)⟩
          rw [Option.elim_some, List.getLast?_cons, hlast, Option.getD_some]

/-- No two paths of a chain are the same, for each has fewer components than the ones before. -/
theorem componentsOf_ancestorTexts_nodup (text : String) (limit : Nat) :
    ((ancestorTexts text limit).map componentsOf).Nodup := by
  have hshorter : ((ancestorTexts text limit).map fun t => (componentsOf t).length).IsChain (· > ·) := by
    rw [List.isChain_map]
    refine (ancestorTexts_isChain text limit).imp fun t next hparent => ?_
    obtain ⟨last, hlast⟩ := parentText?_components hparent
    rw [hlast, List.length_append]
    exact Nat.lt_succ_self _
  have hlengths : (((ancestorTexts text limit).map componentsOf).map List.length).Nodup := by
    rw [List.map_map]
    exact hshorter.pairwise.imp ne_of_gt
  exact hlengths.of_map _

/-- The size of a path is the number of its components other than the root. -/
theorem size_ofText (text : String) : (ofText text).size = (componentsOf text).countP (· ≠ ['/']) := by
  have hnames : (ofText text).names.countP (· ≠ ['/']) = (ofText text).names.length := by
    rw [List.countP_eq_length]
    intro name hname
    have hslash : '/' ∉ name := slash_not_mem_segments (List.mem_of_mem_filter hname)
    rw [decide_eq_true_eq]
    rintro rfl
    exact hslash (List.mem_singleton_self '/')
  rw [size, componentsOf, components, List.countP_append, hnames, Nat.add_comm]
  cases (ofText text).start <;> rfl

/-- A path and its parents form a bounded chain. The chain begins with the text itself; each next text is found
in the one before it and has its components but the last; it is as long as its limit allows and no longer than
there are components, and one that is not cut ends with a path that has no parent: the root, in the
spelling that the text has for it, or the empty path. No path occurs twice, each is the beginning of the text,
and a chain with a lower limit is the beginning of one with a higher. -/
theorem ancestors_form_bounded_chain (text : String) (limit : Nat) :
    let chain := ancestorTexts text limit
    let count := (componentsOf text).countP (· ≠ ['/'])
    (0 < limit → chain.head? = some text) ∧
    chain.IsChain (fun t next => parentText? t = some next ∧
      ∃ last, componentsOf t = componentsOf next ++ [last]) ∧
    chain.length = min limit (1 + count) ∧
    (count < limit → ∃ top, chain.getLast? = some top ∧ parentText? top = none ∧
      if isAbsolute text then componentsOf top = [['/']] else top = "") ∧
    (chain.map componentsOf).Nodup ∧ chain.Nodup ∧
    (∀ t ∈ chain, t.toList <+: text.toList) ∧
    ∀ more, limit ≤ more → chain = (ancestorTexts text more).take limit := by
  intro chain count
  have hcount : (ofText text).size = count := size_ofText text
  have hdistinct : (chain.map componentsOf).Nodup := componentsOf_ancestorTexts_nodup text limit
  refine ⟨ancestorTexts_head? text, ?_, ?_, fun h => ?_, hdistinct, hdistinct.of_map _, fun t ht => ?_,
    fun more h => ?_⟩
  · exact (ancestorTexts_isChain text limit).imp fun t next h => ⟨h, parentText?_components h⟩
  · rw [ancestorTexts_length, hcount, Nat.add_comm]
  · obtain ⟨top, hlast, htop, habsolute⟩ := ancestorTexts_getLast? text (hcount ▸ h)
    exact ⟨top, hlast, htop, habsolute ▸ componentsOf_top htop⟩
  · exact prefix_of_mem_ancestorTexts ht
  · exact (take_ancestorTexts text h).symm

/-- What names nothing goes with the component behind it. -/
example : ancestorTexts "./a//b/./../c/." 9 = ["./a//b/./../c/.", "./a//b/./..", "./a//b", "./a", ".", ""] := by
  decide +kernel

end Path

end Nullability
