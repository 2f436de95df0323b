import Nullability.Proofs.PlacePaths

/-!
What a rule file is asked about. The path of an entry is matched against the rules of a directory without the
path of the directory, and both lose a dot and a slash at their start before that. What is left are the names
that lead from the directory to the entry, unless the root of the search begins with two dots and slashes:
then one of them stays.
-/

namespace Nullability

namespace Path

/-- A path as it stands before a name that is joined to it. -/
def opened (base : List Char) : List Char :=
  if base = [] ∨ base.getLast? = some '/' then base else base ++ ['/']

theorem opened_cons {c : Char} {base : List Char} (hne : base ≠ []) :
    opened (c :: base) = c :: opened base := by
  rw [opened, opened, List.getLast?_cons_of_ne_nil hne]
  by_cases h : base.getLast? = some '/' <;> simp [h, hne]

theorem opened_append_name (front : List Char) {name : String} (h : IsEntryName name) :
    opened (front ++ name.toList) = front ++ name.toList ++ ['/'] := by
  rw [opened, if_neg]
  rw [List.getLast?_append_of_ne_nil front h.toList_ne_nil, List.append_eq_nil_iff]
  rintro (⟨-, hnil⟩ | hlast)
  · exact h.toList_ne_nil hnil
  · exact h.2.2.2 (List.mem_of_getLast? hlast)

/-- The slash put behind a path makes only the dot begin with a dot and a slash. -/
theorem prefix_of_prefix_opened {base : List Char} (hbase : base ≠ ['.']) (h : ['.', '/'] <+: opened base) :
    ['.', '/'] <+: base := by
  rw [opened] at h
  split at h
  · exact h
  · rcases List.prefix_concat_iff.mp h with heq | hprefix
    · have hdot : base = ['.'] := (List.append_inj_left' heq rfl).symm
      exact absurd hdot hbase
    · exact hprefix

theorem prefix_opened (base : List Char) : base <+: opened base := by
  rw [opened]
  split
  · exact List.prefix_rfl
  · exact List.prefix_append base ['/']

/-- What stands before a joined name is empty or ends in a slash. -/
theorem opened_ends (base : List Char) : opened base = [] ∨ (opened base).getLast? = some '/' := by
  rw [opened]
  split
  · next h => exact h
  · exact Or.inr List.getLast?_concat

theorem join_chars (base : String) {name : String} (hname : IsEntryName name) :
    (join base name).toList = opened base.toList ++ name.toList := by
  by_cases hbase : base = ""
  · subst hbase
    rw [join, hname.not_absolute]
    simp [opened]
  · have hchars : base.toList ≠ [] := fun hnil => hbase (String.toList_inj.mp hnil)
    by_cases hlast : base.toList.getLast? = some '/'
    · rw [join_of_final_slash hname hlast, opened, if_pos (Or.inr hlast), String.toList_append]
    · rw [join_of_no_final_slash hbase hname hlast, opened, if_neg (by simp [hchars, hlast])]
      simp

theorem joinSlashes_cons (name : String) (names : List String) :
    ∃ rest, joinSlashes ((name :: names).map String.toList) = name.toList ++ rest := by
  cases names with
  | nil => exact ⟨[], (List.append_nil _).symm⟩
  | cons next names => exact ⟨'/' :: joinSlashes ((next :: names).map String.toList), rfl⟩

/-- Joining names one by one puts a slash before each of them but the first, and before that one unless one
is there. -/
theorem foldl_join_chars (base : String) {names : List String} (hne : names ≠ [])
    (hnames : ∀ name ∈ names, IsEntryName name) :
    (names.foldl join base).toList = opened base.toList ++ joinSlashes (names.map String.toList) := by
  induction names generalizing base with
  | nil => exact absurd rfl hne
  | cons name names ih =>
      rw [List.forall_mem_cons] at hnames
      cases names with
      | nil => exact join_chars base hnames.1
      | cons next names =>
          calc ((name :: next :: names).foldl join base).toList
              = ((next :: names).foldl join (join base name)).toList := rfl
            _ = opened (opened base.toList ++ name.toList) ++
                  joinSlashes ((next :: names).map String.toList) := by
                rw [ih (join base name) (List.cons_ne_nil next names) hnames.2, join_chars base hnames.1]
            _ = opened base.toList ++ joinSlashes ((name :: next :: names).map String.toList) := by
                rw [opened_append_name _ hnames.1]
                simp [joinSlashes, Text.joinPieces]

theorem start_eq_here {cs : List Char} (h : (ofChars cs).start = .here) :
    cs = ['.'] ∨ ∃ rest, cs = '.' :: '/' :: rest := by
  unfold ofChars at h
  split at h
  · cases h
  · exact Or.inl rfl
  · exact Or.inr ⟨_, rfl⟩
  · cases h

end Path

/-! ### Without the directory -/

namespace FileTree.Level

open Nullability.Path

theorem dropHere_eq_self_iff {cs : List Char} : dropHere cs = cs ↔ ¬['.', '/'] <+: cs := by
  unfold dropHere
  split
  · next rest =>
      refine iff_of_false (fun heq => ?_) (not_not_intro (List.prefix_append ['.', '/'] rest))
      exact absurd (congrArg List.length heq) (Nat.ne_of_lt (Nat.lt_add_of_pos_right Nat.two_pos))
  · next hother => exact iff_of_true rfl fun ⟨rest, hrest⟩ => hother rest hrest.symm

theorem not_here_of_name {name : String} (h : IsEntryName name) (rest : List Char) :
    ¬['.', '/'] <+: name.toList ++ rest := by
  have hslash := h.2.2.2
  have hdot : name.toList ≠ ['.'] := fun hdot => h.2.1 (String.toList_inj.mp hdot)
  match hname : name.toList with
  | [] => exact absurd hname h.toList_ne_nil
  | [c] =>
      intro hprefix
      rw [List.singleton_append, List.cons_prefix_cons] at hprefix
      exact hdot (by rw [hname, hprefix.1])
  | c :: d :: cs =>
      intro hprefix
      rw [List.cons_append, List.cons_append, List.cons_prefix_cons, List.cons_prefix_cons] at hprefix
      exact hslash (by simp [hname, ← hprefix.2.1])

theorem dropSlash_of_name {name : String} (h : IsEntryName name) (rest : List Char) :
    dropSlash (name.toList ++ rest) = name.toList ++ rest := by
  have hslash := h.2.2.2
  match hname : name.toList with
  | [] => exact absurd hname h.toList_ne_nil
  | c :: cs =>
      rw [hname, List.mem_cons, not_or] at hslash
      rw [List.cons_append, dropSlash]
      rintro _ ⟨rfl, -⟩
      exact hslash.1 rfl

/-- A dot and a slash at the start of a path stand before a name that is joined to it. -/
theorem here_prefix_of_append {front rest : List Char} (hfront : front = [] ∨ front.getLast? = some '/')
    (hrest : ¬['.', '/'] <+: rest) (h : ['.', '/'] <+: front ++ rest) : ['.', '/'] <+: front := by
  rcases hfront with rfl | hlast
  · exact absurd h hrest
  · match front with
    | [c] =>
        obtain rfl : c = '/' := Option.some.inj hlast
        rw [List.singleton_append, List.cons_prefix_cons] at h
        exact absurd h.1 (by decide)
    | c :: d :: front =>
        exact List.prefix_of_prefix_length_le h (List.prefix_append _ rest) (Nat.le_add_left 2 front.length)

theorem dropHere_append {front rest : List Char} (hfront : front = [] ∨ front.getLast? = some '/')
    (hrest : ¬['.', '/'] <+: rest) : dropHere (front ++ rest) = dropHere front ++ rest := by
  by_cases h : ['.', '/'] <+: front
  · obtain ⟨front, rfl⟩ := h
    rfl
  · rw [dropHere_eq_self_iff.mpr h,
      dropHere_eq_self_iff.mpr fun happend => h (here_prefix_of_append hfront hrest happend)]

theorem dropHere_ends {front : List Char} (h : front = [] ∨ front.getLast? = some '/') :
    dropHere front = [] ∨ (dropHere front).getLast? = some '/' := by
  unfold dropHere
  split
  · next rest =>
      by_cases hrest : rest = []
      · exact Or.inl hrest
      · rw [List.getLast?_cons_of_ne_nil (List.cons_ne_nil '/' rest),
          List.getLast?_cons_of_ne_nil hrest] at h
        exact Or.inr (h.resolve_left (List.cons_ne_nil _ _))
  · exact h

theorem dropHere_opened {base : List Char} (h : base ≠ ['.']) :
    dropHere (opened base) = opened (dropHere base) := by
  by_cases hstart : ['.', '/'] <+: base
  · obtain ⟨rest, rfl⟩ := hstart
    by_cases hrest : rest = []
    · rw [hrest]
      rfl
    · have hopened : opened (['.', '/'] ++ rest) = '.' :: '/' :: opened rest := by
        rw [List.cons_append, List.cons_append, List.nil_append, opened_cons (List.cons_ne_nil '/' rest),
          opened_cons hrest]
      rw [hopened]
      rfl
  · rw [dropHere_eq_self_iff.mpr hstart,
      dropHere_eq_self_iff.mpr fun hopened => hstart (prefix_of_prefix_opened h hopened)]

/-- With a slash behind, a path begins with two dots and slashes. -/
def BeginsTwice (base : List Char) : Prop := ['.', '/', '.', '/'] <+: opened base

instance (base : List Char) : Decidable (BeginsTwice base) := inferInstanceAs (Decidable (_ <+: _))

theorem dropHere_dropHere_opened {base : List Char} (h : ¬BeginsTwice base) :
    dropHere (dropHere (opened base)) = dropHere (opened base) := by
  by_cases hstart : ['.', '/'] <+: opened base
  · obtain ⟨rest, hrest⟩ := hstart
    rw [← hrest]
    refine dropHere_eq_self_iff.mpr fun hagain => h ?_
    rw [BeginsTwice, ← hrest]
    exact (List.prefix_append_right_inj ['.', '/']).mpr hagain
  · rw [dropHere_eq_self_iff.mpr hstart, dropHere_eq_self_iff.mpr hstart]

/-- A name joined to a path does not make it begin with two dots and slashes. -/
theorem not_beginsTwice_join {base name : String} (h : ¬BeginsTwice base.toList) (hname : IsEntryName name) :
    ¬BeginsTwice (join base name).toList := by
  rw [BeginsTwice] at h ⊢
  rw [join_chars base hname, opened_append_name _ hname, List.append_assoc]
  intro htwice
  have hbehind := not_here_of_name hname ['/']
  have hends := opened_ends base.toList
  have hfirst : ['.', '/'] <+: opened base.toList :=
    here_prefix_of_append hends hbehind ((List.prefix_append ['.', '/'] ['.', '/']).trans htwice)
  obtain ⟨rest, hrest⟩ := hfirst
  rw [← hrest] at h hends htwice
  rw [List.append_assoc] at htwice
  have hsecond : ['.', '/'] <+: rest :=
    here_prefix_of_append (dropHere_ends hends) hbehind ((List.prefix_append_right_inj ['.', '/']).mp htwice)
  exact h ((List.prefix_append_right_inj ['.', '/']).mpr hsecond)

theorem not_beginsTwice_foldl_join {base : String} (h : ¬BeginsTwice base.toList) {names : List String}
    (hnames : ∀ name ∈ names, IsEntryName name) : ¬BeginsTwice (names.foldl join base).toList := by
  induction names generalizing base with
  | nil => exact h
  | cons name names ih =>
      rw [List.forall_mem_cons] at hnames
      exact ih (not_beginsTwice_join h hnames.1) hnames.2

theorem here_prefix_of_isHere {cs : List Char} (h : isHere cs) : ['.', '/'] <+: opened cs := by
  rw [isHere, Bool.and_eq_true, decide_eq_true_eq] at h
  rcases start_eq_here h.1 with rfl | ⟨rest, rfl⟩
  · exact List.prefix_rfl
  · exact (List.prefix_append ['.', '/'] rest).trans (prefix_opened _)

theorem dropSlash_drop_opened (base : List Char) {rest : List Char} (hrest : dropSlash rest = rest) :
    dropSlash ((opened base ++ rest).drop base.length) = rest := by
  rw [opened]
  split
  · rw [List.drop_left, hrest]
  · rw [List.append_assoc, List.drop_left]
    rfl

/-- Below a directory the path of an entry is what is joined to the path of the directory. -/
theorem below_opened {directory path rest : List Char} (hhere : isHere (dropHere directory) = false)
    (hpath : dropHere path = opened (dropHere directory) ++ rest) (hrest : dropSlash rest = rest) :
    below directory path = rest := by
  have hprefix : (dropHere directory).isPrefixOf (opened (dropHere directory) ++ rest) = true :=
    List.isPrefixOf_iff_prefix.mpr ((prefix_opened _).trans (List.prefix_append _ rest))
  simp only [below, hhere, hpath, hprefix, dropSlash_drop_opened _ hrest]
  by_cases hslash : (opened (dropHere directory) ++ rest).contains '/'
  · rw [hslash]
    rfl
  · have hopened : opened (dropHere directory) = [] := by
      refine (opened_ends (dropHere directory)).resolve_right fun hlast => hslash ?_
      rw [List.contains_iff_mem]
      exact List.mem_append_left rest (List.mem_of_getLast? hlast)
    simp [hopened]

/-- What is joined to the path of a directory is what is left of it below the directory. -/
theorem below_joined {directory inner : List Char} (hdirectory : ¬BeginsTwice directory)
    (hhere : ¬['.', '/'] <+: inner) (hslash : dropSlash inner = inner) :
    below directory (dropHere (opened directory ++ inner)) = inner := by
  by_cases hdot : directory = ['.']
  · subst hdot
    show dropHere inner = inner
    exact dropHere_eq_self_iff.mpr hhere
  · have hopened := dropHere_dropHere_opened hdirectory
    rw [dropHere_opened hdot] at hopened
    refine below_opened ?_ ?_ hslash
    · rw [← Bool.not_eq_true]
      exact fun h => dropHere_eq_self_iff.mp hopened (here_prefix_of_isHere h)
    · rw [dropHere_append (opened_ends directory) hhere, dropHere_opened hdot,
        dropHere_append (opened_ends _) hhere, hopened]

end FileTree.Level

namespace FileTree.SearchRoot

variable {r : SearchRoot}

theorem pathOf_append (r : SearchRoot) (before names : List String) :
    r.pathOf (before ++ names) = names.foldl Path.join (r.pathOf before) := List.foldl_append

/-- Below the directory to which some names lead, the path of what further names lead to from there is these
names with slashes between them. -/
theorem below_pathOf (hroot : ¬Level.BeginsTwice r.text.toList) {before names : List String} (hne : names ≠ [])
    (hnames : ∀ name ∈ before ++ names, IsEntryName name) :
    String.ofList (Level.below (r.pathOf before).toList (Level.dropHere (r.pathOf (before ++ names)).toList)) =
      "/".intercalate names := by
  rw [List.forall_mem_append] at hnames
  have hdirectory : ¬Level.BeginsTwice (r.pathOf before).toList :=
    Level.not_beginsTwice_foldl_join hroot hnames.1
  obtain ⟨name, others, rfl⟩ := List.exists_cons_of_ne_nil hne
  have hname : IsEntryName name := hnames.2 name List.mem_cons_self
  obtain ⟨rest, hrest⟩ := Path.joinSlashes_cons name others
  rw [← String.toList_inj, String.toList_ofList, Path.toList_intercalate_slash, pathOf_append,
    Path.foldl_join_chars _ hne hnames.2, hrest]
  exact Level.below_joined hdirectory (Level.not_here_of_name hname rest) (Level.dropSlash_of_name hname rest)

end FileTree.SearchRoot

end Nullability
