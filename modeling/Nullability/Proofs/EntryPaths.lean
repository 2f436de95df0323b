import Mathlib.Data.List.Induction
import Mathlib.Data.String.Basic
import Nullability.FileTree.Search

/-!
The names of entries and the paths that they make. An entry name is one segment of a path, so the path that
a search makes of the names that lead to an entry has the components of its root and then the names, and
the order of such paths is the lexicographic order of the names. Trees whose entries are named so, and lie
in directories, are the trees that a file system holds.
-/

namespace Nullability

/-- What an entry of a directory can be called. -/
def IsEntryName (name : String) : Prop := name ≠ "" ∧ name ≠ "." ∧ name ≠ ".." ∧ '/' ∉ name.toList

instance (name : String) : Decidable (IsEntryName name) := inferInstanceAs (Decidable (_ ∧ _))

/-- Each entry has a name for every step that leads to it, and lies in a directory. -/
def FileTree.WellFormed (t : FileTree) : Prop :=
  ∀ e ∈ t.entries, (∀ name ∈ e.1, IsEntryName name) ∧ t.isDirectory e.1.dropLast

instance (t : FileTree) : Decidable t.WellFormed := inferInstanceAs (Decidable (∀ e ∈ t.entries, _ ∧ _))

namespace FileTree.WellFormed

variable {t : FileTree}

theorem isEntryName (hw : t.WellFormed) {l : Location} (h : (t.get? l).isSome) :
    ∀ name ∈ l, IsEntryName name := by
  by_cases hl : l = []
  · subst hl
    exact fun name hname => absurd hname List.not_mem_nil
  · obtain ⟨e, he⟩ := Option.isSome_iff_exists.mp h
    exact (hw (l, e) ((get?_eq_some_iff hl).mp he)).1

/-- What leads to an entry are directories. -/
theorem isDirectory_above (hw : t.WellFormed) {l : Location} {names : List String} (hnames : names ≠ [])
    (h : (t.get? (l ++ names)).isSome) : t.isDirectory l := by
  induction names using List.reverseRecOn with
  | nil => exact absurd rfl hnames
  | append_singleton names name ih =>
      obtain ⟨e, he⟩ := Option.isSome_iff_exists.mp h
      have hparent := (hw _ ((get?_eq_some_iff (by simp)).mp he)).2
      rw [← List.append_assoc, List.dropLast_concat] at hparent
      by_cases hnil : names = []
      · rwa [hnil, List.append_nil] at hparent
      · exact ih hnil (Option.isSome_of_eq_some (isDirectory_iff.mp hparent))

theorem isSome_of_prefix (hw : t.WellFormed) {l : Location} {names step : List String}
    (h : (t.get? (l ++ names)).isSome) (hstep : step <+: names) : (t.get? (l ++ step)).isSome := by
  obtain ⟨rest, rfl⟩ := hstep
  by_cases hrest : rest = []
  · rwa [hrest, List.append_nil] at h
  · rw [← List.append_assoc] at h
    exact Option.isSome_of_eq_some (isDirectory_iff.mp (hw.isDirectory_above hrest h))

theorem of_perm {u : FileTree} (hw : t.WellFormed) (h : t.entries.Perm u.entries) : u.WellFormed := by
  intro e he
  obtain ⟨hnames, hdirectory⟩ := hw e (h.mem_iff.mpr he)
  refine ⟨hnames, ?_⟩
  rwa [isDirectory, get?_of_perm h] at hdirectory

end FileTree.WellFormed

/-- One path leads on from another by names: it starts from the same, and the names are its last
components. -/
structure Path.LeadsOn (root : String) (names : List String) (path : String) : Prop where
  start : (ofText path).start = (ofText root).start
  names : (ofText path).names = (ofText root).names ++ names.map String.toList

namespace IsEntryName

variable {name : String}

theorem toList_ne_nil (h : IsEntryName name) : name.toList ≠ [] := fun hnil =>
  h.1 (String.toList_inj.mp hnil)

theorem not_blank (h : IsEntryName name) : Path.isBlankSegment name.toList = false := by
  have hdot : name.toList ≠ ['.'] := fun hdot => h.2.1 (String.toList_inj.mp hdot)
  simp [Path.isBlankSegment, h.toList_ne_nil, hdot]

theorem not_absolute (h : IsEntryName name) : Path.isAbsolute name = false := by
  rw [Path.isAbsolute, decide_eq_false_iff_not]
  exact fun hhead => h.2.2.2 (List.mem_of_head? hhead)

theorem rank (h : IsEntryName name) : Path.componentRank name.toList = 1 :=
  if_neg fun hdots => h.2.2.1 (String.toList_inj.mp hdots)

end IsEntryName

namespace Path

/-! ### Components of joined paths -/

theorem names_ofChars (cs : List Char) :
    (ofChars cs).names = (splitSlashes cs).filter (!isBlankSegment ·) := by
  unfold ofChars
  split <;> simp [names, splitSlashes, Text.pieces, isBlankSegment]

/-- What a path starts from is read off what stands before a slash. -/
theorem start_append_slash {cs : List Char} (h : cs ≠ []) (rest : List Char) :
    (ofChars (cs ++ '/' :: rest)).start = (ofChars cs).start := by
  match cs with
  | [] => exact absurd rfl h
  | [c] =>
      by_cases hslash : c = '/'
      · simp [hslash, ofChars]
      · by_cases hdot : c = '.' <;> simp [hslash, hdot, ofChars]
  | c :: d :: cs =>
      by_cases hslash : c = '/'
      · simp [hslash, ofChars]
      · by_cases hdot : c = '.'
        · by_cases hd : d = '/' <;> simp [hdot, hd, ofChars]
        · simp [hslash, hdot, ofChars]

theorem names_append_slash (cs rest : List Char) :
    (ofChars (cs ++ '/' :: rest)).names =
      (ofChars cs).names ++ (splitSlashes rest).filter (!isBlankSegment ·) := by
  rw [names_ofChars, names_ofChars, splitSlashes, Text.pieces_append, List.filter_append]
  rfl

theorem LeadsOn.refl (root : String) : LeadsOn root [] root := ⟨rfl, (List.append_nil _).symm⟩

theorem LeadsOn.trans {root middle path : String} {names rest : List String}
    (h : LeadsOn root names middle) (hrest : LeadsOn middle rest path) :
    LeadsOn root (names ++ rest) path where
  start := hrest.start.trans h.start
  names := by rw [hrest.names, h.names, List.map_append, List.append_assoc]

/-- A path leads on from another by one list of names. -/
theorem LeadsOn.names_eq {root path : String} {xs ys : List String} (hxs : LeadsOn root xs path)
    (hys : LeadsOn root ys path) : xs = ys := by
  have hmap : xs.map String.toList = ys.map String.toList :=
    List.append_cancel_left (hxs.names.symm.trans hys.names)
  exact (List.map_inj_right fun _ _ => String.toList_inj.mp).mp hmap

theorem join_of_final_slash {base name : String} (hname : IsEntryName name)
    (hlast : base.toList.getLast? = some '/') : join base name = base ++ name := by
  rw [join, hname.not_absolute, hlast]
  simp

theorem join_of_no_final_slash {base name : String} (hbase : base ≠ "") (hname : IsEntryName name)
    (hlast : base.toList.getLast? ≠ some '/') : join base name = base ++ "/" ++ name := by
  rw [join, hname.not_absolute]
  simp [hbase, hlast]

theorem LeadsOn.join {base name : String} (hbase : base ≠ "") (hname : IsEntryName name) :
    LeadsOn base [name] (join base name) := by
  have hsegment : (splitSlashes name.toList).filter (!isBlankSegment ·) = [name].map String.toList := by
    rw [splitSlashes, Text.pieces_of_not_mem hname.2.2.2]
    simp [hname.not_blank]
  by_cases hlast : base.toList.getLast? = some '/'
  · obtain ⟨body, hbody⟩ := List.getLast?_eq_some_iff.mp hlast
    have htext : (base ++ name).toList = body ++ '/' :: name.toList := by
      rw [String.toList_append, hbody, List.append_assoc]
      rfl
    have hnothing : (splitSlashes []).filter (!isBlankSegment ·) = [] := rfl
    rw [join_of_final_slash hname hlast]
    constructor
    · rw [ofText, ofText, htext, hbody]
      by_cases hempty : body = []
      · subst hempty
        rfl
      · rw [start_append_slash hempty, start_append_slash hempty]
    · rw [ofText, ofText, htext, hbody, names_append_slash, names_append_slash, hsegment, hnothing,
        List.append_nil]
  · have htext : (base ++ "/" ++ name).toList = base.toList ++ '/' :: name.toList := by
      rw [String.toList_append, String.toList_append, List.append_assoc]
      rfl
    have hchars : base.toList ≠ [] := fun hnil => hbase (String.toList_inj.mp hnil)
    rw [join_of_no_final_slash hbase hname hlast]
    constructor
    · rw [ofText, ofText, htext, start_append_slash hchars]
    · rw [ofText, ofText, htext, names_append_slash, hsegment]

theorem join_ne_empty {base name : String} (hbase : base ≠ "") (hname : IsEntryName name) :
    Path.join base name ≠ "" := by
  by_cases hlast : base.toList.getLast? = some '/'
  · rw [join_of_final_slash hname hlast]
    simp [hbase]
  · rw [join_of_no_final_slash hbase hname hlast]
    simp [hbase]

end Path

/-- A search makes of names a path that leads on from its root by these names. -/
theorem FileTree.SearchRoot.pathOf_leadsOn {root : String} (hroot : root ≠ "") (l : Location)
    {names : List String} (hnames : ∀ name ∈ names, IsEntryName name) :
    Path.LeadsOn root names ((⟨root, l⟩ : SearchRoot).pathOf names) := by
  induction names generalizing root with
  | nil => exact .refl root
  | cons name rest ih =>
      rw [List.forall_mem_cons] at hnames
      have hrest := ih (Path.join_ne_empty hroot hnames.1) hnames.2
      exact (Path.LeadsOn.join hroot hnames.1).trans hrest

namespace Path

/-! ### The order of paths -/

theorem namesLe_append (base xs ys : List (List Char)) :
    namesLe (base ++ xs) (base ++ ys) = namesLe xs ys := by
  induction base with
  | nil => rfl
  | cons a base ih => rw [List.cons_append, List.cons_append, namesLe, if_pos rfl, ih]

private theorem nil_le {α : Type} [LinearOrder α] (as : List α) : [] ≤ as := not_lt.mp (List.not_lt_nil as)

private theorem cons_le_cons_iff {α : Type} [LinearOrder α] {a b : α} {as bs : List α} :
    a :: as ≤ b :: bs ↔ a < b ∨ a = b ∧ as ≤ bs := by
  rw [← not_lt, List.cons_lt_cons_iff, not_or, not_and, not_lt, not_lt]
  rcases lt_trichotomy a b with h | h | h
  · simp [h, h.le, h.ne']
  · simp [h]
  · simp [h.not_ge, h.not_gt, h.ne']

theorem charsLe_iff {cs ds : List Char} : Text.charsLe cs ds ↔ cs ≤ ds := by
  induction cs generalizing ds with
  | nil => simp [Text.charsLe, nil_le]
  | cons c cs ih =>
      cases ds with
      | nil => simp [Text.charsLe]
      | cons d ds =>
          rw [Text.charsLe, cons_le_cons_iff, ← ih]
          by_cases h : c = d
          · simp [h]
          · have hlt : c.toNat < d.toNat ↔ c < d := Iff.rfl
            simp [h, hlt]

theorem namesLe_eq_le {xs ys : List String} (hxs : ∀ x ∈ xs, IsEntryName x) (hys : ∀ y ∈ ys, IsEntryName y) :
    namesLe (xs.map String.toList) (ys.map String.toList) = decide (xs ≤ ys) := by
  induction xs generalizing ys with
  | nil => simp [namesLe, nil_le]
  | cons x xs ih =>
      cases ys with
      | nil => simp [namesLe]
      | cons y ys =>
          rw [List.forall_mem_cons] at hxs hys
          rw [List.map_cons, List.map_cons, namesLe, ih hxs.2 hys.2, hxs.1.rank, hys.1.rank]
          by_cases h : x = y
          · simp [h, cons_le_cons_iff]
          · have hle : Text.charsLe x.toList y.toList = decide (x < y) := by
              rw [Bool.eq_iff_iff, charsLe_iff, ← String.le_iff_toList_le, decide_eq_true_eq]
              exact Ne.le_iff_lt h
            simp [h, String.toList_inj, cons_le_cons_iff, hle]

/-- Paths that lead on from one root are in the order of the names by which they do. -/
theorem LeadsOn.le_eq {root p q : String} {xs ys : List String} (hp : LeadsOn root xs p)
    (hq : LeadsOn root ys q) (hxs : ∀ x ∈ xs, IsEntryName x) (hys : ∀ y ∈ ys, IsEntryName y) :
    (ofText p).le (ofText q) = decide (xs ≤ ys) := by
  rw [le, if_pos (hp.start.trans hq.start.symm), hp.names, hq.names, namesLe_append, namesLe_eq_le hxs hys]

end Path

/-! ### Names of source files -/

theorem IsEntryName.segments {name : String} (h : IsEntryName name) :
    (Path.ofText name).segments = [name.toList] := by
  have hslash := h.2.2.2
  have hdot : name.toList ≠ ['.'] := fun hdot => h.2.1 (String.toList_inj.mp hdot)
  rw [Path.ofText]
  generalize name.toList = cs at hslash hdot
  unfold Path.ofChars
  split
  · simp at hslash
  · exact absurd rfl hdot
  · simp at hslash
  · exact Text.pieces_of_not_mem hslash

theorem IsEntryName.fileName? {name : String} (h : IsEntryName name) :
    (Path.ofText name).fileName? = some name.toList := by
  have hdots : name.toList ≠ ['.', '.'] := fun hdots => h.2.2.1 (String.toList_inj.mp hdots)
  rw [Path.fileName?, h.segments]
  simp [Path.dropBlank, h.not_blank, hdots]

/-- What stands before the first dot of a text with more behind it. -/
theorem takeWhile_not_dot_iff {cs mark : List Char} (hmark : '.' ∉ mark) :
    cs.takeWhile (· != '.') = mark ∧ cs.drop (mark.length + 1) ≠ [] ↔
      ∃ more, more ≠ [] ∧ cs = mark ++ '.' :: more := by
  induction mark generalizing cs with
  | nil =>
      cases cs with
      | nil => simp
      | cons c cs => by_cases hdot : c = '.' <;> simp [hdot]
  | cons a mark ih =>
      rw [List.mem_cons, not_or] at hmark
      cases cs with
      | nil => simp
      | cons c cs =>
          by_cases hdot : c = '.'
          · simp [hdot, hmark.1]
          · by_cases ha : c = a
            · simpa [ha, Ne.symm hmark.1] using ih hmark.2
            · simp [hdot, ha]

theorem Path.extension?_eq_some_iff {name : String} (h : IsEntryName name) {extension : List Char}
    (hextension : '.' ∉ extension) :
    (ofText name).extension? = some extension ↔
      ∃ stem, stem ≠ [] ∧ name.toList = stem ++ '.' :: extension := by
  have hmark : '.' ∉ extension.reverse := by simpa using hextension
  have hreversed : (ofText name).extension? = some extension ↔
      name.toList.reverse.takeWhile (· != '.') = extension.reverse ∧
        name.toList.reverse.drop (extension.reverse.length + 1) ≠ [] := by
    simp only [extension?, h.fileName?, Option.bind_eq_bind, Option.bind_some, Option.ite_none_left_eq_some,
      List.isEmpty_iff, Option.some.injEq, List.reverse_eq_iff]
    rw [and_comm]
    exact and_congr_right fun hafter => by rw [hafter]
  rw [hreversed, takeWhile_not_dot_iff hmark]
  constructor
  · rintro ⟨more, hmore, heq⟩
    refine ⟨more.reverse, by simpa using hmore, ?_⟩
    rw [List.reverse_eq_iff] at heq
    simp [heq]
  · rintro ⟨stem, hstem, heq⟩
    exact ⟨stem.reverse, by simpa using hstem, by simp [heq]⟩

theorem FileTree.isSourceName_iff {name : String} (h : IsEntryName name) :
    isSourceName name ↔ ∃ stem, stem ≠ "" ∧ name = stem ++ ".rs" := by
  have hchars (stem : String) : (stem ++ ".rs").toList = stem.toList ++ ['.', 'r', 's'] :=
    String.toList_append
  rw [isSourceName, decide_eq_true_eq, Path.extension?_eq_some_iff h (by decide)]
  constructor
  · rintro ⟨stem, hstem, hname⟩
    refine ⟨String.ofList stem, ?_, String.toList_inj.mp ?_⟩
    · simpa using hstem
    · rw [hname, hchars, String.toList_ofList]
  · rintro ⟨stem, hstem, rfl⟩
    exact ⟨stem.toList, by simpa using hstem, hchars stem⟩

end Nullability
