import Mathlib.Data.List.Nodup
import Mathlib.Data.List.Sort
import Nullability.Proofs.EntryPaths

/-!
What a search for source files comes to. The walk goes down from the root of the search and comes to an entry
exactly when no entry on the way is skipped, to each entry once; the height of the tree leaves it enough
steps. A search that comes to no directory with a path that is too long returns the paths of the source files
that it comes to, in the lexicographic order of the names that lead to them, so they do not depend on the
order in which directories list their entries.
-/

namespace Nullability.FileTree

variable {t u : FileTree} {r : SearchRoot}

/-- A search goes on from a directory, by names, to an entry. -/
inductive Reaches (t : FileTree) (r : SearchRoot) (e : Entry) : List String → List String → Prop
  | entry {here : List String} {name : String} (hentry : t.get? (r.location ++ here ++ [name]) = some e)
      (hpass : t.isSkipped r (here ++ [name]) e.isDirectory = false) : Reaches t r e here [name]
  | further {here rest : List String} {name : String}
      (hdirectory : t.get? (r.location ++ here ++ [name]) = some .directory)
      (hpass : t.isSkipped r (here ++ [name]) true = false) (hrest : Reaches t r e (here ++ [name]) rest) :
      Reaches t r e here (name :: rest)

/-- Whether a search skips an entry below its root. -/
def skips (t : FileTree) (r : SearchRoot) (names : List String) : Bool :=
  t.isSkipped r names (t.isDirectory (r.location ++ names))

/-! ### The walk -/

theorem Reaches.ne_nil {e : Entry} {here rest : List String} (h : t.Reaches r e here rest) : rest ≠ [] := by
  cases h <;> exact List.cons_ne_nil _ _

/-- One step of the walk: it comes to an entry that is not skipped, and if that is a directory, to what is
below it. -/
theorem mem_visit {below : List String → List (List String × Entry)} {here names : List String}
    {name : String} {e found : Entry} :
    (names, found) ∈ t.visit r below here (name, e) ↔
      t.isSkipped r (here ++ [name]) e.isDirectory = false ∧
        (names = here ++ [name] ∧ found = e ∨ e = .directory ∧ (names, found) ∈ below (here ++ [name])) := by
  by_cases hpass : t.isSkipped r (here ++ [name]) e.isDirectory = false
  · cases e <;> simp_all [visit, Entry.isDirectory]
  · simp [visit, hpass]

/-- The walk comes to the entries that can be reached by no more names than it goes down. -/
theorem mem_walk {depth : Nat} {here names : List String} {e : Entry} :
    (names, e) ∈ t.walk r depth here ↔
      ∃ rest, names = here ++ rest ∧ rest.length ≤ depth ∧ t.Reaches r e here rest := by
  induction depth generalizing here with
  | zero =>
      constructor
      · intro h
        cases h
      · rintro ⟨rest, -, hlength, hrest⟩
        exact absurd (List.eq_nil_of_length_eq_zero (Nat.le_zero.mp hlength)) hrest.ne_nil
  | succ depth ih =>
      rw [walk, List.mem_flatMap]
      constructor
      · rintro ⟨⟨name, entry⟩, hlisted, hvisit⟩
        rw [mem_listing] at hlisted
        obtain ⟨hpass, ⟨rfl, rfl⟩ | ⟨rfl, hbelow⟩⟩ := mem_visit.mp hvisit
        · exact ⟨[name], rfl, by simp, .entry hlisted hpass⟩
        · obtain ⟨rest, rfl, hlength, hrest⟩ := ih.mp hbelow
          refine ⟨name :: rest, List.append_assoc here [name] rest, ?_, .further hlisted hpass hrest⟩
          exact Nat.succ_le_succ hlength
      · rintro ⟨rest, rfl, hlength, hrest⟩
        cases hrest with
        | @entry _ name hentry hpass =>
            exact ⟨(name, e), mem_listing.mpr hentry, mem_visit.mpr ⟨hpass, Or.inl ⟨rfl, rfl⟩⟩⟩
        | @further _ rest name hdirectory hpass hrest =>
            have hbelow : (here ++ name :: rest, e) ∈ t.walk r depth (here ++ [name]) :=
              ih.mpr ⟨rest, List.append_cons here name rest, Nat.le_of_succ_le_succ hlength, hrest⟩
            exact ⟨(name, .directory), mem_listing.mpr hdirectory,
              mem_visit.mpr ⟨hpass, Or.inr ⟨rfl, hbelow⟩⟩⟩

/-- What the walk comes to by an entry is the entry or goes on from it. -/
theorem prefix_of_mem_visit {depth : Nat} {here names : List String} {name : String} {e found : Entry}
    (h : (names, found) ∈ t.visit r (t.walk r depth) here (name, e)) : here ++ [name] <+: names := by
  obtain ⟨-, ⟨rfl, -⟩ | ⟨-, hbelow⟩⟩ := mem_visit.mp h
  · exact List.prefix_rfl
  · obtain ⟨rest, rfl, -, -⟩ := mem_walk.mp hbelow
    exact List.prefix_append (here ++ [name]) rest

theorem visit_nodup {below : List String → List (List String × Entry)} {here : List String} {name : String}
    {e : Entry} (hbelow : ((below (here ++ [name])).map Prod.fst).Nodup)
    (hhere : here ++ [name] ∉ (below (here ++ [name])).map Prod.fst) :
    ((t.visit r below here (name, e)).map Prod.fst).Nodup := by
  rw [visit]
  split
  · exact List.nodup_nil
  · cases e with
    | file content => exact List.nodup_singleton _
    | directory => exact List.nodup_cons.mpr ⟨hhere, hbelow⟩

/-- The walk comes to each entry once. -/
theorem walk_nodup (t : FileTree) (r : SearchRoot) (depth : Nat) (here : List String) :
    ((t.walk r depth here).map Prod.fst).Nodup := by
  induction depth generalizing here with
  | zero => exact List.nodup_nil
  | succ depth ih =>
      rw [walk, List.map_flatMap, List.nodup_flatMap]
      constructor
      · rintro ⟨name, e⟩ -
        refine visit_nodup (ih (here ++ [name])) fun hmem => ?_
        obtain ⟨⟨names, found⟩, hwalk, hnames⟩ := List.mem_map.mp hmem
        obtain ⟨rest, hrest, -, hreaches⟩ := mem_walk.mp hwalk
        exact hreaches.ne_nil (List.append_right_eq_self.mp (hrest.symm.trans hnames))
      · refine (List.pairwise_map.mp (t.listing_nodup (r.location ++ here))).imp ?_
        rintro ⟨name, e⟩ ⟨name', e'⟩ hne names hnames hnames'
        obtain ⟨⟨_, found⟩, hvisit, rfl⟩ := List.mem_map.mp hnames
        obtain ⟨⟨_, found'⟩, hvisit', rfl⟩ := List.mem_map.mp hnames'
        have hprefix := prefix_of_mem_visit hvisit
        have hprefix' := prefix_of_mem_visit hvisit'
        have heq := (List.prefix_of_prefix_length_le hprefix hprefix' (by simp)).eq_of_length (by simp)
        exact hne (by simpa using heq)

/-! ### The entries that a search comes to -/

theorem Reaches.get?_eq {e : Entry} {here rest : List String} (h : t.Reaches r e here rest) :
    t.get? (r.location ++ here ++ rest) = some e := by
  induction h with
  | entry hentry => exact hentry
  | further _ _ _ ih => simpa using ih

theorem Reaches.isEntryName (hw : t.WellFormed) {e : Entry} {here rest : List String}
    (h : t.Reaches r e here rest) : ∀ name ∈ rest, IsEntryName name := by
  intro name hname
  exact hw.isEntryName (Option.isSome_of_eq_some h.get?_eq) name (List.mem_append_right _ hname)

/-- The height of the tree is enough. -/
theorem mem_walk_height {names : List String} {e : Entry} :
    (names, e) ∈ t.walk r t.height [] ↔ t.Reaches r e [] names := by
  rw [mem_walk]
  constructor
  · rintro ⟨rest, rfl, -, hrest⟩
    exact hrest
  · intro h
    have hheight := length_le_height (Option.isSome_of_eq_some h.get?_eq)
    refine ⟨names, rfl, ?_, h⟩
    simp only [List.length_append] at hheight
    omega

/-- The source files that a search comes to, in the order of the names that lead to them. -/
def found (t : FileTree) (r : SearchRoot) : List (List String) :=
  (((t.walk r t.height []).filter r.isSource).map Prod.fst).mergeSort fun xs ys => decide (xs ≤ ys)

theorem found_nodup (t : FileTree) (r : SearchRoot) : (t.found r).Nodup := by
  have hwalk := t.walk_nodup r t.height []
  exact (List.mergeSort_perm _ _).nodup_iff.mpr (hwalk.sublist (List.filter_sublist.map Prod.fst))

theorem found_sorted (t : FileTree) (r : SearchRoot) : (t.found r).Pairwise (· < ·) := by
  have hle : (t.found r).Pairwise (· ≤ ·) := by
    refine (List.pairwise_mergeSort ?_ ?_ _).imp of_decide_eq_true
    · intro xs ys zs hxy hyz
      exact decide_eq_true (le_trans (of_decide_eq_true hxy) (of_decide_eq_true hyz))
    · intro xs ys
      simpa using le_total xs ys
  refine hle.imp₂ ?_ (t.found_nodup r)
  intro xs ys hxy hne
  exact lt_of_le_of_ne hxy hne

theorem found_eq_of_perm {names : List (List String)}
    (hwalk : (((t.walk r t.height []).filter r.isSource).map Prod.fst).Perm names)
    (hsorted : names.Pairwise (· < ·)) : t.found r = names := by
  have hperm : (t.found r).Perm names := (List.mergeSort_perm _ _).trans hwalk
  exact (t.found_sorted r).eq_of_mem_iff hsorted fun _ => hperm.mem_iff

theorem mem_found {names : List String} :
    names ∈ t.found r ↔
      (∃ content, t.Reaches r (.file content) [] names) ∧ isSourceName (names.getLastD "") ∧
        isTooLong (r.pathOf names) = false := by
  rw [found, List.mem_mergeSort, List.mem_map]
  constructor
  · rintro ⟨⟨_, e⟩, hmem, rfl⟩
    rw [List.mem_filter, mem_walk_height] at hmem
    obtain ⟨hreaches, hsource⟩ := hmem
    cases e with
    | file content =>
        simp only [SearchRoot.isSource, Bool.and_eq_true, Bool.not_eq_true'] at hsource
        exact ⟨⟨content, hreaches⟩, hsource.1.2, hsource.2⟩
    | directory => cases hsource
  · rintro ⟨⟨content, hreaches⟩, hname, hfits⟩
    refine ⟨(names, .file content), List.mem_filter.mpr ⟨mem_walk_height.mpr hreaches, ?_⟩, rfl⟩
    rw [SearchRoot.isSource, hname, hfits]
    rfl

/-- A search comes to a directory with a path that the system does not take. -/
def Blocked (t : FileTree) (r : SearchRoot) : Prop :=
  ∃ names, t.Reaches r .directory [] names ∧ isTooLong (r.pathOf names)

/-- A search ends early exactly if it comes to a directory that it cannot read. -/
theorem findSome?_fault?_eq_none :
    (t.walk r t.height []).findSome? r.fault? = none ↔ ¬t.Blocked r := by
  rw [List.findSome?_eq_none_iff]
  constructor
  · rintro h ⟨names, hreaches, hlong⟩
    have hnone := h _ (mem_walk_height.mpr hreaches)
    simp [SearchRoot.fault?, Entry.isDirectory, hlong] at hnone
  · rintro h ⟨names, e⟩ hmem
    rw [mem_walk_height] at hmem
    cases e with
    | file content => rfl
    | directory =>
        have hfits : isTooLong (r.pathOf names) = false :=
          Bool.eq_false_iff.mpr fun hlong => h ⟨names, hmem, hlong⟩
        simp [SearchRoot.fault?, hfits]

/-- A search skips none of the entries to which names lead, one after another, from a directory. -/
def Passes (t : FileTree) (r : SearchRoot) (here names : List String) : Prop :=
  ∀ step, step ≠ [] → step <+: names → t.skips r (here ++ step) = false

theorem passes_cons {here rest : List String} {name : String} :
    t.Passes r here (name :: rest) ↔
      t.skips r (here ++ [name]) = false ∧ t.Passes r (here ++ [name]) rest := by
  constructor
  · intro h
    refine ⟨h [name] (List.cons_ne_nil name []) (List.prefix_append [name] rest), ?_⟩
    intro step _ hstep
    rw [List.append_assoc]
    exact h (name :: step) (List.cons_ne_nil name step) ((List.prefix_cons_inj name).mpr hstep)
  · rintro ⟨hname, hrest⟩ step hne hstep
    obtain rfl | ⟨after, rfl, hafter⟩ := List.prefix_cons_iff.mp hstep
    · exact absurd rfl hne
    · by_cases hnil : after = []
      · rw [hnil]
        exact hname
      · rw [List.append_cons]
        exact hrest after hnil hafter

theorem skips_eq {here : List String} {name : String} :
    t.skips r (here ++ [name]) =
      t.isSkipped r (here ++ [name]) (t.isDirectory (r.location ++ here ++ [name])) := by
  rw [skips, List.append_assoc]

/-- In a tree of a file system a search comes to an entry exactly if it skips nothing on the way. -/
theorem reaches_iff (hw : t.WellFormed) {e : Entry} {here names : List String} :
    t.Reaches r e here names ↔
      names ≠ [] ∧ t.get? (r.location ++ here ++ names) = some e ∧ t.Passes r here names := by
  constructor
  · intro h
    refine ⟨h.ne_nil, h.get?_eq, ?_⟩
    induction h with
    | @entry here name hentry hpass =>
        have hplace : t.isDirectory (r.location ++ here ++ [name]) = e.isDirectory := by
          rw [isDirectory, hentry]
          cases e <;> rfl
        refine passes_cons.mpr ⟨?_, fun step hne hstep => absurd (List.prefix_nil.mp hstep) hne⟩
        rw [skips_eq, hplace, hpass]
    | further hdirectory hpass hrest ih =>
        refine passes_cons.mpr ⟨?_, ih⟩
        rw [skips_eq, isDirectory_iff.mpr hdirectory, hpass]
  · rintro ⟨hne, hentry, hpasses⟩
    induction names generalizing here with
    | nil => exact absurd rfl hne
    | cons name rest ih =>
        obtain ⟨hname, hrest⟩ := passes_cons.mp hpasses
        rw [skips_eq] at hname
        by_cases hnil : rest = []
        · subst hnil
          have hplace : t.isDirectory (r.location ++ here ++ [name]) = e.isDirectory := by
            rw [isDirectory, hentry]
            cases e <;> rfl
          rw [hplace] at hname
          exact .entry hentry hname
        · have hplace : r.location ++ here ++ name :: rest = r.location ++ (here ++ [name]) ++ rest := by simp
          rw [hplace] at hentry
          have hdirectory := hw.isDirectory_above hnil (Option.isSome_of_eq_some hentry)
          rw [← List.append_assoc] at hdirectory
          rw [hdirectory] at hname
          exact .further (isDirectory_iff.mp hdirectory) hname (ih hnil hentry hrest)

theorem found_isEntryName (hw : t.WellFormed) {names : List String} (h : names ∈ t.found r) :
    ∀ name ∈ names, IsEntryName name := by
  obtain ⟨⟨content, hreaches⟩, -⟩ := mem_found.mp h
  exact hreaches.isEntryName hw

theorem found_leadsOn (hw : t.WellFormed) {root : String} (hroot : root ≠ "") {l : Location}
    {names : List String} (h : names ∈ t.found ⟨root, l⟩) :
    Path.LeadsOn root names (SearchRoot.pathOf ⟨root, l⟩ names) :=
  SearchRoot.pathOf_leadsOn hroot l (found_isEntryName hw h)

/-- The paths that a search returns are those of the source files that it comes to, in their order, if it comes
to no directory that it cannot read. -/
theorem sourcesBelow_eq_ok_iff (hw : t.WellFormed) {root : String} (hroot : root ≠ "") {l : Location}
    {paths : List String} :
    t.sourcesBelow ⟨root, l⟩ = .ok paths ↔
      ¬t.Blocked ⟨root, l⟩ ∧ paths = (t.found ⟨root, l⟩).map (SearchRoot.pathOf ⟨root, l⟩) := by
  let r : SearchRoot := ⟨root, l⟩
  let sources := (t.walk r t.height []).filter r.isSource
  have hnames : ∀ names ∈ sources.map Prod.fst, ∀ name ∈ names, IsEntryName name := by
    intro names hmem
    exact found_isEntryName hw (List.mem_mergeSort.mpr hmem)
  have hpaths : (sources.map fun e => r.pathOf e.1).mergeSort
      (fun p q => (Path.ofText p).le (Path.ofText q)) = (t.found r).map r.pathOf := by
    rw [found, List.map_mergeSort, List.map_map]
    · rfl
    · intro xs hxs ys hys
      have hx := SearchRoot.pathOf_leadsOn hroot l (hnames xs hxs)
      have hy := SearchRoot.pathOf_leadsOn hroot l (hnames ys hys)
      exact (hx.le_eq hy (hnames xs hxs) (hnames ys hys)).symm
  rw [← findSome?_fault?_eq_none, sourcesBelow]
  cases hfault : (t.walk r t.height []).findSome? r.fault? with
  | some fault => simp
  | none => simp [r, ← hpaths, sources, eq_comm]

/-! ### The order in which directories list their entries -/

section

variable (h : t.get? = u.get?)

include h

theorem Level.get?_congr : Level.get? t = Level.get? u := by
  funext l names
  rw [Level.get?, Level.get?, h]

theorem Level.rules_congr : Level.rules t = Level.rules u := by
  funext l file
  rw [Level.rules, Level.rules, Level.get?_congr h]

theorem verdict?_congr : t.verdict? = u.verdict? := by
  have hlevel : Level.verdict? t = Level.verdict? u := by
    funext l file path isDirectory
    rw [Level.verdict?, Level.verdict?, Level.rules_congr h]
  have hrepository : Level.isRepository t = Level.isRepository u := by
    funext l
    rw [Level.isRepository, Level.isRepository, Level.get?_congr h]
  funext r names isDirectory
  simp only [verdict?, hlevel, hrepository]

theorem complaints_congr : Level.complaints t = Level.complaints u := by
  funext l
  simp only [Level.complaints, Level.rules_congr h]

theorem isSkipped_congr : t.isSkipped = u.isSkipped := by
  funext r names isDirectory
  rw [isSkipped, isSkipped, verdict?_congr h]

theorem follow_congr (l : Location) (steps : List String) : t.follow l steps = u.follow l steps := by
  induction steps generalizing l with
  | nil => rw [follow, follow]
  | cons step rest ih => simp only [follow, h, ih]

theorem locate_congr (cwd : Location) (path : String) : t.locate cwd path = u.locate cwd path := by
  simp only [locate, follow_congr h]

theorem Reaches.congr {e : Entry} {here names : List String} (hreaches : t.Reaches r e here names) :
    u.Reaches r e here names := by
  induction hreaches with
  | entry hentry hpass => exact .entry (by rw [← h, hentry]) (by rw [← isSkipped_congr h, hpass])
  | further hdirectory hpass _ ih =>
      exact .further (by rw [← h, hdirectory]) (by rw [← isSkipped_congr h, hpass]) ih

theorem reaches_congr : t.Reaches = u.Reaches := by
  funext r e here names
  exact propext ⟨.congr h, .congr h.symm⟩

theorem found_congr : t.found = u.found := by
  funext r
  refine (t.found_sorted r).eq_of_mem_iff (u.found_sorted r) ?_
  intro names
  rw [mem_found, mem_found, reaches_congr h]

theorem blocked_congr : t.Blocked = u.Blocked := by
  funext r
  rw [Blocked, Blocked, reaches_congr h]

end

/-! ### What a search returns -/

theorem ne_empty_of_locate {cwd l : Location} {path : String} (h : t.locate cwd path = .ok l) :
    path ≠ "" := by
  rintro rfl
  have hfault : pathFault? "" = some .notFound := by decide
  rw [locate, hfault] at h
  cases h

section

variable {cwd l : Location} {root : String} (hl : t.locate cwd root = .ok l) (hd : t.isDirectory l)

include hl hd

/-- In what is given on standard input there are no source files. -/
theorem sources_of_isStandardInput (hs : isStandardInput root) : t.sources cwd root = .ok [] := by
  have hfile : t.isFile l = false := by
    rw [isFile, isDirectory_iff.mp hd]
  simp [sources, hl, hfile, hs, Except.toOption]

/-- A search in a directory returns the source files that it comes to, if every line of the rule files above
that should be a rule is one, and it comes to no directory that it cannot read. -/
theorem sources_eq_ok_iff (hw : t.WellFormed) (hs : isStandardInput root = false) {paths : List String} :
    t.sources cwd root = .ok paths ↔
      (∀ level ∈ SearchRoot.outerLevels ⟨root, l⟩, level.complaints t = []) ∧ ¬t.Blocked ⟨root, l⟩ ∧
        paths = (t.found ⟨root, l⟩).map (SearchRoot.pathOf ⟨root, l⟩) := by
  have hfile : t.isFile l = false := by
    rw [isFile, isDirectory_iff.mp hd]
  have hall : (SearchRoot.outerLevels ⟨root, l⟩).reverse.flatMap (·.complaints t) = [] ↔
      ∀ level ∈ SearchRoot.outerLevels ⟨root, l⟩, level.complaints t = [] := by
    simp only [List.flatMap_eq_nil_iff, List.mem_reverse]
  rw [← hall, ← sourcesBelow_eq_ok_iff hw (ne_empty_of_locate hl), sources, hl]
  simp only [Except.toOption, Option.any_some, hfile, hs, Bool.false_eq_true, if_false]
  split
  · next hnone => simp [hnone]
  · next hsome => exact iff_of_false (by simp) fun h => hsome h.1

/-- The source files that the walk comes to, put in order, are what a search returns. -/
theorem sources_of_walk (hw : t.WellFormed) (hs : isStandardInput root = false)
    (hrules : ∀ level ∈ SearchRoot.outerLevels ⟨root, l⟩, level.complaints t = [])
    (hread : (t.walk ⟨root, l⟩ t.height []).findSome? (SearchRoot.fault? ⟨root, l⟩) = none)
    {names : List (List String)}
    (hwalk : (((t.walk ⟨root, l⟩ t.height []).filter (SearchRoot.isSource ⟨root, l⟩)).map Prod.fst).Perm names)
    (hsorted : names.Pairwise (· < ·)) :
    t.sources cwd root = .ok (names.map (SearchRoot.pathOf ⟨root, l⟩)) := by
  refine (sources_eq_ok_iff hl hd hw hs).mpr ⟨hrules, findSome?_fault?_eq_none.mp hread, ?_⟩
  rw [found_eq_of_perm hwalk hsorted]

end

/-- A search returns the same paths in whatever order directories list their entries. -/
theorem sources_of_perm (hw : t.WellFormed) (h : t.entries.Perm u.entries) (cwd : Location) (root : String)
    (paths : List String) : t.sources cwd root = .ok paths ↔ u.sources cwd root = .ok paths := by
  have hget := get?_of_perm h
  have hfile : t.isFile = u.isFile := by
    funext l
    rw [isFile, isFile, hget]
  rw [sources, sources, locate_congr hget, hfile]
  cases hl : u.locate cwd root with
  | error cause => rfl
  | ok l =>
      have hroot := ne_empty_of_locate hl
      have hbelow : t.sourcesBelow ⟨root, l⟩ = .ok paths ↔ u.sourcesBelow ⟨root, l⟩ = .ok paths := by
        rw [sourcesBelow_eq_ok_iff hw hroot, sourcesBelow_eq_ok_iff (hw.of_perm h) hroot, found_congr hget,
          blocked_congr hget]
      simp only [complaints_congr hget]
      split
      · rfl
      · split
        · rfl
        · split
          · exact hbelow
          · rfl

end Nullability.FileTree
