import Nullability.Proofs.MatchedPaths
import Nullability.Proofs.SearchedSources

/-!
Which `.gitignore` decides about an entry. The rules of a directory are asked about what lies below it if some
directory at or above it is a repository and none on the way down is another one. The nearest directory whose
rules say something decides, unless an `.ignore` file says something. Outside a repository nothing that a
`.gitignore` says counts. A search knows a directory by a path, and finds nothing in it by one that is too
long.
-/

namespace Nullability.FileTree

open Ignore

variable {t : FileTree} {r : SearchRoot}

/-- The directory at a place, as a search knows it: from its root on by the path that it has for it, above by
the absolute path, and there not at all if the absolute path of its root is too long. -/
def SearchRoot.levelAt? (r : SearchRoot) (place : Location) : Option Level :=
  if r.location <+: place then some (r.levelOf (place.drop r.location.length))
  else if isTooLong (Location.text r.location) then none
  else some ⟨Location.text place, place⟩

/-- A search finds a repository at a place. -/
def IsRepository (t : FileTree) (r : SearchRoot) (place : Location) : Prop :=
  ∃ level ∈ r.levelAt? place, level.isRepository t

/-- What the `.gitignore` in a directory says about what names lead to from there. -/
def gitRuling? (t : FileTree) (directory : Level) (names : List String) : Option Verdict :=
  (directory.rules t Level.gitIgnoreFile).verdict? ("/".intercalate names)
    (t.isDirectory (directory.location ++ names))

/-- What the `.ignore` files say about an entry below the root of a search. -/
def ignoreRuling? (t : FileTree) (r : SearchRoot) (names : List String) : Option Verdict :=
  (r.levels names).findSome? fun (l, path) =>
    l.verdict? t Level.ignoreFile path (t.isDirectory (r.location ++ names))

/-- The directories whose `.gitignore` is asked about an entry: up to the nearest repository, and none where
there is no repository. -/
def repositoryLevels (t : FileTree) (r : SearchRoot) (names : List String) : List (Level × List Char) :=
  if (r.levels names).any (·.1.isRepository t) then takeThrough (·.1.isRepository t) (r.levels names) else []

/-- What the directories of a repository say about an entry by one of their rule files. -/
def repositoryRuling? (t : FileTree) (r : SearchRoot) (file names : List String) : Option Verdict :=
  (t.repositoryLevels r names).findSome? fun (l, path) =>
    l.verdict? t file path (t.isDirectory (r.location ++ names))

theorem ruling?_eq (t : FileTree) (r : SearchRoot) (names : List String) :
    t.ruling? r names = (t.ignoreRuling? r names <|> t.repositoryRuling? r Level.gitIgnoreFile names <|>
      t.repositoryRuling? r Level.excludeFile names) := rfl

/-- The rules in the directory to which some names lead hold for what further names lead to from there: the
directory lies in a repository, or is one, and the further names enter no other. -/
structure RulesHold (t : FileTree) (r : SearchRoot) (before names : List String) : Prop where
  repository : ∃ above, above <+: r.location ++ before ∧ t.IsRepository r above
  same : ∀ between rest, between ≠ [] → rest ≠ [] → names = between ++ rest →
    ¬t.IsRepository r (r.location ++ (before ++ between))

/-- The `.gitignore` of the directory to which some names lead ignores what further names lead to from there,
and neither the `.gitignore` of a directory further down nor an `.ignore` file takes it in again. -/
structure GitIgnores (t : FileTree) (r : SearchRoot) (before names : List String) : Prop where
  ignored : t.gitRuling? (r.levelOf before) names = some .ignored
  deeper : ∀ between rest, between ≠ [] → rest ≠ [] → names = between ++ rest →
    t.gitRuling? (r.levelOf (before ++ between)) rest ≠ some .takenIn
  beside : t.ignoreRuling? r (before ++ names) ≠ some .takenIn

private theorem singleton_ne_append {name : String} {between rest : List String} (hbetween : between ≠ [])
    (hrest : rest ≠ []) : [name] ≠ between ++ rest := by
  intro heq
  rcases List.append_eq_singleton_iff.mp heq.symm with ⟨hnil, -⟩ | ⟨-, hnil⟩
  · exact hbetween hnil
  · exact hrest hnil

/-- No directory lies between a directory and an entry in it. -/
theorem RulesHold.of_name {before : List String} {name : String}
    (h : ∃ above, above <+: r.location ++ before ∧ t.IsRepository r above) : t.RulesHold r before [name] :=
  ⟨h, fun _ _ hbetween hrest heq => absurd heq (singleton_ne_append hbetween hrest)⟩

theorem GitIgnores.of_name {before : List String} {name : String}
    (hignored : t.gitRuling? (r.levelOf before) [name] = some .ignored)
    (hbeside : t.ignoreRuling? r (before ++ [name]) ≠ some .takenIn) : t.GitIgnores r before [name] :=
  ⟨hignored, fun _ _ hbetween hrest heq => absurd heq (singleton_ne_append hbetween hrest), hbeside⟩

/-! ### The directories whose rules apply -/

namespace SearchRoot

theorem innerLevels_eq (r : SearchRoot) (names : List String) :
    r.innerLevels names = names.inits.reverse.map r.levelOf := by
  have hinits : names.inits = (List.range (names.length + 1)).map names.take :=
    List.ext_getElem (by simp) (by simp)
  rw [innerLevels, hinits, List.map_reverse]

theorem innerLevels_append_singleton (r : SearchRoot) (names : List String) (name : String) :
    r.innerLevels (names ++ [name]) = r.levelOf (names ++ [name]) :: r.innerLevels names := by
  rw [innerLevels_eq, innerLevels_eq, Location.inits_reverse_append_singleton, List.map_cons]

theorem innerLevels_append (r : SearchRoot) (before between : List String) :
    ∃ deeper further, r.innerLevels (before ++ between) = deeper ++ r.levelOf before :: further ∧
      ∀ level ∈ deeper, ∃ step, step ≠ [] ∧ step <+: between ∧ level = r.levelOf (before ++ step) := by
  induction between using List.reverseRecOn with
  | nil =>
      obtain ⟨further, hinits⟩ := Location.inits_reverse_eq_cons before
      refine ⟨[], further.map r.levelOf, ?_, fun level hlevel => absurd hlevel List.not_mem_nil⟩
      rw [List.append_nil, innerLevels_eq, hinits, List.map_cons, List.nil_append]
  | append_singleton between name ih =>
      obtain ⟨deeper, further, heq, hdeeper⟩ := ih
      refine ⟨r.levelOf (before ++ (between ++ [name])) :: deeper, further, ?_, ?_⟩
      · rw [← List.append_assoc, innerLevels_append_singleton, heq, List.cons_append]
      · intro level hlevel
        rcases List.mem_cons.mp hlevel with rfl | hlevel
        · exact ⟨between ++ [name], by simp, List.prefix_rfl, rfl⟩
        · obtain ⟨step, hne, hstep, rfl⟩ := hdeeper level hlevel
          exact ⟨step, hne, hstep.trans (List.prefix_append between [name]), rfl⟩

theorem levelAt?_below (r : SearchRoot) (step : List String) :
    r.levelAt? (r.location ++ step) = some (r.levelOf step) := by
  rw [levelAt?, if_pos (List.prefix_append r.location step), List.drop_left]

theorem isRepository_below_iff {step : List String} :
    t.IsRepository r (r.location ++ step) ↔ (r.levelOf step).isRepository t := by
  rw [IsRepository, levelAt?_below]
  simp

theorem mem_innerLevels {names : List String} {level : Level} :
    level ∈ r.innerLevels names ↔ ∃ step, step <+: names ∧ level ∈ r.levelAt? (r.location ++ step) := by
  rw [innerLevels_eq]
  simp [levelAt?_below, eq_comm]

theorem levelAt?_above {above : Location} (habove : above <+: r.location) (hne : above ≠ r.location) :
    r.levelAt? above =
      if isTooLong (Location.text r.location) then none else some ⟨Location.text above, above⟩ :=
  if_neg fun hbelow => hne (habove.eq_of_length_le hbelow.length_le)

theorem mem_takes_iff {l above : Location} :
    above ∈ (List.range l.length).map l.take ↔ above <+: l ∧ above ≠ l := by
  simp only [List.mem_map, List.mem_range]
  constructor
  · rintro ⟨n, hn, rfl⟩
    refine ⟨List.take_prefix n l, fun heq => ?_⟩
    have hlength := congrArg List.length heq
    rw [List.length_take_of_le hn.le] at hlength
    exact hn.ne hlength
  · rintro ⟨habove, hne⟩
    refine ⟨above.length, ?_, (List.prefix_iff_eq_take.mp habove).symm⟩
    exact lt_of_le_of_ne habove.length_le fun hlength => hne (habove.eq_of_length hlength)

theorem mem_outerLevels {level : Level} :
    level ∈ r.outerLevels ↔
      ∃ above, above <+: r.location ∧ above ≠ r.location ∧ level ∈ r.levelAt? above := by
  by_cases hlong : isTooLong (Location.text r.location)
  · rw [outerLevels, if_pos hlong]
    refine iff_of_false List.not_mem_nil ?_
    rintro ⟨above, habove, hne, hlevel⟩
    rw [levelAt?_above habove hne, if_pos hlong] at hlevel
    cases hlevel
  · rw [outerLevels, if_neg hlong, List.map_reverse, List.mem_map]
    refine exists_congr fun above => ?_
    rw [← and_assoc, ← mem_takes_iff, List.mem_reverse]
    refine and_congr_right fun htake => ?_
    obtain ⟨habove, hne⟩ := mem_takes_iff.mp htake
    rw [levelAt?_above habove hne, if_neg hlong, Option.mem_some_iff]

/-- The directories whose rules apply to an entry are all those above it that a search knows, up to the root of
the file system. -/
theorem exists_level_iff {names : List String} {level : Level} :
    (∃ p ∈ r.levels names, p.1 = level) ↔
      ∃ above, above <+: r.location ++ names.dropLast ∧ level ∈ r.levelAt? above := by
  have hparts : (∃ p ∈ r.levels names, p.1 = level) ↔
      level ∈ r.innerLevels names.dropLast ∨ level ∈ r.outerLevels := by
    simp [levels, or_and_right, exists_or]
  rw [hparts, mem_innerLevels, mem_outerLevels]
  constructor
  · rintro (⟨step, hstep, hlevel⟩ | ⟨above, habove, -, hlevel⟩)
    · exact ⟨_, (List.prefix_append_right_inj r.location).mpr hstep, hlevel⟩
    · exact ⟨above, habove.trans (List.prefix_append r.location names.dropLast), hlevel⟩
  · rintro ⟨above, h, hlevel⟩
    rcases List.prefix_or_prefix_of_prefix h (List.prefix_append r.location names.dropLast) with habove | hbelow
    · by_cases heq : above = r.location
      · exact Or.inl ⟨[], List.nil_prefix, by rwa [List.append_nil, ← heq]⟩
      · exact Or.inr ⟨above, habove, heq, hlevel⟩
    · obtain ⟨step, rfl⟩ := hbelow
      exact Or.inl ⟨step, (List.prefix_append_right_inj r.location).mp h, hlevel⟩

theorem any_isRepository_iff {names : List String} :
    (r.levels names).any (·.1.isRepository t) ↔
      ∃ above, above <+: r.location ++ names.dropLast ∧ t.IsRepository r above := by
  rw [List.any_eq_true]
  constructor
  · rintro ⟨p, hp, hrepository⟩
    obtain ⟨above, habove, hlevel⟩ := exists_level_iff.mp ⟨p, hp, rfl⟩
    exact ⟨above, habove, p.1, hlevel, hrepository⟩
  · rintro ⟨above, habove, level, hlevel, hrepository⟩
    obtain ⟨p, hp, rfl⟩ := exists_level_iff.mpr ⟨above, habove, hlevel⟩
    exact ⟨p, hp, hrepository⟩

/-- A directory on the way to an entry divides the directories whose rules apply to it: those that the names
enter behind it go before. -/
theorem levels_append (r : SearchRoot) (before : List String) {names : List String} (hne : names ≠ []) :
    ∃ deeper further, r.levels (before ++ names) =
        deeper ++ (r.levelOf before, Level.dropHere (r.pathOf (before ++ names)).toList) :: further ∧
      ∀ p ∈ deeper, ∃ between rest, between ≠ [] ∧ rest ≠ [] ∧ names = between ++ rest ∧
        p = (r.levelOf (before ++ between), Level.dropHere (r.pathOf (before ++ names)).toList) := by
  obtain ⟨deeper, further, hinner, hdeeper⟩ := r.innerLevels_append before names.dropLast
  rw [levels, List.dropLast_append_of_ne_nil hne, hinner, List.map_append, List.map_cons, List.append_assoc,
    List.cons_append]
  refine ⟨_, _, rfl, ?_⟩
  intro p hp
  obtain ⟨level, hlevel, rfl⟩ := List.mem_map.mp hp
  obtain ⟨between, hbetween, ⟨middle, hmiddle⟩, rfl⟩ := hdeeper level hlevel
  refine ⟨between, middle ++ [names.getLast hne], hbetween, by simp, ?_, rfl⟩
  rw [← List.append_assoc, hmiddle, List.dropLast_append_getLast hne]

/-- The `.gitignore` of a directory is asked about the names that lead from there to the entry. -/
theorem gitRuling?_levelOf (hroot : ¬Level.BeginsTwice r.text.toList) {before names : List String}
    (hne : names ≠ []) (hnames : ∀ name ∈ before ++ names, IsEntryName name) :
    (r.levelOf before).verdict? t Level.gitIgnoreFile (Level.dropHere (r.pathOf (before ++ names)).toList)
      (t.isDirectory (r.location ++ (before ++ names))) = t.gitRuling? (r.levelOf before) names := by
  rw [Level.verdict?, gitRuling?]
  simp only [levelOf, below_pathOf hroot hne hnames, List.append_assoc]

end SearchRoot

/-! ### What the rules come to -/

/-- The nearest that says something decides. -/
theorem findSome?_eq_ignored {α : Type} {f : α → Option Verdict} {nearer further : List α} {a : α}
    (hnearer : ∀ b ∈ nearer, f b ≠ some .takenIn) (ha : f a = some .ignored) :
    (nearer ++ a :: further).findSome? f = some .ignored := by
  induction nearer with
  | nil => rw [List.nil_append, List.findSome?_cons, ha]
  | cons b nearer ih =>
      rw [List.forall_mem_cons] at hnearer
      rw [List.cons_append, List.findSome?_cons]
      match hb : f b with
      | none => exact ih hnearer.2
      | some .ignored => rfl
      | some .takenIn => exact absurd hb hnearer.1

/-- Where no directory above an entry is a repository, the `.ignore` files alone say what the rules say. -/
theorem ruling?_of_no_repository {names : List String}
    (h : ∀ above, above <+: r.location ++ names.dropLast → ¬t.IsRepository r above) :
    t.ruling? r names = t.ignoreRuling? r names := by
  have hlevels : t.repositoryLevels r names = [] := by
    rw [repositoryLevels, if_neg]
    rw [SearchRoot.any_isRepository_iff]
    exact fun ⟨above, habove, hrepository⟩ => h above habove hrepository
  rw [ruling?_eq, repositoryRuling?, repositoryRuling?, hlevels]
  simp

/-- Where the rules in a directory hold, it is asked, behind the directories further down. -/
theorem RulesHold.repositoryLevels_eq {before names : List String} (hne : names ≠ [])
    (h : t.RulesHold r before names) :
    ∃ deeper further, t.repositoryLevels r (before ++ names) =
        deeper ++ (r.levelOf before, Level.dropHere (r.pathOf (before ++ names)).toList) :: further ∧
      ∀ p ∈ deeper, ∃ between rest, between ≠ [] ∧ rest ≠ [] ∧ names = between ++ rest ∧
        p = (r.levelOf (before ++ between), Level.dropHere (r.pathOf (before ++ names)).toList) := by
  obtain ⟨above, habove, hrepository⟩ := h.repository
  have hany : (r.levels (before ++ names)).any (·.1.isRepository t) := by
    refine SearchRoot.any_isRepository_iff.mpr ⟨above, habove.trans ?_, hrepository⟩
    rw [List.dropLast_append_of_ne_nil hne, ← List.append_assoc]
    exact List.prefix_append _ names.dropLast
  obtain ⟨deeper, further, hlevels, hdeeper⟩ := r.levels_append before hne
  have hsame : ∀ p ∈ deeper, p.1.isRepository t = false := by
    intro p hp
    obtain ⟨between, rest, hbetween, hrest, hsplit, rfl⟩ := hdeeper p hp
    rw [← Bool.not_eq_true, ← SearchRoot.isRepository_below_iff]
    exact h.same between rest hbetween hrest hsplit
  rw [repositoryLevels, if_pos hany, hlevels, takeThrough_append_of_not_stop hsame]
  obtain ⟨rest, hrest⟩ := exists_takeThrough_cons _ further
  exact ⟨deeper, rest, by rw [hrest], hdeeper⟩

/-- What a `.gitignore` ignores where its rules hold is ignored, unless a rule that goes before takes it in. -/
theorem GitIgnores.ruling?_eq (hroot : ¬Level.BeginsTwice r.text.toList) {before names : List String}
    (hne : names ≠ []) (hnames : ∀ name ∈ before ++ names, IsEntryName name)
    (hhold : t.RulesHold r before names) (h : t.GitIgnores r before names) :
    t.ruling? r (before ++ names) = some .ignored := by
  obtain ⟨deeper, further, hlevels, hdeeper⟩ := hhold.repositoryLevels_eq hne
  have hgit : t.repositoryRuling? r Level.gitIgnoreFile (before ++ names) = some .ignored := by
    rw [repositoryRuling?, hlevels]
    refine findSome?_eq_ignored ?_ ?_
    · intro p hp
      obtain ⟨between, rest, hbetween, hrest, rfl, rfl⟩ := hdeeper p hp
      rw [← List.append_assoc] at hnames ⊢
      have hasked := SearchRoot.gitRuling?_levelOf (t := t) hroot hrest hnames
      exact fun htaken => h.deeper between rest hbetween hrest rfl (hasked.symm.trans htaken)
    · exact (SearchRoot.gitRuling?_levelOf hroot hne hnames).trans h.ignored
  rw [FileTree.ruling?_eq, hgit]
  match hbeside : t.ignoreRuling? r (before ++ names) with
  | none => rfl
  | some .ignored => rfl
  | some .takenIn => exact absurd hbeside h.beside

/-- Where the rules of a `.gitignore` hold, a search returns nothing that it ignores and nothing below what it
ignores. Outside a repository no `.gitignore` has a say. -/
theorem git_ignored_not_found_in_repository (hw : t.WellFormed) {cwd l : Location} {root : String}
    (hl : t.locate cwd root = .ok l) (hd : t.isDirectory l) (hroot : ¬Level.BeginsTwice root.toList)
    {paths : List String} (h : t.sources cwd root = .ok paths) :
    (∀ before names, names ≠ [] → t.RulesHold ⟨root, l⟩ before names → t.GitIgnores ⟨root, l⟩ before names →
      ∀ rest path, Path.LeadsOn root (before ++ names ++ rest) path → path ∉ paths) ∧
    ∀ names, (∀ above, above <+: l ++ names.dropLast → ¬t.IsRepository ⟨root, l⟩ above) →
      t.ruling? ⟨root, l⟩ names = t.ignoreRuling? ⟨root, l⟩ names := by
  refine ⟨?_, fun names hnone => ruling?_of_no_repository hnone⟩
  intro before names hne hhold hignores rest path hleads hpath
  have hs : isStandardInput root = false := by
    rw [← Bool.not_eq_true]
    intro hs
    rw [sources_of_isStandardInput hl hd hs, Except.ok.injEq] at h
    rw [← h] at hpath
    cases hpath
  obtain ⟨-, -, rfl⟩ := (sources_eq_ok_iff hl hd hw hs).mp h
  obtain ⟨found, hfound, rfl⟩ := List.mem_map.mp hpath
  obtain rfl := (found_leadsOn hw (ne_empty_of_locate hl) hfound).names_eq hleads
  have hentries : ∀ name ∈ before ++ names, IsEntryName name := fun name hname =>
    found_isEntryName hw hfound name (List.mem_append_left rest hname)
  have hpasses := ((mem_found_iff hw).mp hfound).2.2.2 (before ++ names) (by simp [hne])
    (List.prefix_append (before ++ names) rest)
  have hignored := hignores.ruling?_eq hroot hne hentries hhold
  rw [List.nil_append, skips, isSkipped, ← ruling?, hignored] at hpasses
  cases hpasses

/-- A repository with rules in a directory of its own: one ignores the source files there, and the next takes
one of them in again. -/
def ruledRepository : FileTree where
  entries := [([".git"], .directory), (["main.rs"], .file .empty), (["sub"], .directory),
    (["sub", ".gitignore"], .file "/*.rs\n!/keep.rs\n".toUTF8), (["sub", "gone.rs"], .file .empty),
    (["sub", "keep.rs"], .file .empty)]
  nodup := by decide

theorem ignored_in_ruled_repository :
    ruledRepository.sources [] "." = .ok ["./main.rs", "./sub/keep.rs"] ∧
      ruledRepository.isFile ["sub", "gone.rs"] ∧ "./sub/gone.rs" ∉ ["./main.rs", "./sub/keep.rs"] := by
  have hw : ruledRepository.WellFormed := by decide +kernel
  have hl : ruledRepository.locate [] "." = .ok [] := rfl
  have hpaths : [["main.rs"], ["sub", "keep.rs"]].map (SearchRoot.pathOf ⟨".", []⟩) =
      ["./main.rs", "./sub/keep.rs"] := by
    decide +kernel
  have hsources : ruledRepository.sources [] "." = .ok ["./main.rs", "./sub/keep.rs"] := by
    rw [← hpaths]
    exact sources_of_walk hl rfl hw rfl (by decide) (by decide +kernel) (by decide +kernel) (by decide)
  have hhold : ruledRepository.RulesHold ⟨".", []⟩ ["sub"] ["gone.rs"] :=
    .of_name ⟨[], List.nil_prefix, ⟨".", []⟩, rfl, by decide +kernel⟩
  have hignores : ruledRepository.GitIgnores ⟨".", []⟩ ["sub"] ["gone.rs"] :=
    .of_name (by decide +kernel) (by decide +kernel)
  have hleads : Path.LeadsOn "." ["sub", "gone.rs"] "./sub/gone.rs" := ⟨by decide, by decide⟩
  refine ⟨hsources, by decide +kernel, ?_⟩
  exact (git_ignored_not_found_in_repository hw hl rfl (by decide) hsources).1 ["sub"] ["gone.rs"]
    (List.cons_ne_nil _ _) hhold hignores [] "./sub/gone.rs" hleads

/-- A directory outside a repository, with a rule that ignores a source file in it. -/
def ruledDirectory : FileTree where
  entries := [([".gitignore"], .file "a.rs\n".toUTF8), (["a.rs"], .file .empty), (["b.rs"], .file .empty)]
  nodup := by decide

/-- What a `.gitignore` ignores may be found: outside a repository its rules do not count. -/
theorem git_ignored_may_be_found :
    ¬∀ (t : FileTree) (cwd l : Location) (root : String) (paths : List String), t.WellFormed →
      t.locate cwd root = .ok l → t.isDirectory l → t.sources cwd root = .ok paths →
      ∀ before names, names ≠ [] → t.GitIgnores ⟨root, l⟩ before names →
        ∀ rest path, Path.LeadsOn root (before ++ names ++ rest) path → path ∉ paths := by
  intro h
  have hw : ruledDirectory.WellFormed := by decide +kernel
  have hl : ruledDirectory.locate [] "." = .ok [] := rfl
  have hpaths : [["a.rs"], ["b.rs"]].map (SearchRoot.pathOf ⟨".", []⟩) = ["./a.rs", "./b.rs"] := by
    decide +kernel
  have hsources : ruledDirectory.sources [] "." = .ok ["./a.rs", "./b.rs"] := by
    rw [← hpaths]
    exact sources_of_walk hl rfl hw rfl (by decide) (by decide +kernel) (by decide +kernel) (by decide)
  have hleads : Path.LeadsOn "." ["a.rs"] "./a.rs" := ⟨by decide, by decide⟩
  exact h ruledDirectory [] [] "." _ hw hl rfl hsources [] ["a.rs"] (List.cons_ne_nil _ _)
    (.of_name (by decide +kernel) (by decide +kernel)) [] "./a.rs" hleads (by decide)

end Nullability.FileTree
