import Nullability.Proofs.SourceWalk

/-!
The files that a search for source files returns. No path goes through an entry with the name of the build
directory, whatever the rules say; a path goes through an entry whose name starts with a dot only where a
rule takes the entry in. Where no ignore rule is in force, the search returns exactly the source files below
its root that have neither on their way, in order, and each once, unless a line that is no rule or a path that
is too long stops it.
-/

namespace Nullability.FileTree

open Ignore

variable {t : FileTree} {r : SearchRoot}

/-- What the ignore rules say about an entry below the root of a search. -/
def ruling? (t : FileTree) (r : SearchRoot) (names : List String) : Option Verdict :=
  t.verdict? r names (t.isDirectory (r.location ++ names))

/-- No ignore rule is in force in a search: none says anything about an entry below its root. -/
def Unruled (t : FileTree) (r : SearchRoot) : Prop :=
  ∀ names, names ≠ [] → (t.get? (r.location ++ names)).isSome → t.ruling? r names = none

/-! ### What a search skips -/

theorem skips_eq_false_iff {before : List String} {name : String} :
    t.skips r (before ++ [name]) = false ↔
      name ≠ "target" ∧ t.ruling? r (before ++ [name]) ≠ some .ignored ∧
        (isHidden name → t.ruling? r (before ++ [name]) = some .takenIn) := by
  rw [skips, isSkipped, ← ruling?, List.getLastD_concat, buildDirectory]
  cases t.ruling? r (before ++ [name]) with
  | none => by_cases hname : name = "target" <;> simp [hname]
  | some verdict => cases verdict <;> simp

theorem passes_iff {names : List String} :
    t.Passes r [] names ↔
      ∀ before name, before ++ [name] <+: names → t.skips r (before ++ [name]) = false := by
  constructor
  · intro h before name hprefix
    exact h (before ++ [name]) (by simp) hprefix
  · intro h step hne hprefix
    obtain ⟨before, name, rfl⟩ := (List.eq_nil_or_concat' step).resolve_left hne
    exact h before name hprefix

theorem exists_step_of_mem {names : List String} {name : String} (h : name ∈ names) :
    ∃ before, before ++ [name] <+: names := by
  obtain ⟨before, after, rfl⟩ := List.append_of_mem h
  exact ⟨before, after, by rw [List.append_assoc, List.singleton_append]⟩

/-- A search comes to the files below its root that have the extension of source files, a path that is not
too long, and nothing on the way to them that it skips. -/
theorem mem_found_iff (hw : t.WellFormed) {names : List String} :
    names ∈ t.found r ↔
      t.isFile (r.location ++ names) ∧ (∃ stem, stem ≠ "" ∧ names.getLast? = some (stem ++ ".rs")) ∧
        isTooLong (r.pathOf names) = false ∧ t.Passes r [] names := by
  have hentry : ∀ {content name}, t.get? (r.location ++ names) = some (.file content) →
      names.getLast? = some name → IsEntryName name := by
    intro content name hcontent hlast
    have hname := List.mem_append_right r.location (List.mem_of_getLast? hlast)
    exact hw.isEntryName (Option.isSome_of_eq_some hcontent) name hname
  simp only [mem_found, reaches_iff hw, List.append_nil, isFile_iff]
  constructor
  · rintro ⟨⟨content, hne, hcontent, hpasses⟩, hsource, hfits⟩
    obtain ⟨before, name, rfl⟩ := (List.eq_nil_or_concat' names).resolve_left hne
    rw [List.getLastD_concat] at hsource
    obtain ⟨stem, hstem, rfl⟩ := (isSourceName_iff (hentry hcontent List.getLast?_concat)).mp hsource
    exact ⟨⟨content, hcontent⟩, ⟨stem, hstem, List.getLast?_concat⟩, hfits, hpasses⟩
  · rintro ⟨⟨content, hcontent⟩, ⟨stem, hstem, hlast⟩, hfits, hpasses⟩
    obtain ⟨before, rfl⟩ := List.getLast?_eq_some_iff.mp hlast
    refine ⟨⟨content, by simp, hcontent, hpasses⟩, ?_, hfits⟩
    rw [List.getLastD_concat]
    exact (isSourceName_iff (hentry hcontent hlast)).mpr ⟨stem, hstem, rfl⟩

/-- A search returns the paths of the source files below its root on the way to which there is no entry with
the name of the build directory, none that a rule ignores, and none whose name starts with a dot and that no
rule takes in; not those that are too long, and none if its root stands for standard input. -/
theorem hidden_found_as_taken_in (hw : t.WellFormed) {cwd l : Location} {root : String}
    (hl : t.locate cwd root = .ok l) (hd : t.isDirectory l) {paths : List String}
    (h : t.sources cwd root = .ok paths) (path : String) :
    path ∈ paths ↔ isStandardInput root = false ∧
      ∃ names, path = SearchRoot.pathOf ⟨root, l⟩ names ∧ Path.LeadsOn root names path ∧
        t.isFile (l ++ names) ∧ (∃ stem, stem ≠ "" ∧ names.getLast? = some (stem ++ ".rs")) ∧
        isTooLong path = false ∧
        ∀ before name, before ++ [name] <+: names →
          name ≠ "target" ∧ t.ruling? ⟨root, l⟩ (before ++ [name]) ≠ some .ignored ∧
            (isHidden name → t.ruling? ⟨root, l⟩ (before ++ [name]) = some .takenIn) := by
  by_cases hs : isStandardInput root
  · rw [sources_of_isStandardInput hl hd hs, Except.ok.injEq] at h
    simp [← h, hs]
  rw [Bool.not_eq_true] at hs
  obtain ⟨-, -, rfl⟩ := (sources_eq_ok_iff hl hd hw hs).mp h
  have hpasses (names : List String) : t.Passes ⟨root, l⟩ [] names ↔
      ∀ before name, before ++ [name] <+: names →
        name ≠ "target" ∧ t.ruling? ⟨root, l⟩ (before ++ [name]) ≠ some .ignored ∧
          (isHidden name → t.ruling? ⟨root, l⟩ (before ++ [name]) = some .takenIn) := by
    rw [passes_iff]
    exact forall₃_congr fun before name _ => skips_eq_false_iff
  rw [List.mem_map]
  constructor
  · rintro ⟨names, hfound, rfl⟩
    obtain ⟨hfile, hsource, hfits, hsteps⟩ := (mem_found_iff hw).mp hfound
    exact ⟨hs, names, rfl, found_leadsOn hw (ne_empty_of_locate hl) hfound, hfile, hsource, hfits,
      (hpasses names).mp hsteps⟩
  · rintro ⟨-, names, rfl, -, hfile, hsource, hfits, hsteps⟩
    exact ⟨names, (mem_found_iff hw).mpr ⟨hfile, hsource, hfits, (hpasses names).mpr hsteps⟩, rfl⟩

/-- A directory with a rule that takes in a hidden file. -/
def hiddenSource : FileTree where
  entries := [([".ignore"], .file "!.hidden.rs\n".toUTF8), ([".hidden.rs"], .file "struct S;\n".toUTF8),
    (["a.rs"], .file .empty)]
  nodup := by decide

private theorem hiddenSource_wellFormed : hiddenSource.WellFormed := by decide +kernel

private theorem hiddenSource_sources : hiddenSource.sources [] "." = .ok ["./.hidden.rs", "./a.rs"] := by
  have hpaths : [[".hidden.rs"], ["a.rs"]].map (SearchRoot.pathOf ⟨".", []⟩) = ["./.hidden.rs", "./a.rs"] := by
    decide +kernel
  rw [← hpaths]
  exact sources_of_walk rfl rfl hiddenSource_wellFormed rfl (by decide) (by decide +kernel) (by decide +kernel)
    (by decide)

private theorem hiddenSource_leadsOn : Path.LeadsOn "." [".hidden.rs"] "./.hidden.rs" :=
  ⟨by decide, by decide⟩

theorem hidden_source_is_taken_in :
    hiddenSource.sources [] "." = .ok ["./.hidden.rs", "./a.rs"] ∧
      hiddenSource.ruling? ⟨".", []⟩ [".hidden.rs"] = some .takenIn := by
  refine ⟨hiddenSource_sources, ?_⟩
  obtain ⟨-, names, -, hleads, -, -, -, hsteps⟩ := (hidden_found_as_taken_in hiddenSource_wellFormed rfl rfl
    hiddenSource_sources "./.hidden.rs").mp (by decide)
  cases hleads.names_eq hiddenSource_leadsOn
  exact (hsteps [] ".hidden.rs" List.prefix_rfl).2.2 (by decide)

/-- A hidden file may be found: the rules go before the filter. -/
theorem hidden_file_may_be_found :
    ¬∀ (t : FileTree) (cwd l : Location) (root : String) (paths : List String), t.WellFormed →
      t.locate cwd root = .ok l → t.isDirectory l → t.sources cwd root = .ok paths →
      ∀ path ∈ paths, ∀ names, Path.LeadsOn root names path →
        ∀ name ∈ names, isHidden name = false ∧ name ≠ "target" := by
  intro h
  have hhidden := h hiddenSource [] [] "." _ hiddenSource_wellFormed rfl rfl hiddenSource_sources
    "./.hidden.rs" (by decide) [".hidden.rs"] hiddenSource_leadsOn ".hidden.rs" (by decide)
  exact absurd hhidden.1 (by decide)

/-! ### Searches without rules -/

/-- Names that a search goes through without rules: none starts with a dot, and none is that of the build
directory. -/
def Plain (names : List String) : Prop := ∀ name ∈ names, isHidden name = false ∧ name ≠ "target"

/-- What is in a tree decides whether rules are in force. -/
theorem unruled_of_entries
    (h : ∀ e ∈ t.entries, r.location <+: e.1 → t.ruling? r (e.1.drop r.location.length) = none) :
    t.Unruled r := by
  intro names hne hsome
  obtain ⟨e, he⟩ := Option.isSome_iff_exists.mp hsome
  rw [get?_eq_some_iff (List.append_ne_nil_of_right_ne_nil _ hne)] at he
  simpa using h _ he (List.prefix_append _ names)

/-- Without rules a search skips an entry for its name alone. -/
theorem Unruled.skips_eq_false_iff (hr : t.Unruled r) {before : List String} {name : String}
    (h : (t.get? (r.location ++ (before ++ [name]))).isSome) :
    t.skips r (before ++ [name]) = false ↔ isHidden name = false ∧ name ≠ "target" := by
  rw [FileTree.skips_eq_false_iff, hr (before ++ [name]) (by simp) h]
  simp [and_comm]

theorem Unruled.passes_iff (hw : t.WellFormed) (hr : t.Unruled r) {names : List String}
    (h : (t.get? (r.location ++ names)).isSome) : t.Passes r [] names ↔ Plain names := by
  rw [FileTree.passes_iff]
  constructor
  · intro hpasses name hname
    obtain ⟨before, hstep⟩ := exists_step_of_mem hname
    exact (hr.skips_eq_false_iff (hw.isSome_of_prefix h hstep)).mp (hpasses before name hstep)
  · intro hnames before name hstep
    have hname : name ∈ names := hstep.subset (List.mem_append_right before List.mem_cons_self)
    exact (hr.skips_eq_false_iff (hw.isSome_of_prefix h hstep)).mpr (hnames name hname)

/-- Without rules a search comes to a directory that it cannot read if plain names lead to one. -/
theorem Unruled.blocked_iff (hw : t.WellFormed) (hr : t.Unruled r) :
    t.Blocked r ↔ ∃ names, names ≠ [] ∧ t.isDirectory (r.location ++ names) ∧ Plain names ∧
      isTooLong (r.pathOf names) := by
  refine exists_congr fun names => ?_
  rw [reaches_iff hw, List.append_nil, isDirectory_iff, and_assoc, and_assoc]
  refine and_congr_right fun _ => and_congr_right fun hdirectory => and_congr_left fun _ => ?_
  exact hr.passes_iff hw (Option.isSome_of_eq_some hdirectory)

/-- Trees without rule files have no rules. -/
theorem unruled_of_no_rule_files (h : ∀ e ∈ t.entries, ∀ file ∈ Level.ruleFiles, ¬file <:+ e.1) :
    t.Unruled r := by
  have hempty (level : Level) {file : List String} (hfile : file ∈ Level.ruleFiles) :
      level.rules t file = .empty := by
    have hne : file ≠ [] := by
      rintro rfl
      revert hfile
      decide
    have hnone : level.get? t file = none := by
      rw [Level.get?, ite_eq_left_iff]
      intro _
      rw [Option.eq_none_iff_forall_ne_some]
      intro e he
      rw [get?_eq_some_iff (List.append_ne_nil_of_right_ne_nil _ hne)] at he
      exact h _ he file hfile (List.suffix_append _ file)
    rw [Level.rules, hnone]
  intro names _ _
  have hsilent (file : List String) (hfile : file ∈ Level.ruleFiles) (level : Level) (path : List Char)
      (isDirectory : Bool) : level.verdict? t file path isDirectory = none := by
    rw [Level.verdict?, hempty level hfile]
    rfl
  rw [ruling?, verdict?]
  simp [hsilent Level.ignoreFile (by decide), hsilent Level.gitIgnoreFile (by decide),
    hsilent Level.excludeFile (by decide)]

/-- A directory with the name of the build directory, with odd names in it. -/
def oddNames : FileTree where
  entries := [(["target"], .directory), (["target", "a-b.rs"], .file .empty), (["target", "a"], .directory),
    (["target", "a", "b.rs"], .file .empty), (["target", "a", "target"], .directory),
    (["target", "a", "target", "c.rs"], .file .empty), (["target", "x.rs"], .directory),
    (["target", "x.rs", "y.rs"], .file .empty), (["target", "x.rs", "target"], .file .empty),
    (["target", ".rs"], .file .empty), (["target", ".d"], .directory),
    (["target", ".d", "e.rs"], .file .empty)]
  nodup := by decide

/-- The same, listed from the end. -/
def oddNamesBackwards : FileTree where
  entries := oddNames.entries.reverse
  nodup := by decide

/-- A search returns the paths of exactly the source files below its root to which plain names lead. -/
def FindsPlain (t : FileTree) (cwd : Location) (r : SearchRoot) : Prop :=
  ∃ found : List (List String), t.sources cwd r.text = .ok (found.map r.pathOf) ∧
    ∀ names, names ∈ found ↔
      t.isFile (r.location ++ names) ∧ (∃ stem, stem ≠ "" ∧ names.getLast? = some (stem ++ ".rs")) ∧
        Plain names

/-- A search in a directory, without rules, that does not return those paths. -/
def MissesPlain (t : FileTree) (cwd : Location) (r : SearchRoot) : Prop :=
  t.WellFormed ∧ t.locate cwd r.text = .ok r.location ∧ t.isDirectory r.location ∧ t.Unruled r ∧
    ¬t.FindsPlain cwd r

theorem not_findsPlain_of_nothing {cwd : Location} (names : List String) (stem : String)
    (hnothing : t.sources cwd r.text = .ok []) (hfile : t.isFile (r.location ++ names)) (hstem : stem ≠ "")
    (hlast : names.getLast? = some (stem ++ ".rs")) (hplain : Plain names) : ¬t.FindsPlain cwd r := by
  rintro ⟨found, hsources, hfound⟩
  rw [hnothing, Except.ok.injEq, eq_comm, List.map_eq_nil_iff] at hsources
  subst hsources
  exact absurd ((hfound names).mpr ⟨hfile, ⟨stem, hstem, hlast⟩, hplain⟩) List.not_mem_nil

/-- A directory below one whose rule file has a line that is no rule. -/
def brokenLine : FileTree where
  entries := [([".ignore"], .file "\x7b\n".toUTF8), (["sub"], .directory), (["sub", "a.rs"], .file .empty)]
  nodup := by decide

/-- A directory whose path is taken for standard input. -/
def dashed : FileTree where
  entries := [(["-"], .directory), (["-", "a.rs"], .file .empty)]
  nodup := by decide

def single : FileTree where
  entries := [(["a.rs"], .file .empty)]
  nodup := by decide

/-- A path of the current directory with slashes behind it. -/
def dotSlashes (n : Nat) : String := String.ofList ('.' :: List.replicate n '/')

variable {n : Nat}

theorem dotSlashes_size (n : Nat) : (dotSlashes n).utf8ByteSize = n + 1 := by
  have hslashes : String.utf8Len (List.replicate n '/') = n := by
    induction n with
    | zero => rfl
    | succ n ih =>
        rw [List.replicate_succ, String.utf8Len_cons, ih]
        rfl
  rw [dotSlashes, String.utf8ByteSize_ofList, String.utf8Len_cons, hslashes]
  rfl

theorem splitSlashes_slashes (n : Nat) :
    Path.splitSlashes (List.replicate n '/') = List.replicate (n + 1) [] := by
  induction n with
  | zero => rfl
  | succ n ih =>
      rw [List.replicate_succ, List.replicate_succ, ← ih]
      rfl

theorem steps_dotSlashes (n : Nat) : steps (dotSlashes (n + 1)) = [".", "."] := by
  have hpieces : Path.splitSlashes ('.' :: List.replicate (n + 1) '/') = ['.'] :: List.replicate (n + 1) [] := by
    rw [← splitSlashes_slashes]
    exact Text.pieces_append '/' ['.'] (List.replicate n '/')
  have hlast : ('.' :: List.replicate (n + 1) '/').getLast? = some '/' := by
    rw [List.getLast?_cons, List.getLast?_replicate]
    rfl
  rw [steps, dotSlashes, String.toList_ofList, hpieces, hlast]
  simp

/-- Such a path leads to the current directory, if it is not too long. -/
theorem locate_dotSlashes (hn : n + 2 < pathLimit) :
    t.locate [] (dotSlashes (n + 1)) = .ok [] := by
  have hlist : (dotSlashes (n + 1)).toList = '.' :: List.replicate (n + 1) '/' := String.toList_ofList
  have hfault : pathFault? (dotSlashes (n + 1)) = none := by
    have hnul : (dotSlashes (n + 1)).toList.contains '\x00' = false := by
      rw [hlist]
      simp
    have hempty : (dotSlashes (n + 1)).isEmpty = false := by
      rw [String.isEmpty_eq_false_iff]
      intro h
      rw [h] at hlist
      cases hlist
    rw [pathFault?, hnul, hempty, dotSlashes_size]
    simp [hn]
  have horigin : origin [] (dotSlashes (n + 1)) = [] := ite_self _
  have hroot : t.get? [] = some .directory := rfl
  rw [locate, hfault, steps_dotSlashes, horigin]
  simp [follow, hroot]

theorem pathOf_dotSlashes (name : String) (h : Path.isAbsolute name = false) :
    SearchRoot.pathOf ⟨dotSlashes (n + 1), []⟩ [name] = dotSlashes (n + 1) ++ name := by
  have hlast : (dotSlashes (n + 1)).toList.getLast? = some '/' := by
    rw [dotSlashes, String.toList_ofList, List.getLast?_cons, List.getLast?_replicate]
    rfl
  simp [SearchRoot.pathOf, Path.join, h, hlast]

private theorem single_wellFormed : single.WellFormed := by decide +kernel

/-- A root of a size that leaves no room for the name of the file. -/
theorem single_sources_dotSlashes (hn : n + 2 < pathLimit) (hfar : pathLimit ≤ n + 6) :
    single.sources [] (dotSlashes (n + 1)) = .ok [] := by
  have hstart : isStandardInput (dotSlashes (n + 1)) = false := by
    rw [isStandardInput, Path.ofText, dotSlashes, String.toList_ofList, List.replicate_succ]
    rfl
  have hnone : single.found ⟨dotSlashes (n + 1), []⟩ = [] := by
    rw [List.eq_nil_iff_forall_not_mem]
    intro names hnames
    obtain ⟨hfile, -, hfits, -⟩ := (mem_found_iff single_wellFormed).mp hnames
    have hname : names = ["a.rs"] := by
      by_cases hnil : names = []
      · rw [hnil] at hfile
        cases hfile
      · obtain ⟨content, hcontent⟩ := isFile_iff.mp hfile
        rw [List.nil_append, get?_eq_some_iff hnil] at hcontent
        exact congrArg Prod.fst (List.mem_singleton.mp hcontent)
    have hsize : "a.rs".utf8ByteSize = 4 := by decide
    rw [hname, pathOf_dotSlashes "a.rs" (by decide), isTooLong, String.utf8ByteSize_append, dotSlashes_size,
      hsize, decide_eq_false_iff_not] at hfits
    omega
  have hblocked : ¬single.Blocked ⟨dotSlashes (n + 1), []⟩ := by
    rintro ⟨names, hreaches, -⟩
    obtain ⟨hne, hdirectory, -⟩ := (reaches_iff single_wellFormed).mp hreaches
    rw [List.append_nil, List.nil_append, get?_eq_some_iff hne] at hdirectory
    cases List.mem_singleton.mp hdirectory
  refine (sources_eq_ok_iff (locate_dotSlashes hn) rfl single_wellFormed hstart).mpr ⟨?_, hblocked, ?_⟩
  · intro level hlevel
    cases hlevel
  · rw [hnone]
    rfl

end Nullability.FileTree
