import Nullability.Proofs.ConfigDiscovery
import Nullability.Proofs.PlacePaths
import Nullability.TakeThrough

/-!
What the search for a configuration looks at. It asks for the files of the current directory and of the
directories above it, ten at most, and for none behind the first that is a configuration. Two trees with the
same at these places have the same configuration and the same log; each warning is about a file that was
asked for and that the system did not call missing.
-/

namespace Nullability

namespace FileTree

open Location

variable {t u : FileTree} {l : Location}

theorem isSome_of_isDirectory (h : t.isDirectory l) : (t.get? l).isSome :=
  Option.isSome_of_eq_some (isDirectory_iff.mp h)

theorem WellFormed.isDirectory_of_prefix (hw : t.WellFormed) (h : t.isDirectory l) {above : Location}
    (habove : above <+: l) : t.isDirectory above := by
  obtain ⟨below, rfl⟩ := habove
  by_cases hbelow : below = []
  · rwa [hbelow, List.append_nil] at h
  · exact hw.isDirectory_above hbelow (isSome_of_isDirectory h)

/-- Names are followed alike where the same is at every place on the way. -/
theorem follow_congr_of_agree {names : List String} (hnames : Named names)
    (h : ∀ step, step <+: names → t.get? (l ++ step) = u.get? (l ++ step)) :
    t.follow l names = u.follow l names := by
  induction names generalizing l with
  | nil => rw [follow, follow]
  | cons name rest ih =>
      have hhere : t.get? l = u.get? l := by
        have hstart := h [] List.nil_prefix
        rwa [List.append_nil] at hstart
      have hthere : t.get? (l ++ [name]) = u.get? (l ++ [name]) := h [name] (List.prefix_append [name] rest)
      have hrest : t.follow (l ++ [name]) rest = u.follow (l ++ [name]) rest := by
        refine ih (fun n hn => hnames n (List.mem_cons_of_mem name hn)) fun step hstep => ?_
        rw [List.append_assoc]
        exact h (name :: step) ((List.prefix_cons_inj name).mpr hstep)
      have hname := hnames name List.mem_cons_self
      simp only [follow, hhere, hthere, hname.2.1, hname.2.2.1, hrest, if_false]

/-- Names lead to the place that they make. -/
theorem follow_names_ok {names : List String} (hnames : Named names) {m : Location}
    (h : t.follow l names = .ok m) : m = l ++ names := by
  induction names generalizing l with
  | nil =>
      rw [follow] at h
      cases h
      exact (List.append_nil _).symm
  | cons name rest ih =>
      have hname := hnames name List.mem_cons_self
      have hlater : Named rest := fun n hn => hnames n (List.mem_cons_of_mem name hn)
      rw [follow] at h
      simp only [hname.2.1, hname.2.2.1, if_false] at h
      split at h
      · cases h
      · cases h
      · split at h
        · cases h
        · split at h
          · cases h
          · rw [ih hlater h, List.append_assoc, List.singleton_append]

/-- A file is read alike by its absolute path where the same is at every place on the way. -/
theorem readText_congr_of_agree (hl : Named l) (hne : l ≠ [])
    (h : ∀ place, place <+: l → t.get? place = u.get? place) :
    t.readText [] (Location.text l) = u.readText [] (Location.text l) := by
  have hfollow : t.follow [] l = u.follow [] l := follow_congr_of_agree hl h
  rw [readText, readText, locate_absolute hl hne, locate_absolute hl hne, hfollow]
  cases pathFault? (Location.text l) with
  | some fault => rfl
  | none =>
      cases hm : u.follow [] l with
      | error fault => rfl
      | ok m =>
          rw [follow_names_ok hl hm, List.nil_append]
          simp only [h l List.prefix_rfl]

end FileTree

namespace Config

open FileTree

variable {t u : FileTree} {cwd : Location}

/-- The places of the configuration files that are looked for from a directory, the nearest first: its own
and those of the directories above it, ten at most. -/
def candidatePlaces (cwd : Location) : List Location :=
  (cwd.inits.reverse.take searchDepth).map (· ++ [fileName])

/-- Whether the file at a path ends the search. -/
def endsSearch (t : FileTree) (path : String) : Bool := (readCandidate t path).1.isSome

/-- The places that a search looks at: those up to the first whose file is a configuration, or all. -/
def consulted (t : FileTree) (cwd : Location) : List Location :=
  takeThrough (fun place => endsSearch t (Location.text place)) (candidatePlaces cwd)

instance (path : String) : Decidable (Present t path) := inferInstanceAs (Decidable (_ ≠ _))

theorem candidates_eq_places (hcwd : Location.Named cwd) :
    candidates cwd = (candidatePlaces cwd).map Location.text := by
  rw [candidates_eq hcwd, candidatePlaces, List.map_map]
  rfl

theorem exists_of_mem_candidatePlaces {place : Location} (h : place ∈ candidatePlaces cwd) :
    ∃ m, m <+: cwd ∧ place = m ++ [fileName] := by
  obtain ⟨m, hm, rfl⟩ := List.mem_map.mp h
  exact ⟨m, (List.mem_inits m cwd).mp (List.mem_reverse.mp (List.mem_of_mem_take hm)), rfl⟩

/-! ### The search -/

theorem readCandidate_congr {path : String} (h : t.readText [] path = u.readText [] path) :
    readCandidate t path = readCandidate u path := by
  rw [readCandidate, readCandidate, h]

theorem firstUsable_cons_of_endsSearch {path : String} (h : endsSearch t path = true) (rest : List String) :
    firstUsable t (path :: rest) = readCandidate t path := by
  obtain ⟨c, hc⟩ := Option.isSome_iff_exists.mp h
  have hread : readCandidate t path = (some c, (readCandidate t path).2) := Prod.ext hc rfl
  rw [firstUsable, hread]

theorem firstUsable_cons_of_not_endsSearch {path : String} (h : endsSearch t path = false)
    (rest : List String) :
    firstUsable t (path :: rest) =
      ((firstUsable t rest).1, (readCandidate t path).2 ++ (firstUsable t rest).2) := by
  refine firstUsable_cons_of_unusable (readCandidate_eq_none_iff.mp ?_) rest
  rwa [endsSearch, Option.isSome_eq_false_iff, Option.isNone_iff_eq_none] at h

/-- A search depends on nothing behind the first configuration that it finds. -/
theorem firstUsable_congr {paths : List String}
    (h : ∀ path ∈ takeThrough (endsSearch t) paths, readCandidate t path = readCandidate u path) :
    firstUsable t paths = firstUsable u paths := by
  induction paths with
  | nil => rfl
  | cons path rest ih =>
      cases hend : endsSearch t path with
      | true =>
          rw [takeThrough_cons_of_stop hend] at h
          have hread := h path (List.mem_singleton_self path)
          have hend' : endsSearch u path = true := by rw [endsSearch, ← hread, ← endsSearch, hend]
          rw [firstUsable_cons_of_endsSearch hend, firstUsable_cons_of_endsSearch hend', hread]
      | false =>
          rw [takeThrough_cons_of_not_stop hend, List.forall_mem_cons] at h
          have hend' : endsSearch u path = false := by rw [endsSearch, ← h.1, ← endsSearch, hend]
          rw [firstUsable_cons_of_not_endsSearch hend, firstUsable_cons_of_not_endsSearch hend', h.1,
            ih h.2]

/-- A search logs what the files that it looks at give rise to, one after another. -/
theorem firstUsable_log (t : FileTree) (paths : List String) :
    (firstUsable t paths).2 =
      (takeThrough (endsSearch t) paths).flatMap fun path => (readCandidate t path).2 := by
  induction paths with
  | nil => rfl
  | cons path rest ih =>
      cases hend : endsSearch t path with
      | true =>
          rw [firstUsable_cons_of_endsSearch hend, takeThrough_cons_of_stop hend, List.flatMap_singleton]
      | false =>
          rw [firstUsable_cons_of_not_endsSearch hend, takeThrough_cons_of_not_stop hend, List.flatMap_cons,
            ih]

theorem firstUsable_candidates_log (hcwd : Location.Named cwd) :
    (firstUsable t (candidates cwd)).2 =
      (consulted t cwd).flatMap fun place => (readCandidate t (Location.text place)).2 := by
  rw [firstUsable_log, candidates_eq_places hcwd, takeThrough_map, List.flatMap_map]
  rfl

/-! ### What is loaded -/

theorem load_congr (hcwd : t.isDirectory cwd = u.isDirectory cwd)
    (h : t.isDirectory cwd → firstUsable t (candidates cwd) = firstUsable u (candidates cwd)) :
    load t cwd = load u cwd := by
  rw [load, load, discover, discover, ← hcwd]
  by_cases hd : t.isDirectory cwd
  · rw [if_pos hd, if_pos hd, h hd]
  · rw [if_neg hd, if_neg hd]

/-- The warnings of a search are all the warnings that there are when a configuration is loaded. -/
theorem load_warnings (h : t.isDirectory cwd) :
    (load t cwd).2.filter (·.level = .warn) =
      (firstUsable t (candidates cwd)).2.filter (·.level = .warn) := by
  rw [load, discover, if_pos h]
  cases hfound : firstUsable t (candidates cwd) with
  | mk found log =>
      cases found with
      | some c => rfl
      | none =>
          rw [List.filter_append]
          exact List.append_nil _

/-- Missing files give rise to no line, so they can be left out of what a search logs. -/
theorem flatMap_readCandidate_present (t : FileTree) (places : List Location) :
    (places.flatMap fun place => (readCandidate t (Location.text place)).2) =
      (places.filter fun place => Present t (Location.text place)).flatMap fun place =>
        (readCandidate t (Location.text place)).2 := by
  induction places with
  | nil => rfl
  | cons place rest ih =>
      rw [List.flatMap_cons, List.filter_cons, ih]
      by_cases h : Present t (Location.text place)
      · rw [if_pos (decide_eq_true h), List.flatMap_cons]
      · rw [if_neg (by simpa using h), readCandidate_of_not_present h, List.nil_append]

/-- Above a directory that two trees have in common, they have all directories in common; so the same file
is read where the same is in both. -/
theorem readCandidate_congr_of_place (ht : t.WellFormed) (hu : u.WellFormed) (hcwd : t.isDirectory cwd)
    (hcwd' : u.isDirectory cwd) {place : Location} (hplace : place ∈ candidatePlaces cwd)
    (h : t.get? place = u.get? place) :
    readCandidate t (Location.text place) = readCandidate u (Location.text place) := by
  obtain ⟨m, hm, rfl⟩ := exists_of_mem_candidatePlaces hplace
  have hnamed : Location.Named (m ++ [fileName]) := by
    intro name hname
    rcases List.mem_append.mp hname with hname | hname
    · exact ht.isEntryName (isSome_of_isDirectory hcwd) name (hm.subset hname)
    · exact List.mem_singleton.mp hname ▸ isEntryName_fileName
  refine readCandidate_congr (readText_congr_of_agree hnamed (by simp) fun step hstep => ?_)
  rcases List.prefix_concat_iff.mp hstep with rfl | hstep
  · exact h
  · have habove := hstep.trans hm
    rw [isDirectory_iff.mp (ht.isDirectory_of_prefix hcwd habove),
      isDirectory_iff.mp (hu.isDirectory_of_prefix hcwd' habove)]

/-- The search for a configuration is local. What is loaded in a directory, and what is logged of it, depends
on the tree only at the places of the directory's own configuration file and of those of the directories
above it, ten at most, up to the first that is a configuration: nothing further up counts. The warnings are
those about these files, without the ones that the system calls missing. -/
theorem discovery_is_local (ht : t.WellFormed) (hu : u.WellFormed)
    (hcwd : t.isDirectory cwd = u.isDirectory cwd)
    (hagree : ∀ place ∈ consulted t cwd, t.get? place = u.get? place) :
    load t cwd = load u cwd ∧
    (t.isDirectory cwd → (load t cwd).2.filter (·.level = .warn) =
      ((consulted t cwd).filter fun place => Present t (Location.text place)).flatMap fun place =>
        (readCandidate t (Location.text place)).2.filter (·.level = .warn)) := by
  refine ⟨load_congr hcwd fun hd => ?_, fun hd => ?_⟩
  · have hnamed : Location.Named cwd := ht.isEntryName (isSome_of_isDirectory hd)
    refine firstUsable_congr fun path hpath => ?_
    rw [candidates_eq_places hnamed, takeThrough_map] at hpath
    obtain ⟨place, hplace, rfl⟩ := List.mem_map.mp hpath
    exact readCandidate_congr_of_place ht hu hd (hcwd ▸ hd) ((takeThrough_isPrefix _).subset hplace)
      (hagree place hplace)
  · have hnamed : Location.Named cwd := ht.isEntryName (isSome_of_isDirectory hd)
    rw [load_warnings hd, firstUsable_candidates_log hnamed, flatMap_readCandidate_present,
      List.filter_flatMap]

/-- A directory ten names deep. -/
def deepDirectory : Location := ["a", "b", "c", "d", "e", "f", "g", "h", "i", "j"]

/-- The way to that directory, with a broken configuration file and a directory that has the name of one. -/
def deepTree : FileTree :=
  ((directoriesTo deepDirectory).insert ["a", "b", fileName] (.file "[".toUTF8)).insert
    ["a", "b", "c", fileName] .directory

/-- The same with a configuration in the root directory. -/
def deepTreeBelowConfig : FileTree :=
  deepTree.insert [fileName] (.file "[classification]\nfailure_policy = \"fail-fast\"\n".toUTF8)

theorem eleventh_directory_does_not_count :
    deepTree.WellFormed ∧ deepTreeBelowConfig.WellFormed ∧
      deepTree.isDirectory deepDirectory = deepTreeBelowConfig.isDirectory deepDirectory ∧
      (∀ place ∈ consulted deepTree deepDirectory, deepTree.get? place = deepTreeBelowConfig.get? place) ∧
      load deepTree deepDirectory = load deepTreeBelowConfig deepDirectory ∧
      (load deepTree deepDirectory).1 = default ∧
      (load deepTree deepDirectory).2.countP (·.level = .warn) = 2 := by
  have ht : deepTree.WellFormed := by decide +kernel
  have hu : deepTreeBelowConfig.WellFormed := by decide +kernel
  have hcwd : deepTree.isDirectory deepDirectory = deepTreeBelowConfig.isDirectory deepDirectory := by
    decide +kernel
  have hagree : ∀ place ∈ consulted deepTree deepDirectory,
      deepTree.get? place = deepTreeBelowConfig.get? place := by
    intro place hplace
    have hne : place ≠ [fileName] := by
      have hroot : [fileName] ∉ candidatePlaces deepDirectory := by decide
      rintro rfl
      exact hroot ((takeThrough_isPrefix _).subset hplace)
    rw [deepTreeBelowConfig, get?_insert _ _ _ _ (by simp), if_neg hne]
  have hload := (discovery_is_local ht hu hcwd hagree).1
  refine ⟨ht, hu, hcwd, hagree, hload, ?_, ?_⟩ <;> decide +kernel

end Config

end Nullability
