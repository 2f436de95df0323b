import Nullability.Inspection.Files
import Nullability.Proofs.RecordRuns

/-!
Inspecting the files of a run. The results are read off the files that the policy lets the run look at:
the specifications stand in the order of the files and their records, and of all failures in that order
the policy lets the first or all through. A fail-fast run is thus a collecting one, cut at its first
failure.
-/

namespace Nullability

/-- The failures of a record in a file. -/
def Record.failures (path : String) (r : Record) : List Failure :=
  r.conflicts.map fun c => ⟨path, .classification, some r.name, c.message⟩

namespace Record

variable {path : String} {r : Record}

theorem failures_of_not_conflicted (h : ¬r.Conflicted) : r.failures path = [] := by
  rw [failures, conflicts_eq_nil.mpr h, List.map_nil]

theorem failures_ne_nil (h : r.Conflicted) : r.failures path ≠ [] := by
  rw [failures, Ne, List.map_eq_nil_iff, conflicts_eq_nil]
  exact fun hn => hn h

theorem ofAssembly_refusal (p : FailurePolicy) (path : String) (r : Record) :
    Failure.ofAssembly path (r.refusal p) = p.reported (r.failures path) :=
  (p.reported_map _ r.conflicts).symm

end Record

/-- The failures of the records of a run in a file: of those of all records the policy lets the first or
all through. -/
theorem AssemblyReport.ofRecords_failures (p : FailurePolicy) (path : String) (records : List Record) :
    (ofRecords p records).failures.flatMap (Failure.ofAssembly path) =
      p.reported (records.flatMap (Record.failures path)) := by
  induction records with
  | nil => cases p <;> rfl
  | cons r rest ih =>
      by_cases h : r.Conflicted
      · cases p with
        | failFast =>
            rw [ofRecords_failFast_cons_of_conflicted h, List.flatMap_singleton, Record.ofAssembly_refusal,
              List.flatMap_cons, FailurePolicy.reported_failFast_append (Record.failures_ne_nil h)]
        | collectAll =>
            rw [ofRecords_collectAll_cons_of_conflicted h, List.flatMap_cons, Record.ofAssembly_refusal, ih,
              List.flatMap_cons]
            rfl
      · rw [ofRecords_cons_of_not_conflicted h, ih, List.flatMap_cons, Record.failures_of_not_conflicted h,
          List.nil_append]

namespace Inspection

/-- The failures of a file: that it cannot be read as one, or those of its records. -/
def failuresOf (path : String) : FileRecords → List Failure
  | .error e => [.ofUnreadable path e]
  | .ok (records, _) => records.flatMap (Record.failures path)

/-- The specifications of a file: those of its records that have no conflicts, as far as the policy lets
the run look. -/
def specsOf (p : FailurePolicy) : FileRecords → List BuilderSpec
  | .error _ => []
  | .ok (records, _) => (AssemblyReport.ofRecords p records).specs

theorem resultOf_result (a : Assembler) (path : String) (o : FileRecords) :
    (resultOf a path o).1 = ⟨specsOf a.policy o, a.policy.reported (failuresOf path o)⟩ := by
  cases o with
  | error e => rcases a with ⟨_ | _, _⟩ <;> rfl
  | ok read =>
      obtain ⟨records, log⟩ := read
      rw [resultOf, specsOf, failuresOf, ← AssemblyReport.ofRecords_failures, ← a.assembleAll_report records]

/-- Whether a file has failures. -/
def fails (f : String × FileRecords) : Bool := !(failuresOf f.1 f.2).isEmpty

theorem fails_eq_false {f : String × FileRecords} : fails f = false ↔ failuresOf f.1 f.2 = [] := by
  rw [fails, Bool.not_eq_false', List.isEmpty_iff]

theorem fails_eq_true {f : String × FileRecords} : fails f = true ↔ failuresOf f.1 f.2 ≠ [] := by
  rw [Ne, ← fails_eq_false, Bool.not_eq_false]

theorem resultOf_isCompleteSuccess (a : Assembler) (path : String) (o : FileRecords) :
    (resultOf a path o).1.isCompleteSuccess = !fails (path, o) := by
  rw [Bool.eq_iff_iff, Bool.not_eq_true', fails_eq_false, BatchResults.isCompleteSuccess,
    List.isEmpty_iff, resultOf_result, FailurePolicy.reported_eq_nil]

/-- One file of a run: if it fails and the policy is to stop, the rest is left out. -/
theorem gather_cons (a : Assembler) (path : String) (o : FileRecords) (rest : List (String × FileRecords)) :
    (gather a ((path, o) :: rest)).1 =
      if a.policy = .failFast ∧ fails (path, o) = true then (resultOf a path o).1
      else (resultOf a path o).1 ++ (gather a rest).1 := by
  rw [gather]
  simp only [resultOf_isCompleteSuccess, Bool.not_not]
  split <;> rfl

/-- The results of a run, read off the files that it looks at. -/
theorem gather_results (a : Assembler) (files : List (String × FileRecords)) :
    (gather a files).1 =
      ⟨(a.policy.reach fails files).flatMap fun f => specsOf a.policy f.2,
        a.policy.reported (files.flatMap fun f => failuresOf f.1 f.2)⟩ := by
  rcases a with ⟨p, parallel⟩
  induction files with
  | nil => cases p <;> rfl
  | cons f rest ih =>
      obtain ⟨path, o⟩ := f
      rw [gather_cons, resultOf_result, ih, List.flatMap_cons]
      cases hf : fails (path, o) with
      | true =>
          cases p with
          | failFast =>
              rw [if_pos ⟨rfl, rfl⟩, FailurePolicy.reach_failFast_cons_of_fails rest hf,
                List.flatMap_singleton, FailurePolicy.reported_failFast_append (fails_eq_true.mp hf)]
          | collectAll =>
              rw [if_neg (fun h => FailurePolicy.noConfusion h.1)]
              rfl
      | false =>
          rw [if_neg (fun h => Bool.false_ne_true h.2), p.reach_cons_of_passes rest hf, List.flatMap_cons,
            fails_eq_false.mp hf, List.nil_append, p.reported_nil]
          rfl

theorem failuresOf_eq_nil {path : String} {o : FileRecords} :
    failuresOf path o = [] ↔ ∃ records log, o = .ok (records, log) ∧ ∀ r ∈ records, ¬r.Conflicted := by
  cases o with
  | error e => simp [failuresOf]
  | ok read =>
      obtain ⟨records, log⟩ := read
      rw [failuresOf, List.flatMap_eq_nil_iff]
      constructor
      · intro h
        exact ⟨records, log, rfl, fun r hr hc => Record.failures_ne_nil hc (h r hr)⟩
      · rintro ⟨records', log', ho, h⟩ r hr
        cases ho
        exact Record.failures_of_not_conflicted (h r hr)

/-- Records without conflicts all have their specifications, under every policy. -/
theorem specsOf_of_no_conflict {records : List Record} (p : FailurePolicy) (log : Logged)
    (h : ∀ r ∈ records, ¬r.Conflicted) : specsOf p (.ok (records, log)) = records.map Record.spec := by
  rw [specsOf, AssemblyReport.ofRecords_of_no_conflict h]

/-- Where a file ends a fail-fast run: it cannot be read as one, or one of its records is the first that
has a conflict. The specifications are those of the records before, and the failure is the first. -/
inductive StopsAt (path : String) : FileRecords → List BuilderSpec → Failure → Prop
  | unreadable (e : RunError) : StopsAt path (.error e) [] (.ofUnreadable path e)
  | conflicted (before : List Record) (r : Record) (after : List Record) (log : Logged) (c : Conflict)
      (more : List Conflict) (hbefore : ∀ b ∈ before, ¬b.Conflicted) (hr : r.conflicts = c :: more) :
      StopsAt path (.ok (before ++ r :: after, log)) (before.map Record.spec)
        ⟨path, .classification, some r.name, c.message⟩

theorem specsOf_failFast_append {before after : List Record} {r : Record} (log : Logged)
    (hbefore : ∀ b ∈ before, ¬b.Conflicted) (hr : r.Conflicted) :
    specsOf .failFast (.ok (before ++ r :: after, log)) = before.map Record.spec := by
  rw [specsOf, AssemblyReport.ofRecords_append_specs hbefore,
    AssemblyReport.ofRecords_failFast_cons_of_conflicted hr, List.append_nil]

theorem failuresOf_append {before : List Record} (path : String) (rest : List Record) (log : Logged)
    (hbefore : ∀ b ∈ before, ¬b.Conflicted) :
    failuresOf path (.ok (before ++ rest, log)) = rest.flatMap (Record.failures path) := by
  have hnone : before.flatMap (Record.failures path) = [] :=
    List.flatMap_eq_nil_iff.mpr fun b hb => Record.failures_of_not_conflicted (hbefore b hb)
  rw [failuresOf, List.flatMap_append, hnone, List.nil_append]

/-- A file with failures ends a fail-fast run, at its first failure and with a beginning of the
specifications that a collecting run has. -/
theorem exists_stopsAt {path : String} {o : FileRecords} (h : failuresOf path o ≠ []) :
    ∃ f more, failuresOf path o = f :: more ∧ StopsAt path o (specsOf .failFast o) f ∧
      specsOf .failFast o <+: specsOf .collectAll o := by
  cases o with
  | error e => exact ⟨_, [], rfl, .unreadable e, List.prefix_rfl⟩
  | ok read =>
      obtain ⟨records, log⟩ := read
      have hconflicted : ∃ r ∈ records, r.Conflicted := by
        refine Decidable.byContradiction fun hn => h (failuresOf_eq_nil.mpr ⟨records, log, rfl, ?_⟩)
        exact fun r hr hc => hn ⟨r, hr, hc⟩
      obtain ⟨before, r, after, rfl, hbefore, hr⟩ := Record.exists_first_conflicted hconflicted
      obtain ⟨c, more, hconflicts⟩ := List.exists_cons_of_ne_nil
        (fun hnil => Record.conflicts_eq_nil.mp hnil hr)
      have hfailures := failuresOf_append path (r :: after) log hbefore
      rw [List.flatMap_cons, Record.failures, hconflicts, List.map_cons, List.cons_append] at hfailures
      refine ⟨_, _, hfailures, ?_, ?_⟩
      · rw [specsOf_failFast_append log hbefore hr]
        exact .conflicted before r after log c more hbefore hconflicts
      · rw [specsOf_failFast_append log hbefore hr, specsOf,
          AssemblyReport.ofRecords_append_specs hbefore]
        exact List.prefix_append _ _

section

variable (t : FileTree) (cwd : Location) (marker : Option String)

/-- The failures of the file at a path. -/
def failuresIn (path : String) : List Failure := failuresOf path (Record.ofFile t cwd marker path)

/-- The specifications of the file at a path. -/
def specsIn (p : FailurePolicy) (path : String) : List BuilderSpec :=
  specsOf p (Record.ofFile t cwd marker path)

/-- A file is read, none of its records has a conflict, and it gives the specifications of all of them. -/
def Clean (path : String) (specs : List BuilderSpec) : Prop :=
  ∃ records log, Record.ofFile t cwd marker path = .ok (records, log) ∧ (∀ r ∈ records, ¬r.Conflicted) ∧
    specs = records.map Record.spec

/-- The files that a run looks at. -/
def visited (p : FailurePolicy) (paths : List String) : List String :=
  p.reach (fun path => !(failuresIn t cwd marker path).isEmpty) paths

variable {t cwd marker}

theorem clean_of_no_failures {path : String} (h : failuresIn t cwd marker path = []) (p : FailurePolicy) :
    Clean t cwd marker path (specsIn t cwd marker p path) := by
  obtain ⟨records, log, hread, hclean⟩ := failuresOf_eq_nil.mp h
  refine ⟨records, log, hread, hclean, ?_⟩
  rw [specsIn, hread, specsOf_of_no_conflict p log hclean]

theorem visited_of_no_failures {paths : List String} (h : ∀ path ∈ paths, failuresIn t cwd marker path = [])
    (p : FailurePolicy) : visited t cwd marker p paths = paths := by
  refine p.reach_eq_self fun path hpath => ?_
  rw [h path hpath]
  rfl

/-- A run with failures splits at the first file that has one. -/
theorem exists_first_failing {paths : List String}
    (h : paths.flatMap (failuresIn t cwd marker) ≠ []) :
    ∃ before path after, paths = before ++ path :: after ∧
      (∀ q ∈ before, failuresIn t cwd marker q = []) ∧ failuresIn t cwd marker path ≠ [] := by
  have hstop : ∃ path ∈ paths, (!(failuresIn t cwd marker path).isEmpty) = true := by
    obtain ⟨f, hf⟩ := List.exists_mem_of_ne_nil _ h
    obtain ⟨path, hpath, hmem⟩ := List.mem_flatMap.mp hf
    refine ⟨path, hpath, ?_⟩
    rw [Bool.not_eq_true', List.isEmpty_eq_false_iff]
    exact List.ne_nil_of_mem hmem
  obtain ⟨before, path, after, rfl, hbefore, hpath⟩ := exists_first_stop hstop
  refine ⟨before, path, after, rfl, fun q hq => ?_, ?_⟩
  · have hq := hbefore q hq
    rwa [Bool.not_eq_false', List.isEmpty_iff] at hq
  · rwa [Bool.not_eq_true', List.isEmpty_eq_false_iff] at hpath

/-- A fail-fast run looks at the files up to the first that has failures. -/
theorem visited_failFast_append {before after : List String} {path : String}
    (hbefore : ∀ q ∈ before, failuresIn t cwd marker q = [])
    (hpath : failuresIn t cwd marker path ≠ []) :
    visited t cwd marker .failFast (before ++ path :: after) = before ++ [path] := by
  refine takeThrough_append (fun q hq => ?_) ?_
  · rw [hbefore q hq]
    rfl
  · rwa [Bool.not_eq_true', List.isEmpty_eq_false_iff]

theorem flatMap_failuresIn_append {before after : List String} {path : String}
    (hbefore : ∀ q ∈ before, failuresIn t cwd marker q = []) :
    (before ++ path :: after).flatMap (failuresIn t cwd marker) =
      failuresIn t cwd marker path ++ after.flatMap (failuresIn t cwd marker) := by
  rw [List.flatMap_append, List.flatMap_eq_nil_iff.mpr hbefore, List.nil_append, List.flatMap_cons]

/-- Files without failures have the same specifications under every policy. -/
theorem flatMap_specsIn_of_no_failures {paths : List String}
    (h : ∀ path ∈ paths, failuresIn t cwd marker path = []) (p q : FailurePolicy) :
    paths.flatMap (specsIn t cwd marker p) = paths.flatMap (specsIn t cwd marker q) := by
  have hmap : paths.map (specsIn t cwd marker p) = paths.map (specsIn t cwd marker q) := by
    refine List.map_congr_left fun path hpath => ?_
    obtain ⟨records, log, hread, hclean⟩ := failuresOf_eq_nil.mp (h path hpath)
    rw [specsIn, specsIn, hread, specsOf_of_no_conflict p log hclean, specsOf_of_no_conflict q log hclean]
  rw [List.flatMap_def, List.flatMap_def, hmap]

end

/-- The results of a run over paths, read off the files that it looks at. -/
theorem files_results (t : FileTree) (cwd : Location) (s : InspectSettings) (paths : List String) :
    (files t cwd s paths).1 =
      ⟨(visited t cwd s.marker s.failurePolicy paths).flatMap (specsIn t cwd s.marker s.failurePolicy),
        s.failurePolicy.reported (paths.flatMap (failuresIn t cwd s.marker))⟩ := by
  rw [files]
  simp only [gather_results, FailurePolicy.reach_map, List.flatMap_map]
  rfl

/-- A run without failures has all its files clean, and the specifications of all of them. -/
theorem files_of_no_failures {t : FileTree} {cwd : Location} {s : InspectSettings} {paths : List String}
    (h : (files t cwd s paths).1.failures = []) :
    (∀ path ∈ paths, Clean t cwd s.marker path (specsIn t cwd s.marker s.failurePolicy path)) ∧
    (files t cwd s paths).1.successes = paths.flatMap (specsIn t cwd s.marker s.failurePolicy) := by
  rw [files_results] at h ⊢
  have hnone := List.flatMap_eq_nil_iff.mp (FailurePolicy.reported_eq_nil.mp h)
  refine ⟨fun path hpath => clean_of_no_failures (hnone path hpath) _, ?_⟩
  rw [visited_of_no_failures hnone]

section

variable {t : FileTree} {cwd : Location} (s : InspectSettings)

theorem files_collectAll (paths : List String) :
    (files t cwd { s with failurePolicy := .collectAll } paths).1 =
      ⟨paths.flatMap (specsIn t cwd s.marker .collectAll), paths.flatMap (failuresIn t cwd s.marker)⟩ :=
  files_results t cwd _ paths

/-- A fail-fast run over files without failures has what a collecting run has. -/
theorem files_failFast_of_no_failures {paths : List String}
    (h : ∀ path ∈ paths, failuresIn t cwd s.marker path = []) :
    (files t cwd { s with failurePolicy := .failFast } paths).1 =
      ⟨paths.flatMap (specsIn t cwd s.marker .collectAll), []⟩ := by
  rw [files_results, visited_of_no_failures h, List.flatMap_eq_nil_iff.mpr h,
    FailurePolicy.reported_nil, flatMap_specsIn_of_no_failures h .collectAll .failFast]

/-- A fail-fast run ends in the first file that has failures, with the first of them alone. -/
theorem files_failFast_append {before after : List String} {path : String} {f : Failure}
    {more : List Failure} (hbefore : ∀ q ∈ before, failuresIn t cwd s.marker q = [])
    (hpath : failuresIn t cwd s.marker path = f :: more) :
    (files t cwd { s with failurePolicy := .failFast } (before ++ path :: after)).1 =
      ⟨before.flatMap (specsIn t cwd s.marker .collectAll) ++ specsIn t cwd s.marker .failFast path,
        [f]⟩ := by
  have hfails : failuresIn t cwd s.marker path ≠ [] := hpath ▸ List.cons_ne_nil f more
  rw [files_results, visited_failFast_append hbefore hfails, flatMap_failuresIn_append hbefore, hpath,
    List.flatMap_append, List.flatMap_singleton,
    flatMap_specsIn_of_no_failures hbefore .failFast .collectAll]
  rfl

end

/-- A fail-fast run is the run that collects everything, cut at its first failure. Without a failure they
are the same. Otherwise the fail-fast run has the first failure alone, and the specifications of the
files and records before it, which are a beginning of those that the other run has. So the two agree on
whether anything failed and on what may be handed on. -/
theorem failFast_cuts_collectAll (t : FileTree) (cwd : Location) (s : InspectSettings)
    (paths : List String) :
    let collecting := (files t cwd { s with failurePolicy := .collectAll } paths).1
    let failFast := (files t cwd { s with failurePolicy := .failFast } paths).1
    (collecting.failures = [] → failFast = collecting) ∧
    (∀ f more, collecting.failures = f :: more →
      failFast.failures = [f] ∧ failFast.successes <+: collecting.successes ∧
      ∃ before path after specs, paths = before ++ path :: after ∧
        (∀ q ∈ before, Clean t cwd s.marker q (specsIn t cwd s.marker .collectAll q)) ∧
        StopsAt path (Record.ofFile t cwd s.marker path) specs f ∧
        failFast.successes = before.flatMap (specsIn t cwd s.marker .collectAll) ++ specs) ∧
    failFast.failures.length ≤ 1 ∧
    failFast.isCompleteSuccess = collecting.isCompleteSuccess ∧
    failFast.emittable = collecting.emittable := by
  intro collecting failFast
  have hc : collecting = _ := files_collectAll s paths
  by_cases h : paths.flatMap (failuresIn t cwd s.marker) = []
  · have hf : failFast = _ := files_failFast_of_no_failures s (List.flatMap_eq_nil_iff.mp h)
    rw [h] at hc
    rw [hf, hc]
    refine ⟨fun _ => rfl, ?_, Nat.zero_le 1, rfl, rfl⟩
    intro f more hfailures
    cases hfailures
  · obtain ⟨before, path, after, rfl, hbefore, hpath⟩ := exists_first_failing h
    obtain ⟨f, rest, hfailures, hstops, hprefix⟩ := exists_stopsAt hpath
    have hf : failFast = _ := files_failFast_append s hbefore hfailures
    rw [flatMap_failuresIn_append hbefore, failuresIn, hfailures, List.cons_append] at hc
    rw [hf, hc]
    refine ⟨fun hnil => absurd hnil (List.cons_ne_nil _ _), ?_, Nat.le_refl 1, rfl, rfl⟩
    intro g more hmore
    cases hmore
    refine ⟨rfl, ?_, before, path, after, _, rfl, ?_, hstops, rfl⟩
    · rw [List.flatMap_append, List.flatMap_cons, List.prefix_append_right_inj]
      exact List.prefix_append_of_prefix hprefix
    · exact fun q hq => clean_of_no_failures (hbefore q hq) .collectAll

end Inspection

end Nullability
