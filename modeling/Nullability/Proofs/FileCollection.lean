import Nullability.Proofs.FileRuns

/-!
A run that collects everything. What a file leaves depends on that file alone, so the results of a run are
those of its files one after another: nothing is lost, repeated or moved, and a run over two lists of files
is the one after the other. How the components are gone through does not show, under either policy.
-/

namespace Nullability.Inspection

/-- What one file leaves in a run that collects everything: one failure if it cannot be read or is no
source text, and otherwise the specifications of its records without conflicts and one failure for each
component in conflict, record by record. -/
inductive Leaves (t : FileTree) (cwd : Location) (marker : Option String) (path : String) :
    List BuilderSpec → List Failure → Prop
  | unreadable (cause : SystemError) (hread : t.readText cwd path = .error cause) :
      Leaves t cwd marker path []
        [⟨path, .fileRead, none, "File system error: Failed to read " ++ path⟩]
  | unparsable (text : String) (e : ParseError) (hread : t.readText cwd path = .ok text)
      (hparse : Record.parse text path marker = .error e) :
      Leaves t cwd marker path [] [⟨path, .fileParse, none, e.message⟩]
  | collected (text : String) (records : List Record) (log : Logged) (hread : t.readText cwd path = .ok text)
      (hparse : Record.parse text path marker = .ok (records, log)) :
      Leaves t cwd marker path ((records.filter (¬·.Conflicted)).map Record.spec)
        (records.flatMap fun r => (r.components.filter (Conflicting ·.tags)).map fun c =>
          ⟨path, .classification, some r.name,
            "Element " ++ c.name ++ " has both a nullable and not-nullable annotation"⟩)

section

variable {t : FileTree} {cwd : Location} {marker : Option String}

theorem specsOf_collectAll (records : List Record) (log : Logged) :
    specsOf .collectAll (.ok (records, log)) = (records.filter (¬·.Conflicted)).map Record.spec :=
  rfl

theorem failuresOf_ok (path : String) (records : List Record) (log : Logged) :
    failuresOf path (.ok (records, log)) =
      records.flatMap fun r => (r.components.filter (Conflicting ·.tags)).map fun c =>
        ⟨path, .classification, some r.name,
          "Element " ++ c.name ++ " has both a nullable and not-nullable annotation"⟩ := by
  rw [failuresOf]
  congr 1
  funext r
  rw [Record.failures, Record.conflicts, Component.conflicts, List.map_map]
  rfl

theorem leaves (path : String) :
    Leaves t cwd marker path (specsIn t cwd marker .collectAll path) (failuresIn t cwd marker path) := by
  rw [specsIn, failuresIn, Record.ofFile]
  cases hread : t.readText cwd path with
  | error cause => exact .unreadable cause hread
  | ok text =>
      cases hparse : Record.parse text path marker with
      | error e =>
          simp only [hparse]
          exact .unparsable text e hread hparse
      | ok read =>
          obtain ⟨records, log⟩ := read
          have hfile : (Except.ok (records, log)).mapError RunError.parse = .ok (records, log) := rfl
          simp only [hparse, hfile, failuresOf_ok, specsOf_collectAll]
          exact .collected text records log hread hparse

end

theorem resultOf_parallel (p : FailurePolicy) (path : String) (o : FileRecords) :
    resultOf ⟨p, true⟩ path o = resultOf ⟨p, false⟩ path o := by
  cases o with
  | error e => rfl
  | ok read =>
      obtain ⟨records, log⟩ := read
      rw [resultOf, resultOf, Assembler.assembleAll, Assembler.assembleAll, Assembler.assembleFrom_start,
        Assembler.assembleFrom_start]

theorem gather_parallel (p : FailurePolicy) (files : List (String × FileRecords)) :
    gather ⟨p, true⟩ files = gather ⟨p, false⟩ files := by
  induction files with
  | nil => rfl
  | cons f rest ih =>
      obtain ⟨path, o⟩ := f
      rw [gather, gather, resultOf_parallel, ih]

/-- A run that collects everything loses, repeats and moves nothing: its results are those of its files, in
order, and a run over two lists of files is the one run after the other. Under either policy the two modes
have the same results and the same lines for the reader. -/
theorem collectAll_concatenates_files (t : FileTree) (cwd : Location) (s : InspectSettings) :
    let run (p : FailurePolicy) (parallel : Bool) (paths : List String) :=
      files t cwd { s with failurePolicy := p, parallel := parallel } paths
    let shown (log : Logged) := log.filter (·.level ∈ [Log.Level.info, Log.Level.warn])
    (∃ specs failures, (∀ path, Leaves t cwd s.marker path (specs path) (failures path)) ∧
      ∀ parallel paths,
        (run .collectAll parallel paths).1 = ⟨paths.flatMap specs, paths.flatMap failures⟩) ∧
    (∀ parallel first second,
      (run .collectAll parallel (first ++ second)).1 =
        (run .collectAll parallel first).1 ++ (run .collectAll parallel second).1) ∧
    ∀ p paths, (run p true paths).1 = (run p false paths).1 ∧
      shown (run p true paths).2 = shown (run p false paths).2 := by
  intro run shown
  have hrun (parallel : Bool) (paths : List String) : (run .collectAll parallel paths).1 =
      ⟨paths.flatMap (specsIn t cwd s.marker .collectAll), paths.flatMap (failuresIn t cwd s.marker)⟩ :=
    files_collectAll { s with parallel := parallel } paths
  refine ⟨⟨_, _, leaves, hrun⟩, ?_, ?_⟩
  · intro parallel first second
    rw [hrun, hrun, hrun, List.flatMap_append, List.flatMap_append]
    rfl
  · intro p paths
    have hsame : run p true paths = run p false paths := by
      simp only [run, files, InspectSettings.assembler, gather_parallel]
    rw [hsame]
    exact ⟨rfl, rfl⟩

end Nullability.Inspection
