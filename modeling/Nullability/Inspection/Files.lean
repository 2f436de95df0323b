import Nullability.Assembly.Assembler
import Nullability.Batch.Results
import Nullability.FileTree.Access
import Nullability.RunError
import Nullability.Settings.Resolution

/-!
Inspecting files: each is read, its records are assembled, and the results are put together in the order
of the files. A fail-fast inspection ends with the first file that has a failure.
-/

namespace Nullability

/-- The records of a file, with the lines that reading them logs. -/
def Record.ofFile (t : FileTree) (cwd : Location) (marker : Option String) (path : String) :
    Except RunError (List Record × Logged) :=
  match t.readText cwd path with
  | .error cause => .error (.fileSystem ("Failed to read " ++ path) (some path) (some cause))
  | .ok text => (Record.parse text path marker).mapError .parse

/-- The failure of a file whose records could not be read. -/
def Failure.ofUnreadable (path : String) (e : RunError) : Failure :=
  match e with
  | .fileSystem .. => ⟨path, .fileRead, none, e.message⟩
  | _ => ⟨path, .fileParse, none, e.message⟩

/-- The failures of a record in a file, one for each conflict. -/
def Failure.ofAssembly (path : String) (e : AssemblyError) : List Failure :=
  e.conflicts.map fun c => ⟨path, .classification, some e.record, c.message⟩

namespace Inspection

/-- What has been read of a file. -/
abbrev FileRecords := Except RunError (List Record × Logged)

/-- The result of one file, with the lines that assembling its records logs. -/
def resultOf (a : Assembler) (path : String) : FileRecords → BatchResults BuilderSpec × Logged
  | .error e => (⟨[], [Failure.ofUnreadable path e]⟩, [])
  | .ok (records, _) =>
    let (report, log) := a.assembleAll records
    (⟨report.specs, report.failures.flatMap (Failure.ofAssembly path)⟩, log)

/-- Puts the results of files together, up to the first failure if the inspection is fail-fast. -/
def gather (a : Assembler) : List (String × FileRecords) → BatchResults BuilderSpec × Logged
  | [] => (.empty, [])
  | (path, outcome) :: rest =>
    let (result, log) := resultOf a path outcome
    if a.policy = .failFast ∧ !result.isCompleteSuccess then
      (result, log ++ [⟨.info, .inspection, "Stopping after first failure in " ++ path⟩])
    else
      let (results, more) := gather a rest
      (result ++ results, log ++ more)

/-- The lines that reading files logs. -/
def readingLog (outcomes : List (String × FileRecords)) : Logged :=
  outcomes.flatMap fun
    | (_, .ok (_, log)) => log
    | (_, .error _) => []

/-- Inspects files. All are read before the records of the first are assembled. -/
def files (t : FileTree) (cwd : Location) (s : InspectSettings) (paths : List String) :
    BatchResults BuilderSpec × Logged :=
  let outcomes := paths.map fun path => (path, Record.ofFile t cwd s.marker path)
  let (results, log) := gather s.assembler outcomes
  (results, readingLog outcomes ++ log)

end Inspection

end Nullability
