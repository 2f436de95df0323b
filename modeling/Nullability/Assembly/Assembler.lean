import Nullability.Assembly.Basic
import Nullability.Log.Basic

/-!
Assembling records into builder specifications. In sequence, a fail-fast run classifies the components
of a record up to the first conflict; in parallel it classifies all of them and keeps the first
conflict. Either way the fields stand in declaration order.
-/

namespace Nullability

/-- How records are assembled. -/
structure Assembler where
  policy : FailurePolicy
  parallel : Bool
  deriving DecidableEq, Repr

namespace Assembler

/-- The field of a component. -/
def fieldSpec (c : Component) : Except Conflict FieldSpec :=
  (classify c).map fun verdict => ⟨c.name, verdict, c.line⟩

/-- The fields up to the first conflict. -/
def fieldsUntilConflict : List Component → Except Conflict (List FieldSpec)
  | [] => .ok []
  | c :: rest =>
    match fieldSpec c with
    | .error conflict => .error conflict
    | .ok field => (fieldsUntilConflict rest).map (field :: ·)

/-- Separates the fields from the conflicts, both in order. -/
def split (outcomes : List (Except Conflict FieldSpec)) : List FieldSpec × List Conflict :=
  (outcomes.filterMap fun | .ok f => some f | .error _ => none,
   outcomes.filterMap fun | .ok _ => none | .error e => some e)

/-- The fields of the components, and the conflicts that are reported. -/
def classifyAll (a : Assembler) (components : List Component) : List FieldSpec × List Conflict :=
  match a.policy, a.parallel with
  | .failFast, false =>
    match fieldsUntilConflict components with
    | .ok fields => (fields, [])
    | .error conflict => ([], [conflict])
  | .failFast, true =>
    let (fields, conflicts) := split (components.map fieldSpec)
    (fields, conflicts.take 1)
  | .collectAll, _ => split (components.map fieldSpec)

/-- A line that assembling logs. -/
def logLine (level : Log.Level) (text : String) : Log.Entry := ⟨level, .assembly, text⟩

/-- Assembles one record, with the lines it logs. -/
def assemble (a : Assembler) (r : Record) : Except AssemblyError BuilderSpec × Logged :=
  let start := logLine .debug
    ("Assembling " ++ r.name ++ " (" ++ toString r.components.length ++ " components)")
  let (fields, conflicts) := a.classifyAll r.components
  if conflicts.isEmpty then (.ok ⟨r.name, r.file, r.line, fields⟩, [start])
  else
    (.error ⟨r.name, r.location, conflicts⟩,
     start :: conflicts.map fun c => logLine .warn (r.location ++ ": " ++ c.message))

/-- Assembles the records of a run that stand at an index and behind it, until a fail-fast run is stopped by a
failure. -/
def assembleFrom (a : Assembler) (total : Nat) : Nat → List Record → AssemblyReport × Logged
  | _, [] => (⟨[], [], 0⟩, [])
  | index, r :: rest =>
    let (outcome, log) := a.assemble r
    match outcome with
    | .ok spec =>
      let (report, more) := a.assembleFrom total (index + 1) rest
      ({ report with specs := spec :: report.specs }, log ++ more)
    | .error e =>
      if a.policy = .failFast then (⟨[], [e], total - index - 1⟩, log)
      else
        let (report, more) := a.assembleFrom total (index + 1) rest
        ({ report with failures := e :: report.failures }, log ++ more)

/-- Assembles the records of a run, with the lines it logs. -/
def assembleAll (a : Assembler) (records : List Record) : AssemblyReport × Logged :=
  let (report, log) := a.assembleFrom records.length 0 records
  (report, log ++ [logLine .info
    ("Assembled " ++ toString report.specs.length ++ " builder spec(s), "
      ++ toString report.failures.length ++ " record(s) failed")])

end Assembler

end Nullability
