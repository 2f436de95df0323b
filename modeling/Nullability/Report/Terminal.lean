import Nullability.Assembly.Basic
import Nullability.Batch.Results
import Nullability.Report.Grid
import Nullability.Report.Styled

/-!
Reports for a terminal: a table for every record, a line for every failure, and a last line that counts
both.
-/

namespace Nullability.Report

/-- What happens when no value is given for a field. -/
def absentValueLabel : NullPolicy → String
  | .rejectAbsent => "rejected"
  | .acceptAbsent => "defaults to none"

/-- Where a record is declared, if both its file and its line are known. -/
def locationSuffix (s : BuilderSpec) : String :=
  match s.file, s.line with
  | some file, some line => " (" ++ file ++ ":" ++ toString line ++ ")"
  | _, _ => ""

/-- The table of the fields of a record. -/
def fieldGrid (s : BuilderSpec) : Grid where
  header := ["Component", "Classification", "Absent value", "Line"]
  rows := s.fields.map fun f =>
    [f.name, f.classification.name, absentValueLabel f.nullPolicy, (f.line.map toString).getD ""]

/-- The line that names the arguments of the constructor. -/
def constructorLine (s : BuilderSpec) : String :=
  "  constructor: (" ++ String.intercalate ", " s.constructorParameters ++ ")"

/-- The heading of a record. -/
def heading (s : BuilderSpec) : Styled :=
  [⟨some .bold, s.record⟩, ⟨some .dimmed, locationSuffix s⟩, .plain "\n"]

def specSection (s : BuilderSpec) : Styled :=
  heading s ++
    if s.fields.isEmpty then [.plain "  (no components)\n"]
    else
      (fieldGrid s).lines.map (fun line => .plain (line ++ "\n"))
        ++ [.plain (constructorLine s ++ "\n"), .plain "\n"]

def failureLine (f : Failure) : Styled := [⟨some .boldRed, "✗"⟩, .plain (" " ++ f.message ++ "\n")]

/-- The last line. -/
def statusLine (records failures : Nat) : Styled :=
  let classified := toString records ++ " record(s) classified"
  (if failures = 0 then [⟨some .green, classified⟩]
    else [⟨some .red, classified ++ ", " ++ toString failures ++ " failure(s)"⟩]) ++ [.plain "\n"]

/-- A report for a terminal. -/
def terminal (specs : List BuilderSpec) (failures : List Failure) : Styled :=
  specs.flatMap specSection ++ failures.flatMap failureLine ++ statusLine specs.length failures.length

end Nullability.Report
