import Nullability.Batch.Results
import Nullability.Json.Codec
import Nullability.Report.Terminal

/-!
Reports as one JSON value, and the choice between the two kinds of reports.
-/

namespace Nullability.Report

open Json

/-- A failure as a JSON value; the record is left out if none is known. -/
def failureValue (f : Failure) : Value :=
  .object ([("path", .string f.path), ("operation", .string f.operation.key)]
    ++ (f.record.toList.map fun r => ("record", .string r)) ++ [("error", .string f.error)])

def document (specs : List BuilderSpec) (failures : List Failure) : Value :=
  .object [("records", Codec.builderSpec.list.encode specs), ("failures", .array (failures.map failureValue))]

/-- The text of a report. Only reports for a terminal have colours. -/
def text (format : OutputFormat) (colour : Bool) (specs : List BuilderSpec) (failures : List Failure) :
    String :=
  match format with
  | .json => (document specs failures).text .indented ++ "\n"
  | .terminal => Styled.render colour (terminal specs failures)

end Nullability.Report
