import Nullability.Batch.Results
import Nullability.Decimal.Fixed
import Nullability.Text.Pieces

/-!
The summary of a batch: how many failures each operation had, and the first failures in full. The counts are
kept in the order of the operations while the failures are gone through.
-/

namespace Nullability

/-- Failures counted by operation, with samples. An operation without failures is not counted. -/
structure FailureSummary where
  total : Nat
  byOperation : List (Operation × Nat)
  samples : List Failure
  deriving DecidableEq, Repr

namespace FailureSummary

/-- The greatest number of failures that are shown in full. -/
def sampleLimit : Nat := 10

/-- Counts with one more failure of an operation; its first failure puts it in its place. -/
def countOne (o : Operation) : List (Operation × Nat) → List (Operation × Nat)
  | [] => [(o, 1)]
  | (p, n) :: rest =>
    if p = o then (p, n + 1) :: rest
    else if o.rank < p.rank then (o, 1) :: (p, n) :: rest
    else (p, n) :: countOne o rest

def ofFailures (failures : List Failure) : FailureSummary where
  total := failures.length
  byOperation := failures.foldl (fun counts f => countOne f.operation counts) []
  samples := failures.take sampleLimit

/-- The lines of the summary. -/
def lines (s : FailureSummary) : List String :=
  ["", "Failure breakdown:"]
    ++ s.byOperation.map (fun (o, n) => "  " ++ o.label ++ ": " ++ toString n)
    ++ ["", "Errors:"]
    ++ s.samples.map (fun f => "  " ++ f.message)
    ++ if s.samples.length < s.total then
        ["  ... and " ++ toString (s.total - s.samples.length) ++ " more"]
      else []

/-- The text of the summary. -/
def report (s : FailureSummary) : String := Text.ended s.lines

end FailureSummary

/-- What is said about a batch at its end. -/
def BatchResults.completionText {α : Type} (b : BatchResults α) : String :=
  "\nInspection Summary:\n"
    ++ "  Total processed: " ++ toString b.totalCount ++ "\n"
    ++ "  Successfully assembled: " ++ toString b.successCount ++ "\n"
    ++ "  Failed: " ++ toString b.failureCount ++ "\n"
    ++ "  Success rate: " ++ Decimal.oneDecimal (b.successRate * 100.0) ++ "%\n"
    ++ if b.isCompleteSuccess then "" else (FailureSummary.ofFailures b.failures).report ++ "\n"

end Nullability
