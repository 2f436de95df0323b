import Nullability.Batch.Summary
import Nullability.FileTree.Search
import Nullability.Inspection.Files
import Nullability.Report.Document
import Nullability.Settings.Discovery

/-!
A whole inspection: the configuration is loaded, the settings are resolved, the files are found and
inspected, and the report is written. The report has specifications only if nothing failed.
-/

namespace Nullability

/-- Why an inspection failed. -/
inductive InspectionError
  | config (e : RunError)
  | settings (message : String)
  | search (root : String) (fault : SearchFault)
  /-- The inspection was finished, with failures. -/
  | failures (count : Nat)
  deriving DecidableEq, Repr

/-- The text of the error followed by the texts of what lies behind it. -/
def InspectionError.chain : InspectionError → List String
  | config e => e.chain
  | settings message => [message]
  | search root fault => ["Failed to walk " ++ root, fault.message]
  | failures count => [toString count ++ " failure(s); no builders can be generated for this run"]

/-- What an inspection leaves: the report, the summary, the log lines and the error if it failed. -/
structure Inspection where
  report : String
  summary : String
  log : Logged
  error? : Option InspectionError
  deriving DecidableEq, Repr

namespace Inspection

/-- An inspection that ended before anything was reported. -/
def failed (log : Logged) (e : InspectionError) : Inspection := ⟨"", "", log, some e⟩

private def nameOf : OutputFormat → String
  | .json => "Json"
  | .terminal => "Terminal"

private def policyName : FailurePolicy → String
  | .failFast => "FailFast"
  | .collectAll => "CollectAll"

/-- The settings as the log shows them. -/
def settingsText (s : InspectSettings) : String :=
  let marker := match s.marker with
    | none => "None"
    | some m => "Some(" ++ Text.quoted m ++ ")"
  "InspectSettings \x7b format: " ++ nameOf s.format ++ ", marker: " ++ marker ++ ", failure_policy: "
    ++ policyName s.failurePolicy ++ ", parallel: " ++ toString s.parallel ++ " \x7d"

private def line (level : Log.Level) (text : String) : Log.Entry := ⟨level, .inspection, text⟩

/-- The configuration of an inspection: that of the file given, or the one that is found. -/
def configFor (t : FileTree) (cwd : Location) (flags : InspectFlags) : Except RunError (Config × Logged) :=
  match flags.config with
  | some path => Config.loadFrom t cwd path
  | none => .ok (Config.load t cwd)

/-- What is left when the results are there. -/
def finished (format : OutputFormat) (colour : Bool) (results : BatchResults BuilderSpec) (log : Logged) :
    Inspection where
  report := Report.text format colour results.emittable results.failures
  summary := if results.isCompleteSuccess then "" else results.completionText
  log := log
  error? := if results.isCompleteSuccess then none else some (.failures results.failureCount)

/-- Inspects what a path leads to. -/
def run (t : FileTree) (cwd : Location) (colour : Bool) (flags : InspectFlags) : Inspection :=
  match configFor t cwd flags with
  | .error e => failed [] (.config e)
  | .ok (config, log) =>
    match InspectSettings.resolve flags config with
    | .error message => failed log (.settings message)
    | .ok settings =>
      let log := log ++ [line .debug ("Inspecting " ++ flags.path ++ " with " ++ settingsText settings)]
      match t.sources cwd flags.path with
      | .error fault => failed log (.search flags.path fault)
      | .ok paths =>
        let none := if paths.isEmpty then [line .warn ("No Rust sources found under " ++ flags.path)] else []
        let (results, more) := files t cwd settings paths
        finished settings.format (colour && !flags.plain) results (log ++ none ++ more)

end Inspection

end Nullability
