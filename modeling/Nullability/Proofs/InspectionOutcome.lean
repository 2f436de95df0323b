import Nullability.Inspection.Run
import Nullability.Proofs.FileRuns
import Nullability.Proofs.ReportRoundTrip
import Nullability.Proofs.TerminalReport

/-!
What an inspection leaves. It either stops before its files, and then says nothing but why, or it goes
through them, and then its report has all specifications and no failure, or all failures and no
specification. The error and the summary count the failures that the report lists.
-/

namespace Nullability

namespace Report

/-- A text is a report that lists specifications and failures in order and nothing else. It is one JSON value
whose two members mean the specifications and carry the failures, and the text gives them again, if their lines
fit; or it is what styled text shows, and that text, without its styles, has the lines that describe the
specifications, one line for each failure and a line with both counts. -/
def Lists (format : OutputFormat) (colour : Bool) (specs : List BuilderSpec) (failures : List Failure)
    (text : String) : Prop :=
  match format with
  | .json =>
      (∃ records failed,
        text = (Json.Value.object [("records", records), ("failures", .array failed)]).text .indented ++ "
" ∧
        Json.Codec.builderSpec.list.ofValue records = .ok specs ∧ List.Forall₂ Carries failures failed) ∧
      ((∀ s ∈ specs, s.LinesFit) → Gives text specs failures)
  | .terminal =>
      ∃ (spans : Styled) (sections : List (List String)),
        text = spans.render colour ∧ List.Forall₂ Describes specs sections ∧
        spans.render false = Text.ended (sections.flatten ++ failures.map (fun f => "✗ " ++ f.message)
          ++ [closingLine specs.length failures.length])

theorem lists_text (format : OutputFormat) (colour : Bool) (specs : List BuilderSpec)
    (failures : List Failure) : Lists format colour specs failures (text format colour specs failures) := by
  cases format with
  | json =>
      have hspecs := Json.Codec.builderSpec.list.ofValue_encode Json.Codec.builderSpec_distinct specs
      exact ⟨⟨_, _, rfl, hspecs, failureValues_carry failures⟩, fun hfits => text_gives colour hfits failures⟩
  | terminal =>
      refine ⟨terminal specs failures, specs.map sectionLines, rfl, sections_describe specs, ?_⟩
      rw [← List.flatMap_def]
      exact text_plain specs failures

end Report

namespace InspectSettings

theorem resolve_eq_ok_iff {flags : InspectFlags} {config : Config} {s : InspectSettings} :
    resolve flags config = .ok s ↔
      (∀ m, flags.marker = some m → Marker.isValid m = true) ∧ s = merge flags config := by
  rw [resolve]
  cases hm : flags.marker with
  | none =>
      simp only [Except.ok.injEq, reduceCtorEq, false_implies, implies_true, true_and]
      exact eq_comm
  | some m =>
      simp only [Option.some.injEq, forall_eq']
      cases hv : Marker.isValid m with
      | true =>
          simp only [if_true, Except.ok.injEq, true_and]
          exact eq_comm
      | false => simp only [Bool.false_eq_true, if_false, reduceCtorEq, false_and]

end InspectSettings

namespace Inspection

/-- An inspection comes as far as its files: the configuration is loaded, the marker given is absent or
valid, and the search finds the files. -/
structure Prepared (t : FileTree) (cwd : Location) (flags : InspectFlags) (settings : InspectSettings)
    (paths : List String) : Prop where
  loaded : ∃ config log, configFor t cwd flags = .ok (config, log) ∧
    settings = InspectSettings.merge flags config
  marker : ∀ m, flags.marker = some m → Marker.isValid m = true
  found : t.sources cwd flags.path = .ok paths

variable {t : FileTree} {cwd : Location} {flags : InspectFlags}

/-- An inspection that comes as far as its files ends with what their results leave. -/
theorem run_of_prepared {settings : InspectSettings} {paths : List String} (colour : Bool)
    (h : Prepared t cwd flags settings paths) :
    ∃ log, run t cwd colour flags =
      finished settings.format (colour && !flags.plain) (files t cwd settings paths).1 log := by
  obtain ⟨⟨config, log, hconfig, hmerge⟩, hmarker, hpaths⟩ := h
  have hsettings : InspectSettings.resolve flags config = .ok settings :=
    InspectSettings.resolve_eq_ok_iff.mpr ⟨hmarker, hmerge⟩
  rw [run, hconfig]
  simp only [hsettings, hpaths]
  exact ⟨_, rfl⟩

/-- An inspection that does not come as far as its files leaves no report and no summary. -/
theorem run_of_not_prepared (colour : Bool) (h : ¬∃ settings paths, Prepared t cwd flags settings paths) :
    ∃ log e, run t cwd colour flags = failed log e ∧ ∀ n, e ≠ .failures n := by
  rw [run]
  cases hconfig : configFor t cwd flags with
  | error e => exact ⟨_, _, rfl, fun n => InspectionError.noConfusion⟩
  | ok loaded =>
      obtain ⟨config, log⟩ := loaded
      cases hsettings : InspectSettings.resolve flags config with
      | error message =>
          simp only [hsettings]
          exact ⟨_, _, rfl, fun n => InspectionError.noConfusion⟩
      | ok settings =>
          cases hpaths : t.sources cwd flags.path with
          | error fault =>
              simp only [hsettings]
              exact ⟨_, _, rfl, fun n => InspectionError.noConfusion⟩
          | ok paths =>
              obtain ⟨hmarker, hmerge⟩ := InspectSettings.resolve_eq_ok_iff.mp hsettings
              exact absurd ⟨settings, paths, ⟨config, log, hconfig, hmerge⟩, hmarker, hpaths⟩ h

theorem finished_of_no_failures (format : OutputFormat) (colour : Bool) (log : Logged)
    {results : BatchResults BuilderSpec} (h : results.failures = []) :
    finished format colour results log = ⟨Report.text format colour results.successes [], "", log, none⟩ := by
  have hcomplete : results.isCompleteSuccess = true := List.isEmpty_iff.mpr h
  rw [finished, BatchResults.emittable, hcomplete, h]
  rfl

theorem finished_of_failures (format : OutputFormat) (colour : Bool) (log : Logged)
    {results : BatchResults BuilderSpec} (h : results.failures ≠ []) :
    finished format colour results log =
      ⟨Report.text format colour [] results.failures, results.completionText, log,
        some (.failures results.failures.length)⟩ := by
  have hincomplete : results.isCompleteSuccess = false := List.isEmpty_eq_false_iff.mpr h
  rw [finished, BatchResults.emittable, hincomplete]
  rfl

/-- An inspection ends without an error exactly if it comes as far as its files and none has a failure. -/
theorem run_error?_eq_none (colour : Bool) :
    (run t cwd colour flags).error? = none ↔
      ∃ settings paths, Prepared t cwd flags settings paths ∧
        (files t cwd settings paths).1.failures = [] := by
  constructor
  · intro hnone
    by_cases hprepared : ∃ settings paths, Prepared t cwd flags settings paths
    · obtain ⟨settings, paths, h⟩ := hprepared
      obtain ⟨log, hrun⟩ := run_of_prepared colour h
      refine ⟨settings, paths, h, Decidable.byContradiction fun hfailures => ?_⟩
      rw [hrun, finished_of_failures settings.format _ log hfailures] at hnone
      cases hnone
    · obtain ⟨log, e, hrun, -⟩ := run_of_not_prepared colour hprepared
      rw [hrun] at hnone
      cases hnone
  · rintro ⟨settings, paths, h, hnil⟩
    obtain ⟨log, hrun⟩ := run_of_prepared colour h
    rw [hrun, finished_of_no_failures settings.format _ log hnil]

/-- The counts that the summary of a batch gives: everything, the successes and the failures. -/
theorem completionText_counts {α : Type} (b : BatchResults α) :
    ∃ rest, b.completionText =
      "\nInspection Summary:\n"
        ++ "  Total processed: " ++ toString (b.successes.length + b.failures.length) ++ "\n"
        ++ "  Successfully assembled: " ++ toString b.successes.length ++ "\n"
        ++ "  Failed: " ++ toString b.failures.length ++ "\n" ++ rest := by
  unfold BatchResults.completionText BatchResults.totalCount BatchResults.successCount
    BatchResults.failureCount
  refine ⟨"  Success rate: " ++ Decimal.oneDecimal (b.successRate * 100.0) ++ "%\n"
    ++ if b.isCompleteSuccess then "" else (FailureSummary.ofFailures b.failures).report ++ "\n", ?_⟩
  simp only [String.append_assoc]

/-- An inspection is all or nothing. It succeeds exactly if it comes as far as its files and none of them
has a failure; its report then lists the specifications of all files and no failure. With failures the
report lists all of them and no specification, under either policy, and the error and the summary count
them. If it does not come as far as its files, it reports nothing. -/
theorem run_all_or_nothing (t : FileTree) (cwd : Location) (colour : Bool) (flags : InspectFlags) :
    let left := run t cwd colour flags
    let shown := colour && !flags.plain
    (left.error? = none ↔ ∃ settings paths, Prepared t cwd flags settings paths ∧
      (files t cwd settings paths).1.failures = []) ∧
    (∀ settings paths, Prepared t cwd flags settings paths →
      let results := (files t cwd settings paths).1
      let n := results.failures.length
      let specsIn := specsIn t cwd settings.marker settings.failurePolicy
      (n = 0 → left.report = Report.text settings.format shown results.successes [] ∧
        Report.Lists settings.format shown results.successes [] left.report ∧
        (∀ path ∈ paths, Clean t cwd settings.marker path (specsIn path)) ∧
        results.successes = paths.flatMap specsIn) ∧
      (0 < n → left.report = Report.text settings.format shown [] results.failures ∧
        Report.Lists settings.format shown [] results.failures left.report ∧
        left.error? = some (.failures n) ∧
        (InspectionError.failures n).chain =
          [toString n ++ " failure(s); no builders can be generated for this run"] ∧
        ∃ rest, left.summary =
          "\nInspection Summary:\n"
            ++ "  Total processed: " ++ toString (results.successes.length + n) ++ "\n"
            ++ "  Successfully assembled: " ++ toString results.successes.length ++ "\n"
            ++ "  Failed: " ++ toString n ++ "\n" ++ rest)) ∧
    ((¬∃ settings paths, Prepared t cwd flags settings paths) →
      left.report = "" ∧ left.summary = "" ∧ ∃ e, left.error? = some e ∧ ∀ n, e ≠ .failures n) := by
  intro left shown
  refine ⟨run_error?_eq_none colour, ?_, ?_⟩
  · intro settings paths h results n specsIn
    obtain ⟨log, hrun⟩ := run_of_prepared colour h
    constructor
    · intro hn
      have hnil : results.failures = [] := List.length_eq_zero_iff.mp hn
      rw [show left = _ from hrun.trans (finished_of_no_failures settings.format shown log hnil)]
      exact ⟨rfl, Report.lists_text _ _ _ _, files_of_no_failures hnil⟩
    · intro hn
      have hfailures : results.failures ≠ [] := List.length_pos_iff.mp hn
      rw [show left = _ from hrun.trans (finished_of_failures settings.format shown log hfailures)]
      exact ⟨rfl, Report.lists_text _ _ _ _, rfl, rfl, completionText_counts results⟩
  · intro h
    obtain ⟨log, e, hrun, he⟩ := run_of_not_prepared colour h
    rw [show left = _ from hrun]
    exact ⟨rfl, rfl, e, rfl, he⟩

end Inspection

end Nullability
