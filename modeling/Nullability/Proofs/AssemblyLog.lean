import Mathlib.Data.List.Basic
import Nullability.Proofs.RunAccounts

/-!
What a run logs. Each record that the run looks at begins with a line, and the warnings behind that line are
the conflicts that the run reports of the record; a last line counts what the report lists. The warnings are
therefore those of the report's failures in their order, and whoever knows the records can read the failures
back from the log.
-/

namespace Nullability

/-- The line with which assembling a record begins. -/
def Record.opening (r : Record) : Log.Entry :=
  ⟨.debug, .assembly, "Assembling " ++ r.name ++ " (" ++ toString r.components.length ++ " components)"⟩

/-- The warnings about a refusal, one for each of its conflicts. -/
def AssemblyError.warnings (e : AssemblyError) : Logged :=
  e.conflicts.map fun c => ⟨.warn, .assembly, e.location ++ ": " ++ c.message⟩

/-- The warnings about what a record comes to. -/
def Assembler.warningsOf : Except AssemblyError BuilderSpec → Logged
  | .ok _ => []
  | .error e => e.warnings

/-- The line that closes a run. -/
def AssemblyReport.closing (report : AssemblyReport) : Log.Entry :=
  ⟨.info, .assembly, "Assembled " ++ toString report.specs.length ++ " builder spec(s), "
    ++ toString report.failures.length ++ " record(s) failed"⟩

/-- What stands between a beginning and an end of a text. -/
def Text.between? (front back text : String) : Option String :=
  (text.toList.dropPrefix? front.toList).bind fun rest => (rest.dropSuffix? back.toList).map String.ofList

/-- The conflict that a warning about a place tells of. -/
def Conflict.ofWarning? (location : String) (line : Log.Entry) : Option Conflict :=
  (Text.between? (location ++ ": Element ") " has both a nullable and not-nullable annotation" line.text).map mk

/-- The refusals that a log tells of. Each record begins with a line, and the warnings just behind that line
are about it. -/
def Record.readRefusals : List Record → Logged → List AssemblyError
  | r :: rest, _ :: log =>
    let refusals := readRefusals rest (log.dropWhile (·.level = .warn))
    match (log.takeWhile (·.level = .warn)).filterMap (Conflict.ofWarning? r.location) with
    | [] => refusals
    | c :: cs => ⟨r.name, r.location, c :: cs⟩ :: refusals
  | _, _ => []

/-! ### Reading warnings -/

theorem Text.between?_append (front name back : String) :
    between? front back (front ++ name ++ back) = some name := by
  have hfront : (front ++ name ++ back).toList.dropPrefix? front.toList =
      some (name.toList ++ back.toList) := by
    rw [String.toList_append, String.toList_append, List.append_assoc]
    exact List.dropPrefix?_append_of_beq _ (beq_self_eq_true _)
  have hback : (name.toList ++ back.toList).dropSuffix? back.toList = some name.toList :=
    List.dropSuffix?_eq_some_iff.mpr ⟨_, rfl, beq_self_eq_true _⟩
  rw [between?, hfront, Option.bind_some, hback, Option.map_some, String.ofList_toList]

theorem Conflict.ofWarning?_warning (location : String) (c : Conflict) :
    ofWarning? location ⟨.warn, .assembly, location ++ ": " ++ c.message⟩ = some c := by
  have htext : location ++ ": " ++ c.message =
      location ++ ": Element " ++ c.component ++ " has both a nullable and not-nullable annotation" := by
    rw [← String.toList_inj]
    simp [message, String.toList_append]
  rw [ofWarning?, htext, Text.between?_append, Option.map_some]

theorem AssemblyError.filterMap_warnings (e : AssemblyError) :
    e.warnings.filterMap (Conflict.ofWarning? e.location) = e.conflicts := by
  have hread : Conflict.ofWarning? e.location ∘
      (fun c => (⟨.warn, .assembly, e.location ++ ": " ++ c.message⟩ : Log.Entry)) = some :=
    funext (Conflict.ofWarning?_warning e.location)
  rw [warnings, List.filterMap_map, hread, List.filterMap_some]

theorem AssemblyError.level_of_mem_warnings {e : AssemblyError} {line : Log.Entry} (h : line ∈ e.warnings) :
    line.level = .warn := by
  obtain ⟨c, -, rfl⟩ := List.mem_map.mp h
  rfl

/-! ### What is logged of one record -/

namespace Assembler

theorem level_of_mem_warningsOf {outcome : Except AssemblyError BuilderSpec} {line : Log.Entry}
    (h : line ∈ warningsOf outcome) : line.level = .warn := by
  cases outcome with
  | ok spec => cases h
  | error e => exact AssemblyError.level_of_mem_warnings h

theorem assemble_log (a : Assembler) (r : Record) :
    (a.assemble r).2 = r.opening :: warningsOf (a.assemble r).1 := by
  by_cases h : r.Conflicted
  · rw [a.assemble_of_conflicted h]
    rfl
  · rw [a.assemble_of_not_conflicted h, Record.assemblyLog, Record.conflicts_eq_nil.mpr h,
      FailurePolicy.reported_nil]
    rfl

theorem assemble_isOk (a : Assembler) (r : Record) : (a.assemble r).1.isOk = !decide r.Conflicted := by
  by_cases h : r.Conflicted
  · rw [a.assemble_of_conflicted h, decide_eq_true h]
    rfl
  · rw [a.assemble_of_not_conflicted h, decide_eq_false h]
    rfl

/-- The records that a run looks at: all of them, or those up to the first that is refused. -/
def processed (a : Assembler) (records : List Record) : List Record :=
  a.policy.reach (fun r => !(a.assemble r).1.isOk) records

theorem processed_eq (a : Assembler) (records : List Record) :
    a.processed records = Record.attempted a.policy records := by
  simp only [processed, assemble_isOk, Bool.not_not]
  rfl

/-- The lines that a run logs about its records. -/
theorem assembleFrom_log (a : Assembler) (records : List Record) :
    (a.assembleFrom records.length 0 records).2 = (a.processed records).flatMap fun r => (a.assemble r).2 := by
  have hone : Record.assemblyLog a.policy = fun r => (a.assemble r).2 := by
    funext r
    rw [assemble_eq]
  rw [assembleFrom_start, processed_eq, hone]

theorem assembleAll_log (a : Assembler) (records : List Record) :
    (a.assembleAll records).2 =
      ((a.processed records).flatMap fun r => (a.assemble r).2) ++ [(a.assembleAll records).1.closing] := by
  rw [← assembleFrom_log]
  rfl

theorem processed_sorts (a : Assembler) (records : List Record) :
    Sorts ((a.processed records).map fun r => (a.assemble r).1) (a.assembleAll records).1.specs
      (a.assembleAll records).1.failures := by
  rw [processed_eq, assembleAll_report]
  exact sorts_outcomes a (Record.attempted a.policy records)

end Assembler

/-! ### The warnings of a run -/

theorem Sorts.flatMap_warnings {outcomes : List (Except AssemblyError BuilderSpec)}
    {specs : List BuilderSpec} {failures : List AssemblyError} (h : Sorts outcomes specs failures) :
    outcomes.flatMap Assembler.warningsOf = failures.flatMap AssemblyError.warnings := by
  induction h with
  | nil => rfl
  | ok _ ih => rw [List.flatMap_cons, Assembler.warningsOf, List.nil_append, ih]
  | error _ ih => rw [List.flatMap_cons, List.flatMap_cons, Assembler.warningsOf, ih]

namespace Assembler

theorem filter_assemble_log (a : Assembler) (r : Record) :
    (a.assemble r).2.filter (·.level = .warn) = warningsOf (a.assemble r).1 := by
  rw [assemble_log, List.filter_cons_of_neg (by simp [Record.opening])]
  exact List.filter_eq_self.mpr fun line hline => decide_eq_true (level_of_mem_warningsOf hline)

theorem filter_assembleAll_log (a : Assembler) (records : List Record) :
    (a.assembleAll records).2.filter (·.level = .warn) =
      (a.assembleAll records).1.failures.flatMap AssemblyError.warnings := by
  have hclosing : [(a.assembleAll records).1.closing].filter (·.level = .warn) = [] := rfl
  rw [assembleAll_log, List.filter_append, hclosing, List.append_nil, List.filter_flatMap,
    ← (a.processed_sorts records).flatMap_warnings, List.flatMap_map]
  exact List.flatMap_congr fun r _ => a.filter_assemble_log r

theorem length_flatMap_warnings (failures : List AssemblyError) :
    (failures.flatMap AssemblyError.warnings).length = (failures.flatMap (·.conflicts)).length := by
  simp only [List.length_flatMap, AssemblyError.warnings, List.length_map]

end Assembler

/-! ### Reading a run back -/

/-- A log does not begin with a warning. -/
def Logged.Quiet (log : Logged) : Prop := ∀ line ∈ log.head?, line.level ≠ .warn

namespace Logged.Quiet

variable {warnings log : Logged}

theorem takeWhile_append (h : Quiet log) (hwarnings : ∀ line ∈ warnings, line.level = .warn) :
    (warnings ++ log).takeWhile (·.level = .warn) = warnings := by
  rw [List.takeWhile_append_of_pos fun line hline => decide_eq_true (hwarnings line hline)]
  cases log with
  | nil => rw [List.takeWhile_nil, List.append_nil]
  | cons line log =>
      rw [List.takeWhile_cons_of_neg (by simpa using h line rfl), List.append_nil]

theorem dropWhile_append (h : Quiet log) (hwarnings : ∀ line ∈ warnings, line.level = .warn) :
    (warnings ++ log).dropWhile (·.level = .warn) = log := by
  rw [List.dropWhile_append_of_pos fun line hline => decide_eq_true (hwarnings line hline)]
  cases log with
  | nil => rfl
  | cons line log => exact List.dropWhile_cons_of_neg (by simpa using h line rfl)

end Logged.Quiet

namespace Record

variable {r : Record} {rest : List Record} {log : Logged}

theorem readRefusals_of_not_conflicted (a : Assembler) (h : ¬r.Conflicted) (hlog : log.Quiet) :
    readRefusals (r :: rest) ((a.assemble r).2 ++ log) = readRefusals rest log := by
  have hnone : ∀ line ∈ ([] : Logged), line.level = .warn := fun line hline => absurd hline List.not_mem_nil
  rw [a.assemble_log, a.assemble_of_not_conflicted h, List.cons_append, readRefusals]
  simp only [Assembler.warningsOf, hlog.takeWhile_append hnone, hlog.dropWhile_append hnone,
    List.filterMap_nil]

theorem refusal_conflicts_ne_nil (p : FailurePolicy) (h : r.Conflicted) : (r.refusal p).conflicts ≠ [] := by
  rw [refusal, Ne, FailurePolicy.reported_eq_nil, conflicts_eq_nil]
  exact fun hnone => hnone h

theorem readRefusals_of_conflicted (a : Assembler) (h : r.Conflicted) (hlog : log.Quiet) :
    readRefusals (r :: rest) ((a.assemble r).2 ++ log) = r.refusal a.policy :: readRefusals rest log := by
  have hwarnings : ∀ line ∈ (r.refusal a.policy).warnings, line.level = .warn :=
    fun line => AssemblyError.level_of_mem_warnings
  have hread : (r.refusal a.policy).warnings.filterMap (Conflict.ofWarning? r.location) =
      (r.refusal a.policy).conflicts := (r.refusal a.policy).filterMap_warnings
  obtain ⟨c, cs, hconflicts⟩ := List.exists_cons_of_ne_nil (refusal_conflicts_ne_nil a.policy h)
  have hrefusal : r.refusal a.policy = ⟨r.name, r.location, c :: cs⟩ := by
    rw [← hconflicts]
    rfl
  rw [a.assemble_log, a.assemble_of_conflicted h, List.cons_append, readRefusals]
  simp only [Assembler.warningsOf, hlog.takeWhile_append hwarnings, hlog.dropWhile_append hwarnings,
    hread, hconflicts]
  rw [hrefusal]

theorem quiet_runLog (a : Assembler) (records : List Record) {closing : Log.Entry}
    (hclosing : closing.level ≠ .warn) :
    Logged.Quiet ((records.flatMap fun r => (a.assemble r).2) ++ [closing]) := by
  intro line hline
  cases records with
  | nil =>
      cases hline
      exact hclosing
  | cons r rest =>
      rw [List.flatMap_cons, a.assemble_log] at hline
      cases hline
      simp [opening]

theorem readRefusals_closing (records : List Record) (closing : Log.Entry) :
    readRefusals records [closing] = [] := by
  cases records with
  | nil => rfl
  | cons r rest => cases rest <;> rfl

/-- The refusals of a run are read back from what it logs. -/
theorem readRefusals_runLog (a : Assembler) (records : List Record) {closing : Log.Entry}
    (hclosing : closing.level ≠ .warn) :
    readRefusals records (((attempted a.policy records).flatMap fun r => (a.assemble r).2) ++ [closing]) =
      (AssemblyReport.ofRecords a.policy records).failures := by
  rcases a with ⟨p, parallel⟩
  induction records with
  | nil => cases p <;> rfl
  | cons r rest ih =>
      have hquiet := quiet_runLog ⟨p, parallel⟩ (attempted p rest) hclosing
      by_cases h : r.Conflicted
      · cases p with
        | failFast =>
            have hend : Logged.Quiet [closing] := quiet_runLog ⟨.failFast, parallel⟩ [] hclosing
            rw [attempted_failFast_cons_of_conflicted h, List.flatMap_singleton,
              readRefusals_of_conflicted _ h hend, readRefusals_closing,
              AssemblyReport.ofRecords_failFast_cons_of_conflicted h]
        | collectAll =>
            have hrest : attempted .collectAll (r :: rest) = r :: attempted .collectAll rest := rfl
            rw [hrest, List.flatMap_cons, List.append_assoc, readRefusals_of_conflicted _ h hquiet, ih,
              AssemblyReport.ofRecords_collectAll_cons_of_conflicted h]
      · rw [attempted_cons_of_not_conflicted h, List.flatMap_cons, List.append_assoc,
          readRefusals_of_not_conflicted _ h hquiet, ih, AssemblyReport.ofRecords_cons_of_not_conflicted h]

end Record

namespace Assembler

end Assembler

end Nullability
