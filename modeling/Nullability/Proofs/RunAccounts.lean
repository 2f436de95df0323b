import Nullability.Proofs.AssembledRecord
import Nullability.Proofs.RecordRuns

/-!
How the report of a run accounts for its records. A run that collects sorts the outcomes of all records
into specifications and refusals. A fail-fast run gives the specifications of the records before the first
that is refused, that refusal, and the number of records behind it; what it gives is therefore the beginning
of what the collecting run gives. Either way every record is counted once.
-/

namespace Nullability

/-- Outcomes sorted into results and failures, each kept in their order. -/
inductive Sorts {ε α : Type} : List (Except ε α) → List α → List ε → Prop
  | nil : Sorts [] [] []
  | ok {a : α} {outcomes : List (Except ε α)} {as : List α} {es : List ε} (h : Sorts outcomes as es) :
      Sorts (.ok a :: outcomes) (a :: as) es
  | error {e : ε} {outcomes : List (Except ε α)} {as : List α} {es : List ε} (h : Sorts outcomes as es) :
      Sorts (.error e :: outcomes) as (e :: es)

namespace AssemblyReport

variable (outcome : Record → Except AssemblyError BuilderSpec)

/-- The report of a run that goes through all records: what each comes to, sorted. -/
structure Collects (records : List Record) (report : AssemblyReport) : Prop where
  sorted : Sorts (records.map outcome) report.specs report.failures
  skipped : report.skipped = 0

/-- The report of a run that ends with the first record that is refused: the records before it have their
specifications, the refusal names its first contradicted component only, and the records behind it are
skipped. -/
inductive Stops : List Record → AssemblyReport → Prop
  | never {records : List Record} {specs : List BuilderSpec}
      (hspecs : records.map outcome = specs.map .ok) : Stops records ⟨specs, [], 0⟩
  | refused {before after : List Record} {r : Record} {specs : List BuilderSpec} {e : AssemblyError}
      {first : String} {more : List String} (hspecs : before.map outcome = specs.map .ok)
      (he : outcome r = .error e) (hfirst : r.contradicted = first :: more)
      (hconflicts : e.conflicts.map (·.component) = [first]) :
      Stops (before ++ r :: after) ⟨specs, [e], after.length⟩

end AssemblyReport

namespace Record

theorem exists_contradicted {r : Record} (h : r.Conflicted) :
    ∃ first more, r.contradicted = first :: more := by
  cases hnames : r.contradicted with
  | nil => exact absurd h (contradicted_eq_nil.mp hnames)
  | cons first more => exact ⟨first, more, rfl⟩

/-- The refusals of records hold one conflict for each contradicted component. -/
theorem conflicts_length_of_refusals (records : List Record) :
    (((records.filter (·.Conflicted)).map (refusal .collectAll)).flatMap (·.conflicts)).length =
      (records.flatMap contradicted).length := by
  induction records with
  | nil => rfl
  | cons r rest ih =>
      rw [List.flatMap_cons, List.length_append, ← ih, List.filter_cons]
      by_cases h : r.Conflicted
      · rw [if_pos (decide_eq_true h), List.map_cons, List.flatMap_cons, List.length_append,
          ← conflicts_names, List.length_map]
        rfl
      · rw [if_neg (by simpa using h), contradicted_eq_nil.mpr h, List.length_nil, Nat.zero_add]

end Record

/-- The outcomes of records, sorted: those without conflicts have their specifications, the others are
refused. -/
theorem sorts_outcomes (a : Assembler) (records : List Record) :
    Sorts (records.map fun r => (a.assemble r).1) ((records.filter (¬·.Conflicted)).map Record.spec)
      ((records.filter (·.Conflicted)).map (Record.refusal a.policy)) := by
  induction records with
  | nil => exact .nil
  | cons r rest ih =>
      rw [List.map_cons, Assembler.assemble_eq, List.filter_cons, List.filter_cons]
      by_cases h : r.Conflicted
      · rw [if_pos h, if_neg (by simpa using h), if_pos (decide_eq_true h), List.map_cons]
        exact .error ih
      · rw [if_neg h, if_pos (decide_eq_true h), if_neg (by simpa using h), List.map_cons]
        exact .ok ih

namespace AssemblyReport

variable {records : List Record}

theorem ofRecords_collects (parallel : Bool) (records : List Record) :
    (ofRecords .collectAll records).Collects
      (fun r => (Assembler.assemble ⟨.collectAll, parallel⟩ r).1) records :=
  ⟨sorts_outcomes ⟨.collectAll, parallel⟩ records, Nat.sub_self _⟩

/-- Records without conflicts come to their specifications. -/
theorem outcomes_of_no_conflict (a : Assembler) (h : ∀ r ∈ records, ¬r.Conflicted) :
    (records.map fun r => (a.assemble r).1) = (records.map Record.spec).map .ok := by
  rw [List.map_map]
  refine List.map_congr_left fun r hr => ?_
  rw [Assembler.assemble_of_not_conflicted a (h r hr)]
  rfl

/-- A fail-fast run over records of which one is the first with a conflict. -/
theorem ofRecords_failFast_append {before after : List Record} {r : Record}
    (hbefore : ∀ b ∈ before, ¬b.Conflicted) (h : r.Conflicted) :
    ofRecords .failFast (before ++ r :: after) =
      ⟨before.map Record.spec, [r.refusal .failFast], after.length⟩ := by
  induction before with
  | nil => exact ofRecords_failFast_cons_of_conflicted h
  | cons b before ih =>
      rw [List.cons_append, ofRecords_cons_of_not_conflicted (hbefore b List.mem_cons_self),
        ih fun c hc => hbefore c (List.mem_cons_of_mem b hc), List.map_cons]

theorem ofRecords_stops (parallel : Bool) (records : List Record) :
    (ofRecords .failFast records).Stops
      (fun r => (Assembler.assemble ⟨.failFast, parallel⟩ r).1) records := by
  by_cases h : ∃ r ∈ records, r.Conflicted
  · obtain ⟨before, r, after, rfl, hbefore, hr⟩ := Record.exists_first_conflicted h
    obtain ⟨first, more, hfirst⟩ := Record.exists_contradicted hr
    rw [ofRecords_failFast_append hbefore hr]
    refine .refused (outcomes_of_no_conflict _ hbefore) ?_ hfirst ?_
    · rw [Assembler.assemble_of_conflicted _ hr]
    · rw [Record.refusal_names, hfirst]
      rfl
  · have hnone : ∀ r ∈ records, ¬r.Conflicted := fun r hr hc => h ⟨r, hr, hc⟩
    rw [ofRecords_of_no_conflict hnone]
    exact .never (outcomes_of_no_conflict _ hnone)

theorem ofRecords_collectAll_failedComponentCount (records : List Record) :
    (ofRecords .collectAll records).failedComponentCount = (records.flatMap Record.contradicted).length :=
  Record.conflicts_length_of_refusals records

theorem ofRecords_failFast_failedComponentCount (records : List Record) :
    (ofRecords .failFast records).failedComponentCount =
      min 1 (records.flatMap Record.contradicted).length := by
  by_cases h : ∃ r ∈ records, r.Conflicted
  · obtain ⟨before, r, after, rfl, hbefore, hr⟩ := Record.exists_first_conflicted h
    obtain ⟨first, more, hfirst⟩ := Record.exists_contradicted hr
    have hone : (r.refusal .failFast).conflicts.length = 1 := by
      rw [← List.length_map (·.component), Record.refusal_names, hfirst]
      rfl
    rw [ofRecords_failFast_append hbefore hr, failedComponentCount, List.flatMap_singleton, hone,
      List.flatMap_append, List.flatMap_cons, hfirst]
    simp only [List.length_append, List.length_cons]
    omega
  · have hnone : ∀ r ∈ records, ¬r.Conflicted := fun r hr hc => h ⟨r, hr, hc⟩
    have hnames : records.flatMap Record.contradicted = [] :=
      List.flatMap_eq_nil_iff.mpr fun r hr => Record.contradicted_eq_nil.mpr (hnone r hr)
    rw [ofRecords_of_no_conflict hnone, hnames]
    rfl

/-- A run without failures has skipped nothing, so it succeeds exactly if no record has a conflict. -/
theorem ofRecords_isCompleteSuccess (p : FailurePolicy) (records : List Record) :
    (ofRecords p records).isCompleteSuccess = true ↔ ∀ r ∈ records, r.contradicted = [] := by
  simp only [Record.contradicted_eq_nil]
  constructor
  · intro h
    rw [isCompleteSuccess, Bool.and_eq_true, List.isEmpty_iff] at h
    exact ofRecords_failures_eq_nil.mp h.1
  · intro h
    rw [ofRecords_of_no_conflict h]
    rfl

/-- What a fail-fast run assembles is the beginning of what a collecting run assembles. -/
theorem ofRecords_failFast_specs_isPrefix (records : List Record) :
    (ofRecords .failFast records).specs <+: (ofRecords .collectAll records).specs := by
  have hfirst : Record.attempted .failFast records <+: records :=
    FailurePolicy.failFast.reach_isPrefix records
  exact (hfirst.filter _).map _

end AssemblyReport

namespace Assembler

/-- The report of a run accounts for every record, in either mode. Under the collecting policy the outcomes
of the records are sorted and nothing is skipped; under the fail-fast policy the run stops at the first
refused record. The counts add up to the number of records, the conflicts reported are all of them or the
first, a run succeeds exactly if no component is contradicted, and the fail-fast specifications begin the
collected ones. -/
theorem assembleAll_accounts_for_records (parallel : Bool) (records : List Record) :
    let all := (assembleAll ⟨.collectAll, parallel⟩ records).1
    let fast := (assembleAll ⟨.failFast, parallel⟩ records).1
    all.Collects (fun r => (assemble ⟨.collectAll, parallel⟩ r).1) records ∧
    fast.Stops (fun r => (assemble ⟨.failFast, parallel⟩ r).1) records ∧
    (all.totalCount = records.length ∧ fast.totalCount = records.length) ∧
    (all.failedComponentCount = (records.flatMap Record.contradicted).length ∧
      fast.failedComponentCount = min 1 (records.flatMap Record.contradicted).length) ∧
    ((all.isCompleteSuccess = true ↔ ∀ r ∈ records, r.contradicted = []) ∧
      (fast.isCompleteSuccess = true ↔ ∀ r ∈ records, r.contradicted = [])) ∧
    fast.specs <+: all.specs := by
  intro all fast
  have hall : all = .ofRecords .collectAll records := assembleAll_report _ _
  have hfast : fast = .ofRecords .failFast records := assembleAll_report _ _
  rw [hall, hfast]
  refine ⟨AssemblyReport.ofRecords_collects parallel records, AssemblyReport.ofRecords_stops parallel records,
    ⟨?_, ?_⟩, ⟨?_, ?_⟩, ⟨?_, ?_⟩, AssemblyReport.ofRecords_failFast_specs_isPrefix records⟩
  · exact AssemblyReport.ofRecords_totalCount _ _
  · exact AssemblyReport.ofRecords_totalCount _ _
  · exact AssemblyReport.ofRecords_collectAll_failedComponentCount records
  · exact AssemblyReport.ofRecords_failFast_failedComponentCount records
  · exact AssemblyReport.ofRecords_isCompleteSuccess _ records
  · exact AssemblyReport.ofRecords_isCompleteSuccess _ records

end Assembler

end Nullability
