import Nullability.Proofs.RecordAssembly

/-!
Assembling the records of a run. The report of a run is read off the records that the policy lets it look
at: those without conflicts are assembled, the others are refused, and what lies behind them is skipped.
From this closed form follow what may be emitted and that the two modes agree.
-/

namespace Nullability

/-- The records that a run looks at. -/
def Record.attempted (p : FailurePolicy) (records : List Record) : List Record :=
  p.reach (·.Conflicted) records

namespace Record

variable {p : FailurePolicy} {r : Record} {rest : List Record}

theorem attempted_cons_of_not_conflicted (h : ¬r.Conflicted) :
    attempted p (r :: rest) = r :: attempted p rest :=
  p.reach_cons_of_passes rest (decide_eq_false h)

theorem attempted_failFast_cons_of_conflicted (h : r.Conflicted) :
    attempted .failFast (r :: rest) = [r] :=
  FailurePolicy.reach_failFast_cons_of_fails rest (decide_eq_true h)

theorem attempted_failFast_append {before after : List Record} (hbefore : ∀ b ∈ before, ¬b.Conflicted)
    (h : r.Conflicted) : attempted .failFast (before ++ r :: after) = before ++ [r] :=
  takeThrough_append (fun b hb => decide_eq_false (hbefore b hb)) (decide_eq_true h)

/-- A run with conflicts splits at the first record that has one. -/
theorem exists_first_conflicted {records : List Record} (h : ∃ r ∈ records, r.Conflicted) :
    ∃ before r after, records = before ++ r :: after ∧ (∀ b ∈ before, ¬b.Conflicted) ∧ r.Conflicted := by
  have hstop : ∃ r ∈ records, decide r.Conflicted = true := by
    simpa only [decide_eq_true_eq] using h
  simpa only [decide_eq_true_eq, decide_eq_false_iff_not] using exists_first_stop hstop

theorem exists_attempted_conflicted (p : FailurePolicy) (records : List Record) :
    (∃ r ∈ attempted p records, r.Conflicted) ↔ ∃ r ∈ records, r.Conflicted := by
  have h := p.exists_mem_reach (fun r : Record => decide r.Conflicted) records
  simpa only [attempted, decide_eq_true_eq] using h

end Record

namespace AssemblyReport

/-- The report of a run under a policy. -/
def ofRecords (p : FailurePolicy) (records : List Record) : AssemblyReport where
  specs := ((Record.attempted p records).filter (¬·.Conflicted)).map Record.spec
  failures := ((Record.attempted p records).filter (·.Conflicted)).map (Record.refusal p)
  skipped := records.length - (Record.attempted p records).length

variable {p : FailurePolicy} {r : Record} {rest : List Record}

theorem ofRecords_cons_of_not_conflicted (h : ¬r.Conflicted) :
    ofRecords p (r :: rest) =
      { ofRecords p rest with specs := r.spec :: (ofRecords p rest).specs } := by
  simp only [ofRecords, Record.attempted_cons_of_not_conflicted h, List.filter_cons, h, not_false_eq_true,
    decide_true, decide_false, if_true, Bool.false_eq_true, if_false, List.map_cons, List.length_cons,
    Nat.add_sub_add_right]

theorem ofRecords_collectAll_cons_of_conflicted (h : r.Conflicted) :
    ofRecords .collectAll (r :: rest) =
      { ofRecords .collectAll rest with
        failures := r.refusal .collectAll :: (ofRecords .collectAll rest).failures } := by
  simp only [ofRecords, Record.attempted, FailurePolicy.reach, List.filter_cons, h, not_true_eq_false,
    decide_true, decide_false, if_true, Bool.false_eq_true, if_false, List.map_cons, Nat.sub_self]

theorem ofRecords_failFast_cons_of_conflicted (h : r.Conflicted) :
    ofRecords .failFast (r :: rest) = ⟨[], [r.refusal .failFast], rest.length⟩ := by
  simp only [ofRecords, Record.attempted_failFast_cons_of_conflicted h, List.filter_cons, h,
    not_true_eq_false, decide_true, decide_false, if_true, Bool.false_eq_true, if_false, List.filter_nil,
    List.map_cons, List.map_nil, List.length_cons, List.length_nil, Nat.zero_add, Nat.add_sub_cancel]

/-- Records without conflicts at the beginning of a run are assembled under every policy. -/
theorem ofRecords_append_specs {before : List Record} (h : ∀ b ∈ before, ¬b.Conflicted) :
    (ofRecords p (before ++ rest)).specs = before.map Record.spec ++ (ofRecords p rest).specs := by
  induction before with
  | nil => rfl
  | cons b before ih =>
      rw [List.cons_append, ofRecords_cons_of_not_conflicted (h b List.mem_cons_self),
        ih fun c hc => h c (List.mem_cons_of_mem b hc), List.map_cons, List.cons_append]

end AssemblyReport

namespace Assembler

/-- What is left of a run reports and logs, read off the records that it looks at. -/
theorem assembleFrom_eq (a : Assembler) {total index : Nat} {records : List Record}
    (htotal : index + records.length = total) :
    a.assembleFrom total index records =
      (.ofRecords a.policy records,
        (Record.attempted a.policy records).flatMap (Record.assemblyLog a.policy)) := by
  rcases a with ⟨p, parallel⟩
  induction records generalizing index with
  | nil => cases p <;> rfl
  | cons r rest ih =>
      have hskipped : total - index - 1 = rest.length := by
        rw [List.length_cons] at htotal
        omega
      have hrest : index + 1 + rest.length = total := by
        rw [List.length_cons] at htotal
        omega
      rw [assembleFrom, ih hrest, hskipped]
      by_cases h : r.Conflicted
      -- only a refused record tells the policies apart: one run ends here, the other goes on
      · cases p with
        | failFast =>
            rw [assemble_of_conflicted _ h, AssemblyReport.ofRecords_failFast_cons_of_conflicted h,
              Record.attempted_failFast_cons_of_conflicted h, List.flatMap_singleton]
            rfl
        | collectAll =>
            rw [assemble_of_conflicted _ h, AssemblyReport.ofRecords_collectAll_cons_of_conflicted h]
            simp only [reduceCtorEq, if_false]
            rfl
      · rw [assemble_of_not_conflicted _ h, AssemblyReport.ofRecords_cons_of_not_conflicted h,
          Record.attempted_cons_of_not_conflicted h, List.flatMap_cons]

theorem assembleFrom_start (a : Assembler) (records : List Record) :
    a.assembleFrom records.length 0 records =
      (.ofRecords a.policy records,
        (Record.attempted a.policy records).flatMap (Record.assemblyLog a.policy)) :=
  a.assembleFrom_eq (Nat.zero_add records.length)

theorem assembleAll_report (a : Assembler) (records : List Record) :
    (a.assembleAll records).1 = .ofRecords a.policy records := by
  rw [assembleAll, assembleFrom_start]

end Assembler

namespace AssemblyReport

theorem ofRecords_failures_eq_nil {p : FailurePolicy} {records : List Record} :
    (ofRecords p records).failures = [] ↔ ∀ r ∈ records, ¬r.Conflicted := by
  rw [ofRecords, List.map_eq_nil_iff, List.filter_eq_nil_iff]
  constructor
  · intro h r hr hconflicted
    obtain ⟨s, hs, hsc⟩ := (Record.exists_attempted_conflicted p records).mpr ⟨r, hr, hconflicted⟩
    exact h s hs (decide_eq_true hsc)
  · intro h s hs hsc
    obtain ⟨r, hr, hconflicted⟩ :=
      (Record.exists_attempted_conflicted p records).mp ⟨s, hs, of_decide_eq_true hsc⟩
    exact h r hr hconflicted

theorem ofRecords_of_no_conflict {p : FailurePolicy} {records : List Record}
    (h : ∀ r ∈ records, ¬r.Conflicted) : ofRecords p records = ⟨records.map Record.spec, [], 0⟩ := by
  have hreach : Record.attempted p records = records :=
    p.reach_eq_self fun r hr => decide_eq_false (h r hr)
  have hclean : records.filter (¬·.Conflicted) = records :=
    List.filter_eq_self.mpr fun r hr => decide_eq_true (h r hr)
  have hnone : records.filter (·.Conflicted) = [] :=
    List.filter_eq_nil_iff.mpr fun r hr hc => h r hr (of_decide_eq_true hc)
  rw [ofRecords, hreach, hclean, hnone, Nat.sub_self, List.map_nil]

/-- Every record of a run is assembled, refused or skipped. -/
theorem ofRecords_totalCount (p : FailurePolicy) (records : List Record) :
    (ofRecords p records).totalCount = records.length := by
  have hle : (Record.attempted p records).length ≤ records.length :=
    (p.reach_isPrefix records).length_le
  have hsplit := List.length_eq_countP_add_countP (fun r : Record => decide r.Conflicted)
    (l := Record.attempted p records)
  simp only [totalCount, ofRecords, List.length_map, ← List.countP_eq_length_filter]
  simp only [decide_eq_true_eq] at hsplit
  omega

/-- The number of records that a run refuses. -/
theorem ofRecords_failures_length {p : FailurePolicy} {records : List Record}
    (h : ∃ r ∈ records, r.Conflicted) :
    (ofRecords p records).failures.length =
      match p with
      | .collectAll => records.countP (·.Conflicted)
      | .failFast => 1 := by
  rw [ofRecords, List.length_map, ← List.countP_eq_length_filter]
  cases p with
  | collectAll => rfl
  | failFast =>
      obtain ⟨before, r, after, rfl, hbefore, hr⟩ := Record.exists_first_conflicted h
      have hnone : before.countP (·.Conflicted) = 0 :=
        List.countP_eq_zero.mpr fun b hb hc => hbefore b hb (of_decide_eq_true hc)
      rw [Record.attempted_failFast_append hbefore hr, List.countP_append, hnone,
        List.countP_singleton, if_pos (decide_eq_true hr)]

theorem ofRecords_emittable_of_no_conflict {p : FailurePolicy} {records : List Record}
    (h : ∀ r ∈ records, ¬r.Conflicted) : (ofRecords p records).emittable = .ok (records.map Record.spec) := by
  rw [ofRecords_of_no_conflict h]
  rfl

theorem ofRecords_emittable_of_conflict {p : FailurePolicy} {records : List Record}
    (h : ∃ r ∈ records, r.Conflicted) :
    (ofRecords p records).emittable = .error ⟨(ofRecords p records).failures.length, records.length⟩ := by
  have hfailures : (ofRecords p records).failures ≠ [] := by
    obtain ⟨r, hr, hconflicted⟩ := h
    exact fun hnil => ofRecords_failures_eq_nil.mp hnil r hr hconflicted
  have hincomplete : (ofRecords p records).isCompleteSuccess = false := by
    rw [isCompleteSuccess, List.isEmpty_eq_false_iff.mpr hfailures, Bool.false_and]
  rw [emittable, hincomplete, if_neg Bool.false_ne_true, ofRecords_totalCount]

end AssemblyReport

namespace Assembler

/-- Whether a run may be emitted is decided by the tags alone. If no component carries the optional tag
beside a required one, every record has its specification, in order, whatever the policy and the mode;
otherwise nothing is emitted, and the refusal counts all records and the refused ones among them. -/
theorem emittable_decided_by_tags (a : Assembler) (records : List Record) :
    ((∃ specs, (a.assembleAll records).1.emittable = .ok specs) ↔
      ∀ r ∈ records, ∀ c ∈ r.components,
        ¬("Nullable" ∈ c.tags ∧ ("NotNull" ∈ c.tags ∨ "NonNull" ∈ c.tags))) ∧
    (∀ specs, (a.assembleAll records).1.emittable = .ok specs → specs = records.map Record.spec) ∧
    ∀ e, (a.assembleAll records).1.emittable = .error e →
      e.total = records.length ∧
      e.failed =
        match a.policy with
        | .collectAll => records.countP (·.Conflicted)
        | .failFast => 1 := by
  have htags : (∀ r ∈ records, ∀ c ∈ r.components,
      ¬("Nullable" ∈ c.tags ∧ ("NotNull" ∈ c.tags ∨ "NonNull" ∈ c.tags))) ↔
        ∀ r ∈ records, ¬r.Conflicted := by
    simp only [Record.Conflicted, conflicting_iff, not_exists, not_and]
  rw [htags, assembleAll_report]
  by_cases h : ∃ r ∈ records, r.Conflicted
  · have hemit := AssemblyReport.ofRecords_emittable_of_conflict (p := a.policy) h
    rw [hemit]
    refine ⟨⟨?_, ?_⟩, ?_, ?_⟩
    · rintro ⟨specs, hspecs⟩
      cases hspecs
    · intro hnone
      obtain ⟨r, hr, hconflicted⟩ := h
      exact absurd hconflicted (hnone r hr)
    · intro specs hspecs
      cases hspecs
    · intro e he
      cases he
      exact ⟨rfl, AssemblyReport.ofRecords_failures_length h⟩
  · have hnone : ∀ r ∈ records, ¬r.Conflicted := fun r hr hc => h ⟨r, hr, hc⟩
    rw [AssemblyReport.ofRecords_emittable_of_no_conflict hnone]
    refine ⟨⟨fun _ => hnone, fun _ => ⟨_, rfl⟩⟩, ?_, ?_⟩
    · intro specs hspecs
      cases hspecs
      rfl
    · intro e he
      cases he

/-- Going through the components of a record one after another agrees with classifying all of them and
keeping the first conflict. -/
theorem fieldsUntilConflict_iff_split (components : List Component) :
    (∀ fields, fieldsUntilConflict components = .ok fields ↔
      split (components.map fieldSpec) = (fields, [])) ∧
    ∀ first, fieldsUntilConflict components = .error first ↔
      (split (components.map fieldSpec)).2.take 1 = [first] := by
  have hconflicts := split_conflicts components
  rw [fieldsUntilConflict_eq]
  cases h : Component.conflicts components with
  | nil =>
      rw [h] at hconflicts
      have hsplit : split (components.map fieldSpec) = (components.map Component.field, []) :=
        Prod.ext (split_fields h) hconflicts
      rw [hsplit]
      simp
  | cons c rest =>
      rw [h] at hconflicts
      constructor
      · intro fields
        simp [Prod.ext_iff, hconflicts]
      · intro first
        simp [hconflicts]

/-- The two modes of assembling are the same to an observer: one record has the same outcome, a run has
the same report, and the same lines are logged. -/
theorem parallel_agrees (p : FailurePolicy) (r : Record) (records : List Record) :
    assemble ⟨p, true⟩ r = assemble ⟨p, false⟩ r ∧
    assembleAll ⟨p, true⟩ records = assembleAll ⟨p, false⟩ records ∧
    (∀ fields, fieldsUntilConflict r.components = .ok fields ↔
      split (r.components.map fieldSpec) = (fields, [])) ∧
    ∀ first, fieldsUntilConflict r.components = .error first ↔
      (split (r.components.map fieldSpec)).2.take 1 = [first] := by
  refine ⟨?_, ?_, fieldsUntilConflict_iff_split r.components⟩
  · rw [assemble_eq, assemble_eq]
  · rw [assembleAll, assembleAll, assembleFrom_start, assembleFrom_start]

end Assembler

end Nullability
