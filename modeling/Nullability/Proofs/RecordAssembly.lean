import Nullability.Proofs.ComponentVerdict
import Nullability.Proofs.PolicyReach

/-!
Assembling one record. A record either has no conflict and becomes its specification, or it is refused
with the conflicts that the policy lets through. The closed form `assemble_eq` does not mention how the
components are gone through, one after another or all at once, so both ways give the same.
-/

namespace Nullability

namespace Component

/-- The conflicts of components, in order. -/
def conflicts (components : List Component) : List Conflict :=
  (components.filter (Conflicting ·.tags)).map conflict

theorem conflicts_cons_of_conflicting {c : Component} {rest : List Component} (h : Conflicting c.tags) :
    conflicts (c :: rest) = c.conflict :: conflicts rest := by
  rw [conflicts, List.filter_cons, if_pos (decide_eq_true h), List.map_cons, conflicts]

theorem conflicts_cons_of_not_conflicting {c : Component} {rest : List Component}
    (h : ¬Conflicting c.tags) : conflicts (c :: rest) = conflicts rest := by
  rw [conflicts, List.filter_cons, if_neg (fun hc => h (of_decide_eq_true hc)), conflicts]

theorem conflicts_eq_nil {components : List Component} :
    conflicts components = [] ↔ ∀ c ∈ components, ¬Conflicting c.tags := by
  rw [conflicts, List.map_eq_nil_iff, List.filter_eq_nil_iff]
  simp only [decide_eq_true_eq]

end Component

namespace Assembler

open Component

theorem split_conflicts (components : List Component) :
    (split (components.map fieldSpec)).2 = conflicts components := by
  induction components with
  | nil => rfl
  | cons c rest ih =>
      rw [split] at ih ⊢
      by_cases h : Conflicting c.tags
      · rw [conflicts_cons_of_conflicting h, ← ih, List.map_cons, fieldSpec_of_conflicting h]
        rfl
      · rw [conflicts_cons_of_not_conflicting h, ← ih, List.map_cons, fieldSpec_of_not_conflicting h]
        rfl

theorem split_fields {components : List Component} (h : conflicts components = []) :
    (split (components.map fieldSpec)).1 = components.map field := by
  rw [conflicts_eq_nil] at h
  induction components with
  | nil => rfl
  | cons c rest ih =>
      have hc : fieldSpec c = .ok c.field := fieldSpec_of_not_conflicting (h c List.mem_cons_self)
      have hrest := ih fun d hd => h d (List.mem_cons_of_mem c hd)
      rw [split] at hrest ⊢
      rw [List.map_cons, List.map_cons, hc, ← hrest]
      rfl

/-- Going through the components one after another ends with the first conflict, and without one it
gives the field of every component. -/
theorem fieldsUntilConflict_eq (components : List Component) :
    fieldsUntilConflict components =
      match conflicts components with
      | [] => .ok (components.map field)
      | first :: _ => .error first := by
  induction components with
  | nil => rfl
  | cons c rest ih =>
      rw [fieldsUntilConflict]
      by_cases h : Conflicting c.tags
      · rw [fieldSpec_of_conflicting h, conflicts_cons_of_conflicting h]
      · rw [fieldSpec_of_not_conflicting h, conflicts_cons_of_not_conflicting h]
        simp only [ih]
        cases conflicts rest <;> rfl

/-- The conflicts that are reported depend on the policy, and not on how the components are gone
through. -/
theorem classifyAll_conflicts (a : Assembler) (components : List Component) :
    (a.classifyAll components).2 = a.policy.reported (conflicts components) := by
  rcases a with ⟨_ | _, _ | _⟩
  · simp only [classifyAll, fieldsUntilConflict_eq]
    cases conflicts components <;> rfl
  · simp only [classifyAll, FailurePolicy.reported, split_conflicts]
  · exact split_conflicts components
  · exact split_conflicts components

theorem classifyAll_fields (a : Assembler) {components : List Component}
    (h : conflicts components = []) : (a.classifyAll components).1 = components.map field := by
  rcases a with ⟨_ | _, _ | _⟩
  · simp only [classifyAll, fieldsUntilConflict_eq, h]
  · exact split_fields h
  · exact split_fields h
  · exact split_fields h

end Assembler

namespace Record

/-- A record has contradictory tags on one of its components. -/
def Conflicted (r : Record) : Prop := ∃ c ∈ r.components, Conflicting c.tags

instance : DecidablePred Conflicted :=
  fun r => inferInstanceAs (Decidable (∃ c ∈ r.components, Conflicting c.tags))

/-- The conflicts of a record, in the order of its components. -/
def conflicts (r : Record) : List Conflict := Component.conflicts r.components

theorem conflicts_eq_nil {r : Record} : r.conflicts = [] ↔ ¬r.Conflicted := by
  rw [conflicts, Component.conflicts_eq_nil, Conflicted]
  constructor
  · rintro h ⟨c, hc, hconflict⟩
    exact h c hc hconflict
  · exact fun h c hc hconflict => h ⟨c, hc, hconflict⟩

/-- The specification of a record without conflicts. -/
def spec (r : Record) : BuilderSpec := ⟨r.name, r.file, r.line, r.components.map Component.field⟩

/-- How a record with conflicts is refused. -/
def refusal (p : FailurePolicy) (r : Record) : AssemblyError :=
  ⟨r.name, r.location, p.reported r.conflicts⟩

/-- The lines that assembling a record logs: one when it begins, and one for each conflict that is
reported. -/
def assemblyLog (p : FailurePolicy) (r : Record) : Logged :=
  Assembler.logLine .debug
      ("Assembling " ++ r.name ++ " (" ++ toString r.components.length ++ " components)")
    :: (p.reported r.conflicts).map fun c => Assembler.logLine .warn (r.location ++ ": " ++ c.message)

end Record

namespace Assembler

theorem assemble_of_conflicted (a : Assembler) {r : Record} (h : r.Conflicted) :
    a.assemble r = (.error (r.refusal a.policy), r.assemblyLog a.policy) := by
  have hne : a.policy.reported r.conflicts ≠ [] := by
    rw [Ne, FailurePolicy.reported_eq_nil, Record.conflicts_eq_nil]
    exact fun hn => hn h
  have hconflicts : (a.classifyAll r.components).2 = a.policy.reported r.conflicts :=
    a.classifyAll_conflicts r.components
  rw [assemble]
  simp only [hconflicts, List.isEmpty_iff]
  rw [if_neg hne]
  rfl

theorem assemble_of_not_conflicted (a : Assembler) {r : Record} (h : ¬r.Conflicted) :
    a.assemble r = (.ok r.spec, r.assemblyLog a.policy) := by
  have hnil : r.conflicts = [] := Record.conflicts_eq_nil.mpr h
  have hconflicts : (a.classifyAll r.components).2 = [] := by
    rw [classifyAll_conflicts, FailurePolicy.reported_eq_nil]
    exact hnil
  have hfields : (a.classifyAll r.components).1 = r.components.map Component.field :=
    a.classifyAll_fields hnil
  rw [assemble]
  simp only [hconflicts, hfields, List.isEmpty_nil, if_true]
  rw [Record.assemblyLog, hnil, FailurePolicy.reported_nil]
  rfl

/-- A record without conflicts is assembled into its specification, any other is refused. -/
theorem assemble_eq (a : Assembler) (r : Record) :
    a.assemble r =
      (if r.Conflicted then .error (r.refusal a.policy) else .ok r.spec, r.assemblyLog a.policy) := by
  by_cases h : r.Conflicted
  · rw [if_pos h, a.assemble_of_conflicted h]
  · rw [if_neg h, a.assemble_of_not_conflicted h]

end Assembler

end Nullability
