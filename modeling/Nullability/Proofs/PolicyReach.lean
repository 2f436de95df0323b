import Nullability.Assembly.Basic
import Nullability.TakeThrough

/-!
How far a run goes under a policy. A fail-fast run looks at its items up to and including the first that
fails, and of the failures at that place it reports the first; a run that collects looks at all items and
reports everything. The same two cuts are made at every layer of a run.
-/

namespace Nullability.FailurePolicy

variable {α β : Type}

/-- What a policy reports of the failures at one place: the first, or all of them. -/
def reported (p : FailurePolicy) (failures : List α) : List α :=
  match p with
  | failFast => failures.take 1
  | collectAll => failures

theorem reported_nil (p : FailurePolicy) : p.reported ([] : List α) = [] := by
  cases p <;> rfl

theorem reported_eq_nil {p : FailurePolicy} {failures : List α} :
    p.reported failures = [] ↔ failures = [] := by
  cases p with
  | failFast => cases failures <;> simp [reported]
  | collectAll => exact Iff.rfl

theorem reported_failFast_append {failures : List α} (h : failures ≠ []) (more : List α) :
    failFast.reported (failures ++ more) = failFast.reported failures := by
  cases failures with
  | nil => exact absurd rfl h
  | cons f rest => rfl

theorem reported_map (p : FailurePolicy) (f : α → β) (failures : List α) :
    p.reported (failures.map f) = (p.reported failures).map f := by
  cases p with
  | failFast => exact List.map_take.symm
  | collectAll => rfl

/-- What a policy looks at of the items of a run: everything up to the first failure, or everything. -/
def reach (p : FailurePolicy) (fails : α → Bool) (items : List α) : List α :=
  match p with
  | failFast => takeThrough fails items
  | collectAll => items

variable {fails : α → Bool}

theorem reach_cons_of_passes (p : FailurePolicy) {a : α} (rest : List α) (h : fails a = false) :
    p.reach fails (a :: rest) = a :: p.reach fails rest := by
  cases p with
  | failFast => exact takeThrough_cons_of_not_stop h
  | collectAll => rfl

theorem reach_failFast_cons_of_fails {a : α} (rest : List α) (h : fails a = true) :
    failFast.reach fails (a :: rest) = [a] :=
  takeThrough_cons_of_stop h

theorem reach_map (p : FailurePolicy) (f : β → α) (items : List β) :
    p.reach fails (items.map f) = (p.reach (fun b => fails (f b)) items).map f := by
  cases p with
  | failFast => exact takeThrough_map f items
  | collectAll => rfl

theorem reach_eq_self (p : FailurePolicy) {items : List α} (h : ∀ a ∈ items, fails a = false) :
    p.reach fails items = items := by
  cases p with
  | failFast => exact takeThrough_eq_self h
  | collectAll => rfl

theorem reach_isPrefix (p : FailurePolicy) (items : List α) : p.reach fails items <+: items := by
  cases p with
  | failFast => exact takeThrough_isPrefix items
  | collectAll => exact List.prefix_rfl

/-- A run that is cut off still sees a failure if there is one. -/
theorem exists_mem_reach (p : FailurePolicy) (fails : α → Bool) (items : List α) :
    (∃ a ∈ p.reach fails items, fails a = true) ↔ ∃ a ∈ items, fails a = true := by
  cases p with
  | failFast => exact exists_mem_takeThrough
  | collectAll => exact Iff.rfl

end Nullability.FailurePolicy
