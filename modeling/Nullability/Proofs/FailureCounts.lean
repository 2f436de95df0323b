import Mathlib.Algebra.BigOperators.Group.List.Basic
import Mathlib.Algebra.GroupWithZero.Nat
import Nullability.Batch.Summary

/-!
What the summary of a batch accounts for. The counts that are kept while the failures are gone through are at
every point those of the failures so far, listed in the order of the operations without the ones that are
zero. So they add up to all failures, and a summary shows every failure either in full or in the number of
those that are left out.
-/

namespace Nullability

theorem Operation.mem_all (o : Operation) : o ∈ all := by
  cases o <;> decide

theorem Operation.all_sorted : all.Pairwise (·.rank < ·.rank) := by
  decide

namespace FailureSummary

/-- How many failures are of an operation. -/
def countOf (o : Operation) (failures : List Failure) : Nat := failures.countP (·.operation = o)

/-- The counts of operations in a given order, without those that are zero. -/
def listed (os : List Operation) (count : Operation → Nat) : List (Operation × Nat) :=
  (os.filter (count · ≠ 0)).map fun o => (o, count o)

variable {os : List Operation} {o p : Operation} {count : Operation → Nat}

theorem listed_cons_of_zero (h : count p = 0) : listed (p :: os) count = listed os count := by
  rw [listed, List.filter_cons_of_neg (by simp [h])]
  rfl

theorem listed_cons_of_ne_zero (h : count p ≠ 0) :
    listed (p :: os) count = (p, count p) :: listed os count := by
  rw [listed, List.filter_cons_of_pos (by simp [h])]
  rfl

theorem mem_listed {n : Nat} : (o, n) ∈ listed os count ↔ o ∈ os ∧ n = count o ∧ n ≠ 0 := by
  simp only [listed, List.mem_map, List.mem_filter, decide_eq_true_eq, Prod.mk.injEq]
  constructor
  · rintro ⟨_, ⟨hmem, hne⟩, rfl, rfl⟩
    exact ⟨hmem, rfl, hne⟩
  · rintro ⟨hmem, rfl, hne⟩
    exact ⟨o, ⟨hmem, hne⟩, rfl, rfl⟩

theorem listed_congr {other : Operation → Nat} (h : ∀ p ∈ os, count p = other p) :
    listed os count = listed os other := by
  induction os with
  | nil => rfl
  | cons p os ih =>
      rw [List.forall_mem_cons] at h
      by_cases hp : count p = 0
      · rw [listed_cons_of_zero hp, listed_cons_of_zero (h.1 ▸ hp), ih h.2]
      · rw [listed_cons_of_ne_zero hp, listed_cons_of_ne_zero (h.1 ▸ hp), h.1, ih h.2]

theorem sum_listed (os : List Operation) (count : Operation → Nat) :
    ((listed os count).map Prod.snd).sum = (os.map count).sum := by
  induction os with
  | nil => rfl
  | cons p os ih =>
      by_cases hp : count p = 0
      · rw [listed_cons_of_zero hp, ih, List.map_cons, List.sum_cons, hp, Nat.zero_add]
      · rw [listed_cons_of_ne_zero hp, List.map_cons, List.sum_cons, ih, List.map_cons, List.sum_cons]

theorem operations_listed (os : List Operation) (count : Operation → Nat) :
    (listed os count).map Prod.fst = os.filter (count · ≠ 0) := by
  rw [listed, List.map_map]
  exact List.map_id _

/-! ### Counting -/

theorem countOne_of_first {counts : List (Operation × Nat)} (h : ∀ e ∈ counts, o.rank < e.1.rank) :
    countOne o counts = (o, 1) :: counts := by
  cases counts with
  | nil => rfl
  | cons e counts =>
      have hlt := h e List.mem_cons_self
      have hne : e.1 ≠ o := fun heq => Nat.lt_irrefl _ (heq ▸ hlt)
      rw [countOne, if_neg hne, if_pos hlt]

/-- One more failure of an operation is counted in its place. -/
theorem countOne_listed (hsorted : os.Pairwise (·.rank < ·.rank)) (ho : o ∈ os) :
    countOne o (listed os count) = listed os fun p => count p + if p = o then 1 else 0 := by
  induction os with
  | nil => cases ho
  | cons p os ih =>
      rw [List.pairwise_cons] at hsorted
      by_cases hpo : p = o
      · subst hpo
        have hrest : listed os count = listed os fun q => count q + if q = p then 1 else 0 := by
          refine listed_congr fun q hq => ?_
          have hne : q ≠ p := fun heq => Nat.lt_irrefl _ (heq ▸ hsorted.1 q hq)
          rw [if_neg hne, Nat.add_zero]
        have hcounted : (count p + if p = p then 1 else 0) ≠ 0 := by simp
        rw [@listed_cons_of_ne_zero os p (fun q => count q + if q = p then 1 else 0) hcounted, ← hrest,
          if_pos rfl]
        by_cases hp : count p = 0
        · rw [listed_cons_of_zero hp, hp]
          exact countOne_of_first fun e he => hsorted.1 e.1 (mem_listed.mp he).1
        · rw [listed_cons_of_ne_zero hp, countOne, if_pos rfl]
      · have hos : o ∈ os := (List.mem_cons.mp ho).resolve_left (Ne.symm hpo)
        have hsame : (count p + if p = o then 1 else 0) = count p := by rw [if_neg hpo, Nat.add_zero]
        by_cases hp : count p = 0
        · rw [listed_cons_of_zero hp, listed_cons_of_zero (hsame.trans hp), ih hsorted.2 hos]
        · rw [listed_cons_of_ne_zero hp, listed_cons_of_ne_zero (ne_of_eq_of_ne hsame hp), hsame, countOne, if_neg hpo,
            if_neg (Nat.lt_asymm (hsorted.1 o hos)), ih hsorted.2 hos]

theorem countOf_cons (o : Operation) (f : Failure) (failures : List Failure) :
    countOf o (f :: failures) = countOf o failures + if o = f.operation then 1 else 0 := by
  simp [countOf, List.countP_cons, eq_comm]

/-- Going through failures adds theirs to the counts so far. -/
theorem foldl_countOne (failures : List Failure) (count : Operation → Nat) :
    failures.foldl (fun counts f => countOne f.operation counts) (listed Operation.all count) =
      listed Operation.all fun o => count o + countOf o failures := by
  induction failures generalizing count with
  | nil => rfl
  | cons f failures ih =>
      rw [List.foldl_cons, countOne_listed Operation.all_sorted f.operation.mem_all, ih]
      refine listed_congr fun o _ => ?_
      rw [countOf_cons]
      omega

theorem byOperation_eq (failures : List Failure) :
    (ofFailures failures).byOperation = listed Operation.all (countOf · failures) := by
  have hempty : ([] : List (Operation × Nat)) = listed Operation.all fun _ => 0 := rfl
  have hzero : (fun o => 0 + countOf o failures) = (countOf · failures) := by
    funext o
    exact Nat.zero_add _
  rw [ofFailures, hempty, foldl_countOne, hzero]

/-- Every failure is of one operation. -/
theorem sum_countOf (failures : List Failure) :
    (Operation.all.map (countOf · failures)).sum = failures.length := by
  induction failures with
  | nil => rfl
  | cons f failures ih =>
      simp only [countOf_cons, List.sum_map_add, ih, List.length_cons]
      cases f.operation <;> rfl

theorem countOf_perm {failures others : List Failure} (h : others.Perm failures) (o : Operation) :
    countOf o others = countOf o failures :=
  h.countP_eq _

/-- A summary loses nothing. It counts all failures and, for each operation that has any, the failures of that
operation; these counts add up to all, and do not depend on the order of the failures. It shows the first
ten in full and says how many more there are, if there are more. -/
theorem summary_loses_nothing (failures : List Failure) :
    let s := ofFailures failures
    s.total = failures.length ∧
    (∀ o n, (o, n) ∈ s.byOperation ↔ 0 < n ∧ n = countOf o failures) ∧
    (∀ o, o ∉ s.byOperation.map Prod.fst ↔ countOf o failures = 0) ∧
    (s.byOperation.map Prod.snd).sum = s.total ∧
    (∀ others, others.Perm failures → (ofFailures others).byOperation = s.byOperation) ∧
    s.samples = failures.take (min 10 s.total) ∧ s.samples.length = min 10 s.total ∧
    (10 < s.total → s.samples.length + (s.total - 10) = s.total) ∧
    s.report = Text.ended
      (["", "Failure breakdown:"]
        ++ ([.fileRead, .fileParse, .classification].filter fun o => countOf o failures ≠ 0).map
          (fun o => "  " ++ o.label ++ ": " ++ toString (countOf o failures))
        ++ ["", "Errors:"] ++ s.samples.map (fun f => "  " ++ f.message)
        ++ if 10 < s.total then ["  ... and " ++ toString (s.total - 10) ++ " more"] else []) := by
  intro s
  have hcounts : s.byOperation = listed Operation.all (countOf · failures) := byOperation_eq failures
  have hoperations : s.byOperation.map Prod.fst = Operation.all.filter (countOf · failures ≠ 0) := by
    rw [hcounts, operations_listed]
  have htotal : s.total = failures.length := rfl
  have hsamples : s.samples = failures.take 10 := rfl
  have hshown : s.samples.length = min 10 s.total := by rw [hsamples, List.length_take, htotal]
  refine ⟨htotal, fun o n => ?_, fun o => ?_, ?_, fun others h => ?_, ?_, hshown, fun h => ?_, ?_⟩
  · rw [hcounts, mem_listed, Nat.pos_iff_ne_zero]
    exact ⟨fun h => ⟨h.2.2, h.2.1⟩, fun h => ⟨o.mem_all, h.2, h.1⟩⟩
  · simp [hoperations, Operation.mem_all]
  · rw [hcounts, sum_listed, sum_countOf, htotal]
  · rw [hcounts, byOperation_eq]
    exact listed_congr fun o _ => countOf_perm h o
  · rw [hsamples, htotal, ← List.take_eq_take_min]
  · rw [hshown]
    omega
  · rw [report, lines, hcounts, listed, List.map_map, hshown]
    by_cases h : 10 < s.total
    · rw [if_pos h, Nat.min_eq_left (Nat.le_of_lt h), if_pos h]
      rfl
    · rw [if_neg h, Nat.min_eq_right (Nat.le_of_not_lt h), if_neg (Nat.lt_irrefl _)]
      rfl

end FailureSummary

end Nullability
