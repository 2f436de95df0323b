/-!
Lists up to the first element at which to stop, that element included. With such an element the list
splits there; without one nothing is cut off.
-/

namespace Nullability

variable {α : Type} {stop : α → Bool}

/-- The elements up to and including the first that satisfies a condition. -/
def takeThrough (stop : α → Bool) : List α → List α
  | [] => []
  | a :: as => if stop a then [a] else a :: takeThrough stop as

theorem takeThrough_cons_of_stop {a : α} {as : List α} (h : stop a = true) :
    takeThrough stop (a :: as) = [a] := by
  rw [takeThrough, if_pos h]

theorem takeThrough_cons_of_not_stop {a : α} {as : List α} (h : stop a = false) :
    takeThrough stop (a :: as) = a :: takeThrough stop as := by
  rw [takeThrough, h, if_neg Bool.false_ne_true]

/-- What stands before the first stop stays. -/
theorem takeThrough_append_of_not_stop {before : List α} (h : ∀ b ∈ before, stop b = false) (as : List α) :
    takeThrough stop (before ++ as) = before ++ takeThrough stop as := by
  induction before with
  | nil => rfl
  | cons b before ih =>
      rw [List.cons_append, takeThrough_cons_of_not_stop (h b List.mem_cons_self),
        ih fun c hc => h c (List.mem_cons_of_mem b hc), List.cons_append]

theorem takeThrough_append {before after : List α} {a : α} (hbefore : ∀ b ∈ before, stop b = false)
    (h : stop a = true) : takeThrough stop (before ++ a :: after) = before ++ [a] := by
  rw [takeThrough_append_of_not_stop hbefore, takeThrough_cons_of_stop h]

theorem takeThrough_map {β : Type} (f : β → α) (bs : List β) :
    takeThrough stop (bs.map f) = (takeThrough (fun b => stop (f b)) bs).map f := by
  induction bs with
  | nil => rfl
  | cons b bs ih =>
      rw [List.map_cons, takeThrough, takeThrough, ih]
      split <;> rfl

theorem takeThrough_eq_self {as : List α} (h : ∀ a ∈ as, stop a = false) : takeThrough stop as = as := by
  have happend := takeThrough_append_of_not_stop h []
  rwa [takeThrough, List.append_nil] at happend

/-- The first element stays, whether or not it is a stop. -/
theorem exists_takeThrough_cons (a : α) (as : List α) : ∃ rest, takeThrough stop (a :: as) = a :: rest := by
  rw [takeThrough]
  split
  · exact ⟨[], rfl⟩
  · exact ⟨takeThrough stop as, rfl⟩

theorem takeThrough_isPrefix (as : List α) : takeThrough stop as <+: as := by
  induction as with
  | nil => exact List.prefix_rfl
  | cons a as ih =>
      cases h : stop a with
      | true =>
          rw [takeThrough_cons_of_stop h]
          exact ⟨as, rfl⟩
      | false =>
          rw [takeThrough_cons_of_not_stop h]
          exact (List.prefix_cons_inj a).mpr ih

/-- A list with an element at which to stop splits at the first one. -/
theorem exists_first_stop {as : List α} (h : ∃ a ∈ as, stop a = true) :
    ∃ before a after, as = before ++ a :: after ∧ (∀ b ∈ before, stop b = false) ∧ stop a = true := by
  obtain ⟨a, hfirst⟩ := Option.isSome_iff_exists.mp (List.find?_isSome.mpr h)
  obtain ⟨hstop, before, after, hsplit, hbefore⟩ := List.find?_eq_some_iff_append.mp hfirst
  refine ⟨before, a, after, hsplit, fun b hb => ?_, hstop⟩
  have hb := hbefore b hb
  rwa [Bool.not_eq_true'] at hb

/-- Cutting off loses no stop altogether: the first one stays. -/
theorem exists_mem_takeThrough {as : List α} :
    (∃ a ∈ takeThrough stop as, stop a = true) ↔ ∃ a ∈ as, stop a = true := by
  constructor
  · rintro ⟨a, ha, h⟩
    exact ⟨a, (takeThrough_isPrefix as).subset ha, h⟩
  · intro h
    obtain ⟨before, a, after, rfl, hbefore, hstop⟩ := exists_first_stop h
    rw [takeThrough_append hbefore hstop]
    exact ⟨a, List.mem_append_right before List.mem_cons_self, hstop⟩

end Nullability
