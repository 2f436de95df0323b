import Nullability.Proofs.JsonShapes

/-!
Reading a value by shape. A value that a shape writes means what was written. The members of an object are
looked at by name, which only reorders them: no two that a shape writes have the same name.
-/

namespace Nullability.Json

variable {α : Type}

/-- Members of different names are all kept. -/
theorem sortedMembers_perm {ms : List (String × Value)} (h : (ms.map Prod.fst).Nodup) :
    (sortedMembers ms).Perm ms := by
  have hkept : ms.foldr (fun m later => if later.any (·.1 == m.1) then later else m :: later) [] = ms := by
    induction ms with
    | nil => rfl
    | cons m ms ih =>
        obtain ⟨hm, hms⟩ := List.nodup_cons.mp h
        have hnone : ms.any (·.1 == m.1) = false := by
          refine List.any_eq_false.mpr fun n hn heq => hm ?_
          exact List.mem_map.mpr ⟨n, hn, beq_iff_eq.mp heq⟩
        rw [List.foldr_cons, ih hms, hnone, if_neg Bool.false_ne_true]
  rw [sortedMembers, hkept]
  exact Text.sortByName_perm ms

theorem mapM_map_ok {ε β : Type} {read : β → Except ε α} {write : α → β} {as : List α}
    (h : ∀ a ∈ as, read (write a) = .ok a) : (as.map write).mapM read = .ok as := by
  induction as with
  | nil => rfl
  | cons a as ih =>
      have hmore := ih fun b hb => h b (List.mem_cons_of_mem a hb)
      rw [List.map_cons, List.mapM_cons, h a List.mem_cons_self, hmore]
      rfl

theorem choiceOfValue_get {names : List String} (hnames : names.Nodup) (i : Fin names.length) :
    choiceOfValue names (.string (names.get i)) = .ok i := by
  rw [choiceOfValue]
  simp only [finIdxOf?_get hnames]

theorem slotOfValue_nullable {read : Value → Except Cause α} {v : Value} {a : α} (h : read v = .ok a)
    (hnull : v ≠ .null) : slotOfValue .nullable read v = .ok (some a) := by
  cases v with
  | null => exact absurd rfl hnull
  | _ => simp only [slotOfValue, h, Except.map]

/-- What is written for a member is read into its slot. -/
theorem slotOfValue_written {p : Presence} {read : Value → Except Cause α} {encode : α → Value}
    {x : p.Denote α} {v : Value} (h : p.written encode x = some v)
    (hreads : ∀ y ∈ p.given x, read (encode y) = .ok y) (hnull : ∀ y, encode y ≠ .null) :
    ∃ d, p.filled x = some d ∧ slotOfValue p read v = .ok d := by
  cases p with
  | required =>
      cases h
      exact ⟨x, rfl, hreads x rfl⟩
  | optional =>
      obtain ⟨y, rfl, rfl⟩ := Option.map_eq_some_iff.mp h
      exact ⟨some y, rfl, slotOfValue_nullable (hreads y rfl) (hnull y)⟩
  | nullable =>
      cases h
      cases x with
      | none => exact ⟨none, rfl, rfl⟩
      | some y => exact ⟨some y, rfl, slotOfValue_nullable (hreads y rfl) (hnull y)⟩
  | defaulted =>
      obtain ⟨y, rfl, rfl⟩ := Option.map_eq_some_iff.mp h
      exact ⟨y, rfl, hreads y rfl⟩

namespace Fields

/-- A member is read from its value into the slots. -/
def FillsMember : Step := fun fs start m stop => fs.fill m.1 m.2 start = .ok stop

/-- A value that a shape writes means what was written. -/
def MeansBack (shape : Shape) (d : shape.Denote) : Prop := shape.ofValue (shape.encode d) = .ok d

theorem fillsMember_skips : FillsMember.Skips := by
  intro name presence shape rest slot slots slots' m hne hstep
  show (Fields.cons name presence shape rest).fill m.1 m.2 (slot, slots) = _
  rw [fill, if_neg (Ne.symm hne), hstep]
  rfl

theorem fillsMember_fills : FillsMember.Fills MeansBack := by
  intro name presence shape rest d v slots hgiven hwritten
  obtain ⟨x, hx, hreads⟩ := slotOfValue_written hwritten hgiven shape.encode_ne_null
  show (Fields.cons name presence shape rest).fill name v (none, slots) = _
  rw [fill, if_pos rfl, hreads, hx]
  rfl

theorem Steps.foldlM {fs : Fields} {start stop : fs.Slots} {ms : List (String × Value)}
    (h : Steps FillsMember fs start ms stop) :
    ms.foldlM (fun slots m => fs.fill m.1 m.2 slots) start = .ok stop := by
  induction ms generalizing start with
  | nil =>
      cases h
      rfl
  | cons m ms ih =>
      obtain ⟨next, hstep, hrest⟩ := h
      rw [List.foldlM_cons, hstep]
      exact ih hrest

/-- A structure means what its members put into its slots. -/
theorem ofValue_object (name : String) {fields : Fields} {d : fields.Denote} {ms : List (String × Value)}
    (hsteps : Steps FillsMember fields fields.noSlots (sortedMembers ms) (fields.filled d)) :
    (Shape.structure name fields).ofValue (.object ms) = .ok d := by
  show (List.foldlM _ _ _ >>= fun slots => (fields.complete slots).mapError Cause.missing) = _
  rw [hsteps.foldlM]
  show (fields.complete (fields.filled d)).mapError Cause.missing = _
  rw [fields.complete_filled]
  rfl

end Fields

mutual

/-- A value that a shape writes means what was written. -/
theorem Shape.ofValue_encode : (s : Shape) → (d : s.Denote) → s.Distinct → s.ofValue (s.encode d) = .ok d
  | .text, _, _ => rfl
  | .path, _, _ => rfl
  | .whole, _, _ => rfl
  | .truth, _, _ => rfl
  | .choice _, i, hnames => choiceOfValue_get hnames i
  | .sequence element, ds, hdistinct =>
      mapM_map_ok fun (d : element.Denote) _ => element.ofValue_encode d hdistinct
  | .structure name fields, d, hdistinct => by
      have heach := fields.each_means d hdistinct.2
      have hnames := (fields.encode_names_sublist d).nodup hdistinct.1
      have hsteps := Fields.steps_of_perm Fields.fillsMember_skips Fields.fillsMember_fills fields d
        hdistinct.1 heach (sortedMembers_perm hnames)
      exact Fields.ofValue_object name hsteps

theorem Fields.each_means : (fs : Fields) → (d : fs.Denote) → fs.Distinct → fs.Each Fields.MeansBack d
  | .nil, _, _ => trivial
  | .cons _ _ shape rest, (_, ds), hdistinct =>
      ⟨fun x _ => shape.ofValue_encode x hdistinct.1, rest.each_means ds hdistinct.2⟩

end

end Nullability.Json
