import Nullability.Json.OfValue
import Nullability.Proofs.JsonText

/-!
Writing by shape. What a structure is written as is a list of members, and reading puts them into slots one
after the other. The slots are filled in the end whatever the order of the members, and complete slots mean
what was written; this holds of every way of reading that puts one member at a time into its own slot.
-/

namespace Nullability.Json

namespace Presence

variable {α : Type}

/-- What a member holds, if it is given. -/
def given : (p : Presence) → p.Denote α → Option α
  | .required, x => some x
  | .optional, x => x
  | .nullable, x => x
  | .defaulted, x => x

/-- The value that is written for a member, if one is written. -/
def written (encode : α → Value) : (p : Presence) → p.Denote α → Option Value
  | .nullable, x => some ((x.map encode).getD .null)
  | p, x => (p.given x).map encode

/-- The slot of a member once everything is read. -/
def filled : (p : Presence) → p.Denote α → Option (p.Slot α)
  | .required, x => some x
  | .defaulted, x => x
  | .optional, x => x.map some
  | .nullable, x => some x

theorem filled_of_not_written {encode : α → Value} {p : Presence} {x : p.Denote α}
    (h : p.written encode x = none) : p.filled x = none := by
  cases p with
  | required => cases h
  | nullable => cases h
  | optional => exact Option.map_eq_none_iff.mpr (Option.map_eq_none_iff.mp h)
  | defaulted => exact Option.map_eq_none_iff.mp h

/-- Null is all that may be written besides what is given. -/
theorem of_written {encode : α → Value} {p : Presence} {x : p.Denote α} {v : Value}
    (h : p.written encode x = some v) : v = .null ∨ ∃ y ∈ p.given x, v = encode y := by
  cases p with
  | required =>
      cases h
      exact .inr ⟨x, rfl, rfl⟩
  | optional =>
      obtain ⟨y, hy, rfl⟩ := Option.map_eq_some_iff.mp h
      exact .inr ⟨y, hy, rfl⟩
  | nullable =>
      cases h
      cases x with
      | none => exact .inl rfl
      | some y => exact .inr ⟨y, rfl, rfl⟩
  | defaulted =>
      obtain ⟨y, hy, rfl⟩ := Option.map_eq_some_iff.mp h
      exact .inr ⟨y, hy, rfl⟩

end Presence

theorem finIdxOf?_get {names : List String} (hnames : names.Nodup) (i : Fin names.length) :
    names.finIdxOf? (names.get i) = some i := by
  refine List.finIdxOf?_eq_some_iff.mpr ⟨rfl, fun j hj heq => ?_⟩
  exact absurd ((List.getElem_inj hnames).mp heq) (Nat.ne_of_lt hj)

mutual

/-- The names of a shape, of choices and of members, are told apart. -/
def Shape.Distinct : Shape → Prop
  | .choice names => names.Nodup
  | .sequence element => element.Distinct
  | .structure _ fields => fields.names.Nodup ∧ fields.Distinct
  | _ => True

def Fields.Distinct : Fields → Prop
  | .nil => True
  | .cons _ _ shape rest => shape.Distinct ∧ rest.Distinct

end

mutual

/-- The whole numbers in what a value of a shape means fit sixty-four bits. -/
def Shape.Fits : (s : Shape) → s.Denote → Prop
  | .whole, n => Nat.lt n (Nat.pow 2 64)
  | .sequence element, ds => ∀ d, List.Mem d ds → element.Fits d
  | .structure _ fields, d => fields.Fits d
  | _, _ => True

def Fields.Fits : (fs : Fields) → fs.Denote → Prop
  | .nil, _ => True
  | .cons _ presence shape rest, (d, ds) => (∀ x ∈ presence.given d, shape.Fits x) ∧ rest.Fits ds

end

namespace Fields

/-- A property of what is given for each member. -/
def Each (P : (s : Shape) → s.Denote → Prop) : (fs : Fields) → fs.Denote → Prop
  | .nil, _ => True
  | .cons _ presence shape rest, (d, ds) => (∀ x ∈ presence.given d, P shape x) ∧ rest.Each P ds

/-- The slots once all members are read. -/
def filled : (fs : Fields) → fs.Denote → fs.Slots
  | .nil, _ => ()
  | .cons _ presence _ rest, (d, ds) => (presence.filled d, rest.filled ds)

/-- Slots that hold all that was written mean what was meant. -/
theorem complete_filled : (fs : Fields) → (d : fs.Denote) → fs.complete (fs.filled d) = .ok d
  | .nil, _ => rfl
  | .cons name presence shape rest, (d, ds) => by
      have ih := complete_filled rest ds
      cases presence with
      | required => simp only [filled, complete, Presence.filled, ih, Except.map]
      | defaulted => simp only [filled, complete, Presence.filled, ih, Except.map]
      | nullable => simp only [filled, complete, Presence.filled, ih, Except.map, Option.join_some]
      | optional => cases d <;> simp only [filled, complete, Presence.filled, ih, Except.map] <;> rfl

theorem encode_cons (name : String) (presence : Presence) (shape : Shape) (rest : Fields)
    (d : presence.Denote shape.Denote) (ds : rest.Denote) :
    (Fields.cons name presence shape rest).encode (d, ds) =
      ((presence.written shape.encode d).map fun v => (name, v)).toList ++ rest.encode ds := by
  cases presence with
  | required => rfl
  | nullable => rfl
  | optional => cases d <;> rfl
  | defaulted => cases d <;> rfl

/-- The names that are written stand among the names of the members, in their order. -/
theorem encode_names_sublist : (fs : Fields) → (d : fs.Denote) → ((fs.encode d).map Prod.fst).Sublist fs.names
  | .nil, _ => List.Sublist.refl []
  | .cons name presence shape rest, (d, ds) => by
      have ih := encode_names_sublist rest ds
      rw [encode_cons]
      cases presence.written shape.encode d with
      | none => exact ih.cons name
      | some v => exact ih.cons_cons name

/-- How one member changes the slots. -/
abbrev Step := (fs : Fields) → fs.Slots → String × Value → fs.Slots → Prop

/-- Members change the slots one after the other. -/
def Steps (step : Step) (fs : Fields) : fs.Slots → List (String × Value) → fs.Slots → Prop
  | start, [], stop => start = stop
  | start, m :: ms, stop => ∃ next, step fs start m next ∧ Steps step fs next ms stop

theorem Steps.append {step : Step} {fs : Fields} {start middle stop : fs.Slots}
    {before after : List (String × Value)} (hbefore : Steps step fs start before middle)
    (hafter : Steps step fs middle after stop) : Steps step fs start (before ++ after) stop := by
  induction before generalizing start with
  | nil =>
      cases hbefore
      exact hafter
  | cons m ms ih =>
      obtain ⟨next, hstep, hrest⟩ := hbefore
      exact ⟨next, hstep, ih hrest⟩

theorem Steps.split {step : Step} {fs : Fields} {start stop : fs.Slots} {before after : List (String × Value)}
    (h : Steps step fs start (before ++ after) stop) :
    ∃ middle, Steps step fs start before middle ∧ Steps step fs middle after stop := by
  induction before generalizing start with
  | nil => exact ⟨start, rfl, h⟩
  | cons m ms ih =>
      obtain ⟨next, hstep, hrest⟩ := h
      obtain ⟨middle, hbefore, hafter⟩ := ih hrest
      exact ⟨middle, ⟨next, hstep, hbefore⟩, hafter⟩

/-- A step passes over a slot of another name. -/
def Step.Skips (step : Step) : Prop :=
  ∀ {name : String} {presence : Presence} {shape : Shape} {rest : Fields}
    (slot : Option (presence.Slot shape.Denote)) {slots slots' : rest.Slots} {m : String × Value},
    m.1 ≠ name → step rest slots m slots' →
      step (.cons name presence shape rest) (slot, slots) m (slot, slots')

/-- A step puts what is written for a member into the slot of its name. -/
def Step.Fills (step : Step) (P : (s : Shape) → s.Denote → Prop) : Prop :=
  ∀ {name : String} {presence : Presence} {shape : Shape} {rest : Fields}
    {d : presence.Denote shape.Denote} {v : Value} (slots : rest.Slots),
    (∀ x ∈ presence.given d, P shape x) → presence.written shape.encode d = some v →
      step (.cons name presence shape rest) (none, slots) (name, v) (presence.filled d, slots)

theorem Steps.skip {step : Step} (hskips : step.Skips) {name : String} {presence : Presence} {shape : Shape}
    {rest : Fields} (slot : Option (presence.Slot shape.Denote)) {slots slots' : rest.Slots}
    {ms : List (String × Value)} (hne : ∀ m ∈ ms, m.1 ≠ name) (h : Steps step rest slots ms slots') :
    Steps step (.cons name presence shape rest) (slot, slots) ms (slot, slots') := by
  induction ms generalizing slots with
  | nil =>
      cases h
      rfl
  | cons m ms ih =>
      obtain ⟨next, hstep, hrest⟩ := h
      exact ⟨(slot, next), hskips slot (hne m List.mem_cons_self) hstep,
        ih (fun n hn => hne n (List.mem_cons_of_mem m hn)) hrest⟩

/-- Members that are written fill the slots in whatever order they come, if no two have the same name. -/
theorem steps_of_perm {step : Step} {P : (s : Shape) → s.Denote → Prop} (hskips : step.Skips)
    (hfills : step.Fills P) :
    (fs : Fields) → (d : fs.Denote) → fs.names.Nodup → fs.Each P d → {ms : List (String × Value)} →
      ms.Perm (fs.encode d) → Steps step fs fs.noSlots ms (fs.filled d)
  | .nil, _, _, _, ms, hms => by
      cases hms.eq_nil
      rfl
  | .cons name presence shape rest, (d, ds), hnames, heach, ms, hms => by
      obtain ⟨hname, hrest⟩ := List.nodup_cons.mp hnames
      have hother : ∀ m ∈ rest.encode ds, m.1 ≠ name := by
        rintro m hm rfl
        exact hname ((rest.encode_names_sublist ds).subset (List.mem_map_of_mem hm))
      rw [encode_cons] at hms
      cases hwritten : presence.written shape.encode d with
      | none =>
          rw [hwritten] at hms
          have hsteps := steps_of_perm hskips hfills rest ds hrest heach.2 hms
          rw [noSlots, filled, Presence.filled_of_not_written hwritten]
          exact hsteps.skip hskips none fun m hm => hother m (hms.mem_iff.mp hm)
      | some v =>
          -- The member stands somewhere among the others, which all pass over its slot.
          rw [hwritten] at hms
          obtain ⟨before, after, rfl⟩ := List.append_of_mem (hms.mem_iff.mpr List.mem_cons_self)
          have hperm : (before ++ after).Perm (rest.encode ds) :=
            (List.perm_middle.symm.trans hms).cons_inv
          obtain ⟨middle, hbefore, hafter⟩ :=
            (steps_of_perm hskips hfills rest ds hrest heach.2 hperm).split
          have hne : ∀ m ∈ before ++ after, m.1 ≠ name := fun m hm => hother m (hperm.mem_iff.mp hm)
          refine Steps.append (hbefore.skip hskips none fun m hm => hne m (List.mem_append_left _ hm)) ?_
          exact ⟨_, hfills middle heach.1 hwritten,
            hafter.skip hskips _ fun m hm => hne m (List.mem_append_right _ hm)⟩

end Fields

mutual

/-- What is written can be read back from its text, if the whole numbers fit. -/
theorem Shape.exact_encode : (s : Shape) → (d : s.Denote) → s.Fits d → (s.encode d).Exact
  | .text, t, _ => .string t
  | .path, t, _ => .string t
  | .whole, _, h => .natural h
  | .truth, b, _ => .bool b
  | .choice names, i, _ => .string (names.get i)
  | .sequence element, ds, h => .array fun v hv => by
      obtain ⟨d, hd, rfl⟩ := List.mem_map.mp hv
      exact element.exact_encode d (h d hd)
  | .structure _ fields, d, h => .object (fields.exact_encode d h)

theorem Fields.exact_encode : (fs : Fields) → (d : fs.Denote) → fs.Fits d → ∀ m ∈ fs.encode d, m.2.Exact
  | .nil, _, _, _, hm => absurd hm List.not_mem_nil
  | .cons name presence shape rest, (d, ds), h, m, hm => by
      rw [Fields.encode_cons] at hm
      rcases List.mem_append.mp hm with hm | hm
      · obtain ⟨v, hv, rfl⟩ := Option.map_eq_some_iff.mp (Option.mem_toList.mp hm)
        rcases Presence.of_written hv with rfl | ⟨x, hx, rfl⟩
        · exact .null
        · exact shape.exact_encode x (h.1 x hx)
      · exact rest.exact_encode ds h.2 m hm

end

theorem Shape.encode_ne_null (s : Shape) (d : s.Denote) : s.encode d ≠ .null := by
  cases s <;> exact Value.noConfusion

end Nullability.Json
