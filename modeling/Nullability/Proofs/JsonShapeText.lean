import Nullability.Proofs.JsonShapes

/-!
Reading a text by shape. The reader of a shape reads back what the shape writes, in both styles. A member is
read into the slot of its name and no other; null is read where nothing is written for a member, and the text
of any other value does not begin like null.
-/

namespace Nullability.Json

open Reader

variable {α β : Type}

/-- A text begins with a character that stands in the text and that null does not begin with. -/
def BeginsOther (text : List Char) : Prop := ∃ c rest, text = c :: rest ∧ isBlank c = false ∧ c ≠ 'n'

theorem beginsOther_render {v : Value} (h : v.Exact) (hnull : v ≠ .null) (s : Style) (depth : Nat) :
    BeginsOther (render s depth v) := by
  obtain ⟨c, rest, htext, hblank, -, hc⟩ := render_eq_cons h s depth
  exact ⟨c, rest, htext, hblank, hc hnull⟩

namespace Reader

theorem Reads.map {r : Reader α} {text : List Char} {a : α} (h : Reads r text a) (f : α → β) :
    Reads (r >>= fun a => pure (f a)) text (f a) := by
  intro blanks rest hblanks hrest
  rw [bind_of_ok (h blanks rest hblanks hrest)]
  rfl

theorem text_reads (expected t : String) : Reads (Reader.text expected) (quotedString t) t := by
  intro blanks rest hblanks _
  rw [Reader.text]
  exact (bind_of_ok (start_blanks hblanks rfl _)).trans (string_quoted t rest)

theorem wholeNumber_reads {n : Nat} (h : n < Nat.pow 2 64) : Reads wholeNumber (Nat.toDigits 10 n) n := by
  intro blanks rest hblanks hrest
  obtain ⟨d, ds, hds, hd⟩ := opens_digits n
  have hnumber : number true (d :: (ds ++ rest)) = .ok (.natural n, rest) := by
    rw [← List.cons_append, ← hds, number_natural h hrest]
  rw [hds, List.cons_append, wholeNumber, bind_of_ok (start_blanks hblanks (isBlank_of_isDigit hd) _)]
  split
  · exact absurd hd (by decide)
  · rw [if_pos hd, bind_of_ok hnumber]
    rfl

theorem truth_reads (b : Bool) (s : Style) (depth : Nat) : Reads truth (render s depth (.bool b)) b := by
  intro blanks rest hblanks _
  rw [truth]
  cases b with
  | true => exact (bind_of_ok (start_blanks hblanks rfl _)).trans (drop_word 't' _ rest _)
  | false => exact (bind_of_ok (start_blanks hblanks rfl _)).trans (drop_word 'f' _ rest _)

theorem choice_reads {names : List String} (hnames : names.Nodup) (i : Fin names.length) :
    Reads (choice names) (quotedString (names.get i)) i := by
  intro blanks rest hblanks _
  rw [choice]
  refine (bind_of_ok (start_blanks hblanks rfl _)).trans ((bind_of_ok (string_quoted _ rest)).trans ?_)
  simp only [finIdxOf?_get hnames]
  rfl

/-- Where null stands for nothing, a text that does not begin like null is read as it is elsewhere. -/
theorem orNull_reads {r : Reader α} {text : List Char} {a : α} (h : Reads r text a)
    (hbegins : BeginsOther text) : Reads (slot .nullable r) text (some a) := by
  intro blanks rest hblanks hrest
  have hrun := h.run hrest
  obtain ⟨c, tail, rfl, hblank, hc⟩ := hbegins
  rw [slot, List.cons_append, bind_of_ok (start_blanks hblanks hblank _), if_neg hc]
  exact bind_of_ok hrun

theorem orNull_null (r : Reader α) (s : Style) (depth : Nat) :
    Reads (slot .nullable r) (render s depth .null) none := by
  intro blanks rest hblanks _
  rw [slot]
  exact (bind_of_ok (start_blanks hblanks rfl _)).trans (drop_word 'n' _ rest _)

/-- What is written for a member is read into its slot. -/
theorem slot_reads {p : Presence} {r : Reader α} {encode : α → Value} {s : Style} {depth : Nat}
    {x : p.Denote α} {v : Value} (h : p.written encode x = some v)
    (hreads : ∀ y ∈ p.given x, Reads r (render s depth (encode y)) y)
    (hbegins : ∀ y ∈ p.given x, BeginsOther (render s depth (encode y))) :
    ∃ d, p.filled x = some d ∧ Reads (slot p r) (render s depth v) d := by
  cases p with
  | required =>
      cases h
      exact ⟨x, rfl, hreads x rfl⟩
  | optional =>
      obtain ⟨y, rfl, rfl⟩ := Option.map_eq_some_iff.mp h
      exact ⟨some y, rfl, orNull_reads (hreads y rfl) (hbegins y rfl)⟩
  | nullable =>
      cases h
      cases x with
      | none => exact ⟨none, rfl, orNull_null r s depth⟩
      | some y => exact ⟨some y, rfl, orNull_reads (hreads y rfl) (hbegins y rfl)⟩
  | defaulted =>
      obtain ⟨y, rfl, rfl⟩ := Option.map_eq_some_iff.mp h
      exact ⟨y, rfl, hreads y rfl⟩

end Reader

namespace Fields

/-- A member is known, given for the first time, and read from its text into the slots. -/
def ReadsMember (s : Style) (depth : Nat) : Step := fun fs start m stop =>
  ∃ r, fs.readMember m.1 start = some (.ok r) ∧ Reads r (render s depth m.2) stop

/-- The text of a value is read by the reader of its shape, and does not begin like null. -/
def ReadsBack (s : Style) (depth : Nat) (shape : Shape) (d : shape.Denote) : Prop :=
  Reads shape.read (render s depth (shape.encode d)) d ∧ BeginsOther (render s depth (shape.encode d))

theorem readsMember_skips (s : Style) (depth : Nat) : (ReadsMember s depth).Skips := by
  intro name presence shape rest slot slots slots' m hne hstep
  obtain ⟨r, hmember, hreads⟩ := hstep
  -- The reader of the rest is run in place, and the slot is put back in front.
  refine ⟨_, ?_, hreads.map fun slots => (slot, slots)⟩
  cases slot <;> simp only [readMember, if_neg (Ne.symm hne), hmember]

theorem readsMember_fills (s : Style) (depth : Nat) :
    (ReadsMember s depth).Fills (ReadsBack s depth) := by
  intro name presence shape rest d v slots hgiven hwritten
  obtain ⟨x, hx, hreads⟩ :=
    slot_reads hwritten (fun y hy => (hgiven y hy).1) fun y hy => (hgiven y hy).2
  refine ⟨_, ?_, hx ▸ hreads.map fun x => (some x, slots)⟩
  simp only [readMember, if_true]

/-- Members that are each read into the slots are read from their frame. -/
theorem readMembers_frame (s : Style) (depth : Nat) {fs : Fields} {start stop : fs.Slots}
    {ms : List (String × Value)} (hsteps : Steps (ReadsMember s (depth + 1)) fs start ms stop) {count : Nat}
    (hcount : ms.length < count) (first : Bool) (rest : List Char) :
    fs.readMembers count first start
        (s.frame depth first (ms.map fun m => memberText s m.1 (render s (depth + 1) m.2)) ++
          '\x7d' :: rest) =
      .ok (.ok stop, '\x7d' :: rest) := by
  induction ms generalizing start count first with
  | nil =>
      obtain ⟨count, rfl⟩ := Nat.exists_eq_add_one_of_ne_zero (Nat.ne_zero_of_lt hcount)
      cases hsteps
      rw [readMembers]
      exact bind_of_ok (nextMember_close first (s.blanks_frame_nil depth first) rest)
  | cons m ms ih =>
      obtain ⟨count, rfl⟩ := Nat.exists_eq_add_one_of_ne_zero (Nat.ne_zero_of_lt hcount)
      obtain ⟨next, ⟨r, hmember, hreads⟩, hsteps⟩ := hsteps
      have hrest : EndsNumber (s.frame depth false
          (ms.map fun m => memberText s m.1 (render s (depth + 1) m.2)) ++ '\x7d' :: rest) :=
        endsNumber_frame s depth _ (endsNumber_cons (by decide) rest)
      have hmore := ih hsteps (Nat.lt_of_succ_lt_succ hcount) false
      rw [readMembers]
      simp only [List.map_cons, Style.frame, List.append_assoc]
      rw [bind_of_ok (nextMember_memberText first (s.blanks_lineBreak (depth + 1)) s m.1 _ _)]
      simp only [if_true]
      rw [bind_of_ok (string_quoted m.1 _)]
      simp only [hmember]
      rw [bind_of_ok (colon_cons _), bind_of_ok (hreads _ _ s.blanks_gap hrest), hmore]

end Fields

/-- The elements of a sequence are read if each of them is. -/
theorem Reader.sequence_reads (s : Style) (depth : Nat) {element : Shape} {ds : List element.Denote}
    (hreads : ∀ d ∈ ds, Reads element.read (render s (depth + 1) (element.encode d)) d)
    (hopens : ∀ d ∈ ds, Opens (render s (depth + 1) (element.encode d))) :
    Reads (Shape.sequence element).read (render s depth (.array (ds.map element.encode))) ds := by
  intro blanks rest hblanks hrest
  have hcount := length_lt_frame s depth ds (fun d hd => (hopens d hd).ne_nil) (']' :: rest)
  have helements := elements_frame s depth hreads hopens hcount true rest
  rw [Shape.read, render_array, List.map_map, List.cons_append, List.append_assoc, List.singleton_append]
  refine (bind_of_ok (start_blanks hblanks rfl _)).trans ((bind_of_ok (drop_cons '[' _)).trans
    ((bind_of_ok (get_run _)).trans ?_))
  exact (bind_of_ok helements).trans (bind_of_ok (endArray_close rest))

/-- A structure is read if its members are read into its slots. -/
theorem Reader.structure_reads (s : Style) (depth : Nat) (name : String) {fields : Fields}
    {d : fields.Denote} {ms : List (String × Value)}
    (hsteps : Fields.Steps (Fields.ReadsMember s (depth + 1)) fields fields.noSlots ms (fields.filled d)) :
    Reads (Shape.structure name fields).read (render s depth (.object ms)) d := by
  intro blanks rest hblanks hrest
  have hcount := length_lt_frame s depth ms
    (fun m _ => memberText_ne_nil s m.1 (render s (depth + 1) m.2))
    ('\x7d' :: rest)
  have hmembers := Fields.readMembers_frame s depth hsteps hcount true rest
  rw [Shape.read, render_object, List.cons_append, List.append_assoc, List.singleton_append]
  refine (bind_of_ok (start_blanks hblanks rfl _)).trans ((bind_of_ok (drop_cons '\x7b' _)).trans
    ((bind_of_ok (get_run _)).trans ((bind_of_ok hmembers).trans ?_)))
  simp only [Fields.complete_filled]
  exact bind_of_ok (endObject_close rest)

mutual

/-- The reader of a shape reads back what the shape writes. -/
theorem Shape.reads_encode (st : Style) : (s : Shape) → (d : s.Denote) → s.Distinct → s.Fits d →
    (depth : Nat) → Reads s.read (render st depth (s.encode d)) d
  | .text, t, _, _, _ => by
      rw [Shape.read]
      exact text_reads "a string" t
  | .path, t, _, _, _ => by
      rw [Shape.read]
      exact text_reads "path string" t
  | .whole, _, _, h, _ => by
      rw [Shape.read]
      exact wholeNumber_reads h
  | .truth, b, _, _, depth => by
      rw [Shape.read]
      exact truth_reads b st depth
  | .choice _, i, hnames, _, _ => by
      rw [Shape.read]
      exact choice_reads hnames i
  | .sequence element, ds, hdistinct, hfits, depth => by
      rw [Shape.encode]
      refine sequence_reads st depth (fun d hd => ?_) fun d hd => ?_
      · exact element.reads_encode st d hdistinct (hfits d hd) (depth + 1)
      · exact opens_render (element.exact_encode d (hfits d hd)) st (depth + 1)
  | .structure name fields, d, hdistinct, hfits, depth => by
      have heach := fields.each_reads st d hdistinct.2 hfits (depth + 1)
      rw [Shape.encode]
      exact structure_reads st depth name (Fields.steps_of_perm (Fields.readsMember_skips st _)
        (Fields.readsMember_fills st _) fields d hdistinct.1 heach (List.Perm.refl _))

theorem Fields.each_reads (st : Style) : (fs : Fields) → (d : fs.Denote) → fs.Distinct → fs.Fits d →
    (depth : Nat) → fs.Each (Fields.ReadsBack st depth) d
  | .nil, _, _, _, _ => trivial
  | .cons _ _ shape rest, (_, ds), hdistinct, hfits, depth =>
      ⟨fun x hx => ⟨shape.reads_encode st x hdistinct.1 (hfits.1 x hx) depth,
        beginsOther_render (shape.exact_encode x (hfits.1 x hx)) (shape.encode_ne_null x) st depth⟩,
        rest.each_reads st ds hdistinct.2 hfits.2 depth⟩

end

/-- The text of what a shape writes means what was written; blanks may follow it. -/
theorem Shape.ofText_text (s : Shape) {d : s.Denote} (hdistinct : s.Distinct) (hfits : s.Fits d) (st : Style)
    (after : String) (hafter : Blanks after.toList) : s.ofText ((s.encode d).text st ++ after) = .ok d := by
  rw [Shape.ofText, Value.text, String.toList_append, String.toList_ofList,
    whole_of_reads (s.reads_encode st d hdistinct hfits 0) hafter]
  rfl

end Nullability.Json
