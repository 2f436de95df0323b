import Nullability.Record.Extraction

/-!
Derive lists that are well formed: paths of names with two colons between them, which may also stand in
front, and commas between the paths, of which one may stand behind the last. Such a list is read to its end
and gives its paths.
-/

namespace Nullability.Syntax

/-- Tokens that are names, each behind two colons. -/
inductive SpellsMore : List TokenTree → List String → Prop
  | nil : SpellsMore [] []
  | cons {ts : List TokenTree} {names : List String} (m₁ m₂ m : Mark) (joint : Bool) (name : String)
      (h : SpellsMore ts names) :
      SpellsMore (.punct ':' true m₁ :: .punct ':' joint m₂ :: .ident name m :: ts) (name :: names)

/-- Tokens that are a path of names, with or without two colons in front. -/
inductive SpellsPath : List TokenTree → List String → Prop
  | relative {ts : List TokenTree} {names : List String} (m : Mark) (name : String)
      (h : SpellsMore ts names) : SpellsPath (.ident name m :: ts) (name :: names)
  | absolute {ts : List TokenTree} {name : String} {names : List String}
      (h : SpellsMore ts (name :: names)) : SpellsPath ts (name :: names)

/-- Tokens that are paths with commas between them; a comma may also stand behind the last. -/
inductive SpellsPaths : List TokenTree → List (List String) → Prop
  | nil : SpellsPaths [] []
  | last {ts : List TokenTree} {path : List String} (h : SpellsPath ts path) : SpellsPaths ts [path]
  | cons {ts rest : List TokenTree} {path : List String} {paths : List (List String)} (m : Mark)
      (joint : Bool) (h : SpellsPath ts path) (hrest : SpellsPaths rest paths) :
      SpellsPaths (ts ++ .punct ',' joint m :: rest) (path :: paths)

/-- An attribute has a well-formed list of paths. -/
def Attribute.ListsPaths (a : Attribute) (paths : List (List String)) : Prop :=
  ∃ tokens, a.arguments = .listed tokens ∧ SpellsPaths tokens paths

/-- What may stand behind a path in a list: nothing or a comma. -/
def EndsPath (rest : List TokenTree) : Prop :=
  rest = [] ∨ ∃ joint m more, rest = .punct ',' joint m :: more

theorem SpellsPath.exists_cons {ts : List TokenTree} {path : List String} (h : SpellsPath ts path) :
    ∃ t more, ts = t :: more := by
  cases h with
  | relative m name h => exact ⟨_, _, rfl⟩
  | absolute h =>
      cases h with
      | cons m₁ m₂ m joint name h => exact ⟨_, _, rfl⟩

theorem SpellsPaths.of_nil {paths : List (List String)} (h : SpellsPaths [] paths) : paths = [] := by
  generalize hts : ([] : List TokenTree) = ts at h
  cases h with
  | nil => rfl
  | last h =>
      obtain ⟨t, more, rfl⟩ := h.exists_cons
      cases hts
  | cons m joint h hrest =>
      obtain ⟨t, more, rfl⟩ := h.exists_cons
      cases hts

theorem SpellsPaths.length_le {ts : List TokenTree} {paths : List (List String)} (h : SpellsPaths ts paths) :
    paths.length ≤ ts.length := by
  induction h with
  | nil => exact Nat.le_refl 0
  | last h =>
      obtain ⟨t, more, rfl⟩ := h.exists_cons
      simp only [List.length_cons, List.length_nil]
      omega
  | cons m joint h hrest ih =>
      simp only [List.length_append, List.length_cons]
      omega

/-! ### Reading a path -/

namespace Parser

variable {α β σ : Type}

theorem bind_of_ok {p : Parser α} {f : α → Parser β} {e : Enclosure} {r s : Reading} {a : α}
    (h : p e r = .ok (a, s)) : (p >>= f) e r = f a e s := by
  show Except.bind (p e r) _ = _
  rw [h]
  rfl

theorem cursor_run (e : Enclosure) (r : Reading) : cursor e r = .ok (r.rest, r) := rfl

/-- Constructs are read one after the other for as long as a condition holds. -/
inductive Repeats (condition : Cursor → Bool) (item : Parser α) (e : Enclosure) :
    Reading → List α → Reading → Prop
  | stop {r : Reading} (h : condition r.rest = false) : Repeats condition item e r [] r
  | step {r r' r'' : Reading} {a : α} {as : List α} (h : condition r.rest = true)
      (hitem : item e r = .ok (a, r')) (hmore : Repeats condition item e r' as r'') :
      Repeats condition item e r (a :: as) r''

theorem whileTrue_of_repeats {condition : Cursor → Bool} {item : Parser α} {e : Enclosure} {r r' : Reading}
    {as : List α} (h : Repeats condition item e r as r') (hlength : as.length ≤ r.rest.length) :
    whileTrue condition item e r = .ok (as, r') := by
  -- the loop has read `done` before, last first, and its count covers what is still to be read
  have hloop : ∀ (count : Nat) (done : List α), as.length < count →
      loop (fun done => do
        if condition (← cursor) then return .inl ((← item) :: done) else return .inr done.reverse)
        count done e r = .ok (done.reverse ++ as, r') := by
    clear hlength
    induction h with
    | stop h =>
        intro count done hcount
        obtain ⟨count, rfl⟩ := Nat.exists_eq_succ_of_ne_zero (Nat.ne_of_gt hcount)
        rw [loop, bind_of_ok (a := Sum.inr done.reverse) (s := _), List.append_nil]
        · rfl
        · rw [bind_of_ok (cursor_run _ _), h]
          rfl
    | @step r r' r'' a as h hitem hmore ih =>
        intro count done hcount
        obtain ⟨count, rfl⟩ := Nat.exists_eq_succ_of_ne_zero (Nat.ne_of_gt (Nat.zero_lt_of_lt hcount))
        rw [loop, bind_of_ok (a := Sum.inl (a :: done)) (s := r')]
        · show loop _ count (a :: done) e r' = _
          rw [ih count (a :: done) (Nat.lt_of_succ_lt_succ hcount), List.reverse_cons, List.append_assoc]
          rfl
        · rw [bind_of_ok (cursor_run _ _), h, if_pos rfl, bind_of_ok hitem]
          rfl
  rw [whileTrue, iterate, bind_of_ok (cursor_run e r)]
  exact hloop (r.rest.length + 2) [] (by omega)

end Parser

open Parser

variable (e : Enclosure) (leftover : Option (Mark × Option Delimiter)) {rest : List TokenTree}

theorem laterName_run (m₁ m₂ m : Mark) (joint afterBrace : Bool) (name : String) :
    laterName e ⟨.punct ':' true m₁ :: .punct ':' joint m₂ :: .ident name m :: rest, leftover, afterBrace⟩ =
      .ok ((name, m), ⟨rest, leftover, false⟩) := rfl

theorem isPunct_colons_of_endsPath (h : EndsPath rest) : Cursor.isPunct "::" rest = false := by
  rcases h with rfl | ⟨joint, m, more, rfl⟩
  · rfl
  · cases joint <;> rfl

theorem SpellsMore.length_le {ts : List TokenTree} {names : List String} (h : SpellsMore ts names) :
    names.length ≤ ts.length := by
  induction h with
  | nil => exact Nat.le_refl 0
  | cons m₁ m₂ m joint name h ih =>
      simp only [List.length_cons]
      omega

theorem SpellsMore.repeats {ts : List TokenTree} {names : List String} (h : SpellsMore ts names)
    (hrest : EndsPath rest) :
    ∃ found, Repeats (·.isPunct "::") laterName e ⟨ts ++ rest, leftover, false⟩ found
      ⟨rest, leftover, false⟩ ∧ found.map Prod.fst = names := by
  induction h with
  | nil => exact ⟨[], .stop (isPunct_colons_of_endsPath hrest), rfl⟩
  | cons m₁ m₂ m joint name h ih =>
      obtain ⟨found, hrepeats, hnames⟩ := ih
      refine ⟨(name, m) :: found, .step rfl (laterName_run e leftover m₁ m₂ m joint false name) hrepeats, ?_⟩
      rw [List.map_cons, hnames]

theorem SpellsMore.whileTrue_run {ts : List TokenTree} {names : List String} (h : SpellsMore ts names)
    (hrest : EndsPath rest) :
    ∃ found, whileTrue (·.isPunct "::") laterName e ⟨ts ++ rest, leftover, false⟩ =
      .ok (found, ⟨rest, leftover, false⟩) ∧ found.map Prod.fst = names := by
  obtain ⟨found, hrepeats, hnames⟩ := h.repeats e leftover hrest
  refine ⟨found, whileTrue_of_repeats hrepeats ?_, hnames⟩
  have hlength := h.length_le
  rw [← hnames, List.length_map] at hlength
  simp only [List.length_append]
  omega

theorem SpellsMore.pathNames_run {ts : List TokenTree} {names : List String} (h : SpellsMore ts names)
    (hrest : EndsPath rest) (m : Mark) (name : String) (afterBrace : Bool) :
    pathNames e ⟨.ident name m :: (ts ++ rest), leftover, afterBrace⟩ =
      .ok (name :: names, ⟨rest, leftover, false⟩) := by
  obtain ⟨found, hrun, rfl⟩ := h.whileTrue_run e leftover hrest
  have hfirst : anyIdent e ⟨.ident name m :: (ts ++ rest), leftover, afterBrace⟩ =
      .ok ((name, m), ⟨ts ++ rest, leftover, false⟩) := rfl
  rw [pathNames, bind_of_ok (cursor_run e _)]
  show (anyIdent >>= _) e _ = _
  rw [bind_of_ok hfirst]
  exact bind_of_ok hrun

/-- A path is read to its end. -/
theorem SpellsPath.derivePath_run {ts : List TokenTree} {path : List String} (h : SpellsPath ts path)
    (hrest : EndsPath rest) (afterBrace : Bool) :
    derivePath e ⟨ts ++ rest, leftover, afterBrace⟩ = .ok (path, ⟨rest, leftover, false⟩) := by
  cases h with
  | @relative ts names m name h =>
      have hnone : punct? "::" e ⟨.ident name m :: (ts ++ rest), leftover, afterBrace⟩ =
          .ok (false, ⟨.ident name m :: (ts ++ rest), leftover, afterBrace⟩) := rfl
      rw [derivePath, List.cons_append, bind_of_ok hnone]
      exact h.pathNames_run e leftover hrest m name afterBrace
  | @absolute _ name names h =>
      cases h with
      | @cons ts _ m₁ m₂ m joint _ h =>
          have hcolons : punct? "::" e ⟨.punct ':' true m₁ :: .punct ':' joint m₂ ::
              .ident name m :: (ts ++ rest), leftover, afterBrace⟩ =
                .ok (true, ⟨.ident name m :: (ts ++ rest), leftover, false⟩) := rfl
          rw [derivePath, List.cons_append, List.cons_append, List.cons_append, bind_of_ok hcolons]
          exact h.pathNames_run e leftover hrest m name false

/-! ### Reading a list -/

theorem deriveEntries_of_spells {ts : List TokenTree} {paths : List (List String)} (h : SpellsPaths ts paths)
    (hne : ts ≠ []) {count : Nat} (hcount : paths.length ≤ count) (afterBrace : Bool) :
    deriveEntries count ⟨ts, leftover, afterBrace⟩ = (paths, none) := by
  induction h generalizing count afterBrace with
  | nil => exact absurd rfl hne
  | @last ts path h =>
      obtain ⟨count, rfl⟩ := Nat.exists_eq_succ_of_ne_zero (Nat.ne_of_gt hcount)
      have hrun := h.derivePath_run ⟨none, none⟩ leftover (Or.inl rfl) afterBrace
      rw [List.append_nil] at hrun
      rw [deriveEntries]
      simp only [hrun, List.isEmpty_nil, if_true]
  | @cons ts rest path paths m joint h hrest ih =>
      obtain ⟨count, rfl⟩ := Nat.exists_eq_succ_of_ne_zero (Nat.ne_of_gt (Nat.zero_lt_of_lt hcount))
      have hrun := h.derivePath_run ⟨none, none⟩ leftover (Or.inr ⟨joint, m, rest, rfl⟩) afterBrace
      have hcomma : punct "," ⟨none, none⟩ ⟨.punct ',' joint m :: rest, leftover, false⟩ =
          .ok ((), ⟨rest, leftover, false⟩) := by
        cases joint <;> rfl
      rw [deriveEntries]
      simp only [hrun, hcomma, List.isEmpty_cons, Bool.false_eq_true, if_false]
      cases rest with
      | nil =>
          rw [hrest.of_nil]
          rfl
      | cons t rest =>
          have hmore := ih (List.cons_ne_nil t rest) (Nat.le_of_succ_le_succ hcount) false
          simp only [hmore, List.isEmpty_cons, Bool.false_eq_true, if_false]

/-- A well-formed list gives its paths and no fault. -/
theorem Attribute.derives_of_listsPaths {a : Attribute} {paths : List (List String)}
    (h : a.ListsPaths paths) : a.derives = (paths, none) := by
  obtain ⟨tokens, harguments, hspells⟩ := h
  cases tokens with
  | nil =>
      rw [derives, harguments, hspells.of_nil]
  | cons t tokens =>
      have hentries := deriveEntries_of_spells none hspells (List.cons_ne_nil t tokens) hspells.length_le false
      rw [derives, harguments]
      simp only [hentries]
      rfl

end Nullability.Syntax
