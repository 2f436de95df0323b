import Nullability.Proofs.ExprPlaces

/-!
Places in fields. The place of a field is that of the first token that its rule reads, attributes included, and
the place of its name is that of the identifier. To say which tokens these are, it has to be known what the
rule has read: answers of the parsers for single tokens are inverted here, then those of attributes and
visibilities, and `Field.StandsIn` of a field read follows from the tokens left in between.
-/

set_option mvcgen.warning false

namespace Nullability.Syntax

open Std.Do TokenTree Nullability.Syntax.Parser

variable {tokens : List TokenTree}

/-! ### The places of a field -/

theorem Field.WrittenAs.hasMark_start {f : Field} {front rest : List TokenTree} (h : f.WrittenAs front rest)
    (hreaches : Reaches tokens (front ++ rest)) : HasMark tokens f.start := by
  cases hall : front ++ rest with
  | nil => exact absurd (List.append_eq_nil_iff.mp hall).2 h.rest_ne_nil
  | cons first more =>
      rw [h.start first (by rw [hall]; rfl)]
      exact hreaches.hasMark (by rw [hall]; exact List.mem_cons_self)

theorem Field.WrittenAs.hasMark_name {f : Field} {front rest : List TokenTree} (h : f.WrittenAs front rest)
    (hreaches : Reaches tokens (front ++ rest)) {named : String × Mark} (hname : f.name = some named) :
    HasMark tokens named.2 :=
  hreaches.hasMark (List.mem_append_right front (h.name named.1 named.2 hname))

namespace Parser

variable {α β : Type} {e : Enclosure} {r r' : Reading}

/-! ### What has been read -/

theorem exists_of_bind_ok {p : Parser α} {f : α → Parser β} {b : β}
    (h : (p >>= f) e r = .ok (b, r')) :
    ∃ a r₁, p e r = .ok (a, r₁) ∧ f a e r₁ = .ok (b, r') := by
  cases hp : p e r with
  | error fault =>
      change (p e r >>= fun found => f found.1 e found.2) = _ at h
      rw [hp] at h
      cases h
  | ok found =>
      change (p e r >>= fun found => f found.1 e found.2) = _ at h
      rw [hp] at h
      exact ⟨found.1, found.2, rfl, h⟩

theorem fail_ne_ok (c : Complaint) (found : α × Reading) : fail c e r ≠ .ok found := by
  intro h
  rcases r with ⟨_ | ⟨t, rest⟩, leftover, afterBrace⟩ <;> cases h

theorem failExpecting_ne_ok (es : List Expected) (found : α × Reading) :
    failExpecting es e r ≠ .ok found := by
  intro h
  obtain ⟨ts, r₁, hcursor, hrun⟩ := exists_of_bind_ok h
  cases hcursor
  extract_lets missing at hrun
  clear_value missing
  cases missing with
  | nil => rcases r with ⟨_ | ⟨t, rest⟩, leftover, afterBrace⟩ <;> cases hrun
  | cons first more => exact fail_ne_ok _ _ hrun

theorem group_ok {d : Delimiter} {content : Parser α} {a : α} (h : group d content e r = .ok (a, r')) :
    ∃ inner start stop, r.rest = .group d inner start stop :: r'.rest := by
  unfold group at h
  split at h
  · next d' inner start stop rest hrest =>
    split at h
    · next heq =>
      subst heq
      split at h
      · cases h
      · cases h
        exact ⟨inner, start, stop, hrest⟩
    · exact absurd h (fail_ne_ok _ _)
  · exact absurd h (fail_ne_ok _ _)

theorem punct_ok {text : String} {u : Unit} (h : punct text e r = .ok (u, r')) :
    r.rest.afterChars text.toList = some r'.rest := by
  obtain ⟨ts, r₁, hcursor, hrun⟩ := exists_of_bind_ok h
  cases hcursor
  cases hafter : r.rest.afterChars text.toList with
  | some rest =>
      rw [hafter] at hrun
      cases hrun
      rfl
  | none =>
      rw [hafter] at hrun
      rcases r with ⟨_ | ⟨t, rest⟩, leftover, afterBrace⟩ <;> cases hrun

theorem afterChars_singleton {c : Char} {ts rest : Cursor} (h : ts.afterChars [c] = some rest) :
    ∃ joint m, ts = .punct c joint m :: rest := by
  unfold Cursor.afterChars at h
  split at h <;> simp_all

theorem ident_ok {found : String × Mark} (h : ident e r = .ok (found, r')) :
    r.rest = .ident found.1 found.2 :: r'.rest := by
  rcases r with ⟨_ | ⟨t, rest⟩, leftover, afterBrace⟩
  · cases h
  · cases t with
    | ident text m =>
        change (if reservedWords.contains text then _ else _ : Parser (String × Mark)) e _ = _ at h
        split at h
        · exact absurd h (fail_ne_ok _ _)
        · cases h
          rfl
    | punct | literal | group => cases h

theorem anyIdent_ok {found : String × Mark} (h : anyIdent e r = .ok (found, r')) :
    r.rest = .ident found.1 found.2 :: r'.rest := by
  rcases r with ⟨_ | ⟨t, rest⟩, leftover, afterBrace⟩
  · cases h
  · cases t with
    | ident text m => cases h; rfl
    | punct | literal | group => cases h

theorem word_ok {text : String} {u : Unit} (h : word text e r = .ok (u, r')) :
    ∃ found m, r.rest = .ident found m :: r'.rest := by
  rcases r with ⟨_ | ⟨t, rest⟩, leftover, afterBrace⟩
  · cases h
  · cases t with
    | ident found m =>
        change (if found == text then _ else _ : Parser Unit) e _ = _ at h
        split at h
        · cases h
          exact ⟨found, m, rfl⟩
        · exact absurd h (fail_ne_ok _ _)
    | punct | literal | group => cases h

theorem ahead_ok {p : Parser α} {a : α} (h : ahead p e r = .ok (a, r')) : r' = r := by
  unfold ahead at h
  split at h <;> cases h
  rfl

/-- Constructs that are read as long as a condition holds stand one behind the other. -/
theorem whileTrue_ok {condition : Cursor → Bool} {item : Parser α} (Written : α → List TokenTree → Prop)
    (hitem : ∀ r a r', item e r = .ok (a, r') → ∃ front, r.rest = front ++ r'.rest ∧ Written a front)
    {as : List α} (h : whileTrue condition item e r = .ok (as, r')) :
    ∃ fronts, r.rest = fronts.flatten ++ r'.rest ∧ List.Forall₂ Written as fronts := by
  suffices hloop : ∀ count done r, loop (fun done => do
      if condition (← cursor) then return .inl ((← item) :: done) else return .inr done.reverse)
      count done e r = .ok (as, r') →
      ∃ more fronts, as = done.reverse ++ more ∧ r.rest = fronts.flatten ++ r'.rest ∧
        List.Forall₂ Written more fronts by
    obtain ⟨more, fronts, rfl, hrest, hmore⟩ := hloop _ [] r h
    exact ⟨fronts, hrest, hmore⟩
  intro count
  induction count with
  | zero => exact fun done r h => absurd h (fail_ne_ok _ _)
  | succ count ih =>
      intro done r h
      obtain ⟨found, r₁, hstep, hmore⟩ := exists_of_bind_ok h
      change (if condition r.rest then _ else _ : Parser (List α ⊕ List α)) e r = _ at hstep
      split at hstep
      · obtain ⟨a, r₂, ha, heq⟩ := exists_of_bind_ok hstep
        cases heq
        obtain ⟨front, hfront, hwritten⟩ := hitem _ _ _ ha
        obtain ⟨more, fronts, rfl, hrest, hall⟩ := ih _ _ hmore
        refine ⟨a :: more, front :: fronts, by simp, ?_, hall.cons hwritten⟩
        rw [hfront, hrest, List.flatten_cons, List.append_assoc]
      · cases hstep
        cases hmore
        exact ⟨[], [], by simp, rfl, .nil⟩

end Parser

namespace Grammar

variable {g : Grammar} {e : Enclosure} {r r' : Reading}

/-- No type is read where nothing is left. -/
theorem typeRule_reads {plus : Bool} {found : Node × Reading} (h : typeRule g plus e r = .ok found) :
    r.rest ≠ [] := by
  rcases r with ⟨_ | ⟨t, rest⟩, leftover, afterBrace⟩
  · have hend : typeRule g plus e ⟨[], leftover, afterBrace⟩ =
        failExpecting (.word "for" :: typeOpenings) e ⟨[], leftover, afterBrace⟩ := rfl
    rw [hend] at h
    exact absurd h (failExpecting_ne_ok _ found)
  · exact List.cons_ne_nil t rest

/-- Outer attributes are read from a hash sign and a list in square brackets each. -/
theorem outerAttributes_ok {as : AttributeList} (h : g.outerAttributes e r = .ok (as, r')) :
    ∃ front, r.rest = front ++ r'.rest ∧ AttributeTokens as.length front := by
  obtain ⟨fronts, hrest, hall⟩ := whileTrue_ok (fun _ front =>
    ∃ joint hash inner start stop, front = [.punct '#' joint hash, .group .bracket inner start stop])
    (fun r a r' ha => by
      obtain ⟨_, r₁, hhash, hgroup⟩ := exists_of_bind_ok ha
      obtain ⟨inner, start, stop, hrest⟩ := group_ok hgroup
      obtain ⟨joint, hash, hrest'⟩ := afterChars_singleton (punct_ok hhash)
      exact ⟨_, by rw [hrest', hrest]; rfl, joint, hash, inner, start, stop, rfl⟩) h
  refine ⟨fronts.flatten, hrest, ?_⟩
  clear h hrest
  induction hall with
  | nil => exact .nil
  | cons hfront _ ih =>
      obtain ⟨joint, hash, inner, start, stop, rfl⟩ := hfront
      exact ih.cons

/-- A visibility is read from the front. -/
theorem visibility_ok {b : Bool} (h : visibility e r = .ok (b, r')) : r'.rest <:+ r.rest := by
  change (if !r.rest.isWord "pub" then _ else _ : Parser Bool) e r = _ at h
  split at h
  · cases h
    exact List.suffix_rfl
  · obtain ⟨_, r₁, hword, hopen⟩ := exists_of_bind_ok h
    obtain ⟨found, m, hrest⟩ := word_ok hword
    refine List.IsSuffix.trans ?_ (hrest ▸ List.suffix_cons _ _)
    change (if r₁.rest.isGroup .parenthesis then _ else _ : Parser Bool) e r₁ = _ at hopen
    split at hopen
    · obtain ⟨restricted, r₂, hahead, hclosed⟩ := exists_of_bind_ok hopen
      obtain rfl := ahead_ok hahead
      cases restricted with
      | false =>
          cases hclosed
          exact List.suffix_rfl
      | true =>
          obtain ⟨_, r₃, hgroup, hdone⟩ := exists_of_bind_ok hclosed
          obtain ⟨inner, start, stop, hrest⟩ := group_ok hgroup
          cases hdone
          exact hrest ▸ List.suffix_cons _ _
    · cases hopen
      exact List.suffix_rfl

/-! ### Fields -/

/-- A field whose place was taken before its attributes, and whose name stands behind them. -/
theorem field_standsIn {r₁ : Reading} {attributes : AttributeList}
    (hattributes : g.outerAttributes e r = .ok (attributes, r₁)) {rest : Cursor} (hrest : rest <:+ r₁.rest)
    (hr : r.StandsIn tokens e) {name : Option (String × Mark)} (hne : rest ≠ [])
    (hname : ∀ text m, name = some (text, m) → .ident text m ∈ rest) :
    Field.StandsIn tokens ⟨attributes.attributes, name,
      (match r.rest with | t :: _ => some t.start | [] => e.close).getD 0⟩ := by
  obtain ⟨front, hfront, htokens⟩ := outerAttributes_ok hattributes
  obtain ⟨read, hread⟩ := hrest
  refine ⟨front, r₁.rest, hfront ▸ hr.rest, ?_, ?_, ?_, ?_⟩
  · simpa [AttributeList.attributes] using htokens
  · rw [← hread]
    simp [hne]
  · intro first hfirst
    rw [← hfront] at hfirst
    cases hcursor : r.rest with
    | nil => rw [hcursor] at hfirst; cases hfirst
    | cons t ts => rw [hcursor] at hfirst; cases hfirst; rfl
  · intro text m heq
    rw [← hread]
    exact List.mem_append_right _ (hname text m heq)

/-- What every field begins with: its attributes and visibility. Behind them, a field with the place taken at the
front stands in the tokens as soon as something is left to read and its name, if any, is part of that. -/
theorem runKeeps_fieldFront (hg : g.Keeps tokens)
    {behind : Option Mark → AttributeList → Parser (Field × List Node)} (hr : r.StandsIn tokens e)
    (hbehind : ∀ start attributes r₁, located tokens attributes → r₁.StandsIn tokens e →
      (∀ name, r₁.rest ≠ [] → (∀ text m, name = some (text, m) → .ident text m ∈ r₁.rest) →
        Field.StandsIn tokens ⟨attributes.attributes, name, start.getD 0⟩) →
      RunKeeps tokens e (behind start attributes e r₁)) :
    RunKeeps tokens e ((do
      let start ← here
      let attributes ← g.outerAttributes
      let _ ← visibility
      behind start attributes) e r) := by
  refine (keeps_iff.mp keeps_here e r hr).bind fun start r₁ hstart _ hr₁ => ?_
  rw [here_run] at hstart
  cases hstart
  refine (keeps_iff.mp (keeps_outerAttributes hg) e r hr).bind
    fun attributes r₂ hattributes hplaced hr₂ => ?_
  refine (keeps_iff.mp keeps_visibility e r₂ hr₂).bind fun _ r₃ hvisibility _ hr₃ => ?_
  exact hbehind _ attributes r₃ hplaced hr₃ fun _ => field_standsIn hattributes (visibility_ok hvisibility) hr

@[spec]
theorem keeps_tupleField (hg : g.Keeps tokens) : (tupleField g).Keeps tokens := by
  refine keeps_iff.mpr fun e r hr => runKeeps_fieldFront hg hr fun start attributes r₁ hplaced hr₁ hfield => ?_
  refine (keeps_iff.mp (hg.type true) e r₁ hr₁).bind fun type r₂ htype hnode hr₂ => ?_
  refine ⟨⟨hfield none (hg.type_reads _ _ _ _ htype) (by simp), ?_⟩, hr₂⟩
  simp [hplaced, hnode]

@[spec]
theorem keeps_namedField (hg : g.Keeps tokens) {fieldList : Parser Unit} (hlist : fieldList.Keeps tokens) :
    (namedField g fieldList).Keeps tokens := by
  refine keeps_iff.mpr fun e r hr => runKeeps_fieldFront hg hr fun start attributes r₁ hplaced hr₁ hfield => ?_
  refine (keeps_iff.mp keeps_cursor e r₁ hr₁).bind fun ts _ hcursor _ _ => ?_
  cases hcursor
  extract_lets unnamed ofName
  have hofName {found : String × Mark} {r₂ : Reading} (hr₂ : r₂.StandsIn tokens e)
      (hname : r₁.rest = .ident found.1 found.2 :: r₂.rest) : RunKeeps tokens e (ofName found e r₂) := by
    obtain ⟨text, m⟩ := found
    refine keeps_iff.mp (keeps_bind (keeps_punct _) fun _ _ =>
      keeps_bind keeps_cursor fun ts _ => ?_) e r₂ hr₂
    extract_lets field
    have hstands : located tokens field := hfield _ (by simp [hname]) (by simp [hname])
    clear_value field
    mvcgen [hlist] with grind
  split
  · exact (keeps_iff.mp keeps_anyIdent e r₁ hr₁).bind
      fun _ _ hfound _ hr₂ => hofName hr₂ (anyIdent_ok hfound)
  · exact (keeps_iff.mp keeps_ident e r₁ hr₁).bind
      fun _ _ hfound _ hr₂ => hofName hr₂ (ident_ok hfound)

end Grammar

end Nullability.Syntax
