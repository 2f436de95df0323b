import Mathlib
import Nullability.Proofs.TokenPlaces
import Nullability.Syntax.File

/-!
Places in what is read. A parser that is given the tokens of a text answers places of the text only: those in
its answer or in the fault that it finds are marks of the tokens, and what it leaves to read is the end of the
text or of a group in it. `Keeps` says so of a parser as a triple over the reading; the parsers for single
tokens, groups and lists have it here, so that a rule of the grammar has it by going through its steps.
-/

set_option mvcgen.warning false

namespace Nullability.Syntax

open Std.Do TokenTree

/-- Answers of which it can be said that all places in them are places of given tokens. -/
class Located (α : Type) where
  located : List TokenTree → α → Prop

export Located (located)

/-- Answers that hold no place. -/
class Placeless (α : Type) : Prop

instance : Placeless Unit := ⟨⟩
instance : Placeless Bool := ⟨⟩
instance : Placeless String := ⟨⟩
instance : Placeless Delimiter := ⟨⟩
instance : Placeless Attribute := ⟨⟩
instance : Placeless PathNames := ⟨⟩
instance : Placeless PathShape := ⟨⟩
instance : Placeless ArgumentStyle := ⟨⟩
instance : Placeless Grammar.RangeDots := ⟨⟩
instance : Placeless Grammar.MacroStart := ⟨⟩

variable {tokens : List TokenTree}

namespace Located

variable {α β : Type}

instance [Placeless α] : Located α := ⟨fun _ _ => True⟩

instance : Located Mark := ⟨HasMark⟩

instance : Located Cursor := ⟨Reaches⟩

instance [Located α] : Located (Option α) := ⟨fun ts o => ∀ a, o = some a → located ts a⟩

instance [Located α] : Located (List α) := ⟨fun ts as => ∀ a ∈ as, located ts a⟩

instance [Located α] [Located β] : Located (α × β) := ⟨fun ts p => located ts p.1 ∧ located ts p.2⟩

instance [Located α] [Located β] : Located (α ⊕ β) := ⟨fun ts => Sum.elim (located ts) (located ts)⟩

instance : Located Fault := ⟨fun ts f => located ts f.place⟩

variable [Located α] [Located β]

@[simp, grind norm]
theorem located_placeless {γ : Type} [Placeless γ] (c : γ) : located tokens c = True := rfl

@[simp, grind norm]
theorem located_mark (m : Mark) : located tokens m = HasMark tokens m := rfl

@[simp, grind norm]
theorem located_cursor (ts : Cursor) : located tokens ts = Reaches tokens ts := rfl

@[simp, grind norm]
theorem located_fault (f : Fault) : located tokens f = located tokens f.place := rfl

@[simp, grind norm]
theorem located_none : located tokens (none : Option α) = True := by
  simp [located]

@[simp, grind norm]
theorem located_some (a : α) : located tokens (some a) = located tokens a := by
  simp [located]

@[simp, grind norm]
theorem located_pair (p : α × β) : located tokens p = (located tokens p.1 ∧ located tokens p.2) := rfl

@[simp, grind norm]
theorem located_inl (a : α) : located tokens (Sum.inl a : α ⊕ β) = located tokens a := rfl

@[simp, grind norm]
theorem located_inr (b : β) : located tokens (Sum.inr b : α ⊕ β) = located tokens b := rfl

@[simp, grind norm]
theorem located_nil : located tokens ([] : List α) = True := by
  simp [located]

@[simp, grind norm]
theorem located_cons (a : α) (as : List α) :
    located tokens (a :: as) = (located tokens a ∧ located tokens as) := by
  simp [located]

@[simp, grind norm]
theorem located_append (as bs : List α) :
    located tokens (as ++ bs) = (located tokens as ∧ located tokens bs) := by
  simp [located, or_imp, forall_and]

@[simp, grind norm]
theorem located_reverse (as : List α) : located tokens as.reverse = located tokens as := by
  simp [located]

@[simp, grind norm]
theorem located_flatten (as : List (List α)) : located tokens as.flatten = located tokens as := by
  simp only [located, List.mem_flatten, forall_exists_index, and_imp, eq_iff_iff]
  exact ⟨fun h l hl a ha => h a l hl ha, fun h a l hl ha => h l hl a ha⟩

@[simp, grind norm]
theorem located_toList (o : Option α) : located tokens o.toList = located tokens o := by
  cases o <;> simp [located]

@[simp, grind ←]
theorem located_getD {o : Option α} {a : α} (ho : located tokens o) (ha : located tokens a) :
    located tokens (o.getD a) := by
  cases o with
  | none => exact ha
  | some b => exact ho b rfl

@[simp, grind norm]
theorem located_ite (c : Prop) [Decidable c] (a b : α) :
    located tokens (if c then a else b) = ((c → located tokens a) ∧ (¬c → located tokens b)) := by
  split <;> simp [*]

@[simp, grind norm]
theorem located_flatMap_nil {γ : Type} (f : γ → List α) :
    located tokens (([] : List γ).flatMap f) = True := by
  rw [List.flatMap_nil, located_nil]

@[simp, grind norm]
theorem located_flatMap_cons {γ : Type} (p : γ × List α) (ps : List (γ × List α)) :
    located tokens ((p :: ps).flatMap Prod.snd) =
      (located tokens p.2 ∧ located tokens (ps.flatMap Prod.snd)) := by
  rw [List.flatMap_cons, located_append]

@[simp, grind →]
theorem located_fsts {ps : List (α × β)} (h : located tokens ps) : located tokens (ps.map Prod.fst) := by
  intro a ha
  obtain ⟨p, hp, rfl⟩ := List.mem_map.mp ha
  exact (h p hp).1

@[simp, grind →]
theorem located_snds {ps : List (α × List β)} (h : located tokens ps) :
    located tokens (ps.flatMap Prod.snd) := by
  intro b hb
  obtain ⟨p, hp, hmem⟩ := List.mem_flatMap.mp hb
  exact (h p hp).2 b hmem

end Located

open Located

/-! ### Constructs -/

/-- Attributes as they are written: a hash sign and a list in square brackets for each. -/
inductive AttributeTokens : Nat → List TokenTree → Prop
  | nil : AttributeTokens 0 []
  | cons {count : Nat} {joint : Bool} {hash start stop : Mark} {content rest : List TokenTree}
      (h : AttributeTokens count rest) :
      AttributeTokens (count + 1) (.punct '#' joint hash :: .group .bracket content start stop :: rest)

theorem AttributeTokens.eq_nil {front : List TokenTree} (h : AttributeTokens 0 front) : front = [] := by
  cases h
  rfl

/-- A field as it is written: its attributes and the rest of it, with whatever follows the field. The name is
one of the tokens behind the attributes. -/
structure Field.WrittenAs (f : Field) (front rest : List TokenTree) : Prop where
  attributes : AttributeTokens f.attributes.length front
  rest_ne_nil : rest ≠ []
  start : ∀ first ∈ (front ++ rest).head?, f.start = first.start
  name : ∀ name m, f.name = some (name, m) → .ident name m ∈ rest

def Field.StandsIn (tokens : List TokenTree) (f : Field) : Prop :=
  ∃ front rest, Reaches tokens (front ++ rest) ∧ f.WrittenAs front rest

structure StructItem.StandsIn (tokens : List TokenTree) (item : StructItem) : Prop where
  start : HasMark tokens item.start
  fields : ∀ f ∈ item.fields, f.StandsIn tokens

/-- The places that are known of a construct are places of the tokens. -/
def Form.StandsIn (tokens : List TokenTree) : Form → Prop
  | .struct item => item.StandsIn tokens
  | .bound (.lifetime start) => HasMark tokens start
  | .bound (.capture stop) => HasMark tokens stop
  | .pattern (.openRange dots) => HasMark tokens dots
  | .bound .trait | .bound .unread | .pattern .rest | .pattern .other => True
  | .path _ | .type _ | .expr _ | .part => True

/-- All places in a syntax tree are places of the tokens. -/
inductive Node.StandsIn (tokens : List TokenTree) : Node → Prop
  | node {form : Form} {parts : List Node} (hform : form.StandsIn tokens)
      (hparts : ∀ n ∈ parts, n.StandsIn tokens) : (node form parts).StandsIn tokens

instance : Located Field := ⟨Field.StandsIn⟩
instance : Located Form := ⟨Form.StandsIn⟩
instance : Located Node := ⟨Node.StandsIn⟩

@[simp, grind norm]
theorem structItem_standsIn_iff (item : StructItem) :
    item.StandsIn tokens ↔ HasMark tokens item.start ∧ located tokens item.fields :=
  ⟨fun h => ⟨h.start, h.fields⟩, fun h => ⟨h.1, h.2⟩⟩

@[simp, grind norm]
theorem located_node (form : Form) (parts : List Node) :
    located tokens (Node.node form parts) = (located tokens form ∧ located tokens parts) :=
  propext ⟨fun ⟨hform, hparts⟩ => ⟨hform, hparts⟩, fun ⟨hform, hparts⟩ => ⟨hform, hparts⟩⟩

@[grind →]
theorem located_of_node {n : Node} (h : located tokens n) :
    located tokens n.form ∧ located tokens n.parts := by
  obtain ⟨form, parts⟩ := n
  rwa [located_node] at h

@[simp, grind norm]
theorem located_form (form : Form) : located tokens form = form.StandsIn tokens := rfl

attribute [simp, grind unfold] Node.part
attribute [simp, grind =] Form.StandsIn

/-- What is still to be read stands at the end of the tokens or of a group in them, and all places that are
remembered are places of the tokens. -/
structure Reading.StandsIn (tokens : List TokenTree) (e : Enclosure) (r : Reading) : Prop where
  close : located tokens e.close
  rest : located tokens r.rest
  leftover : located tokens r.leftover

namespace Parser

variable {α β : Type} [Located α] [Located β]

/-- A parser answers places of the tokens only. -/
abbrev Keeps (tokens : List TokenTree) (p : Parser α) : Prop :=
  ⦃fun e r => ⌜r.StandsIn tokens e⌝⦄ p
  ⦃post⟨fun a e r => ⌜located tokens a ∧ r.StandsIn tokens e⌝, fun f => ⌜located tokens f⌝⟩⦄

/-- What one run of a parser answers has places of the tokens only. -/
def RunKeeps (tokens : List TokenTree) (e : Enclosure) : Except Fault (α × Reading) → Prop
  | .ok (a, r) => located tokens a ∧ r.StandsIn tokens e
  | .error f => located tokens f

theorem keeps_iff {p : Parser α} :
    p.Keeps tokens ↔ ∀ e r, r.StandsIn tokens e → RunKeeps tokens e (p e r) := by
  have hwp (e : Enclosure) (r : Reading) :
      (wp⟦p⟧ (post⟨fun a e r => ⌜located tokens a ∧ r.StandsIn tokens e⌝,
        fun f => ⌜located tokens f⌝⟩) e r).down = RunKeeps tokens e (p e r) := by
    change (wp⟦p e r⟧ _).down = _
    cases p e r <;> rfl
  constructor
  · intro h e r hr
    rw [← hwp]
    exact h e r hr
  · intro h e r hr
    have hrun := h e r hr
    rw [← hwp] at hrun
    exact hrun

@[spec]
theorem keeps_cursor : cursor.Keeps tokens := by
  mvcgen [cursor] with grind [Reading.StandsIn]

@[spec]
theorem keeps_moveTo {rest : Cursor} (h : located tokens rest) : (moveTo rest).Keeps tokens := by
  mvcgen [moveTo] with grind [Reading.StandsIn]

@[spec]
theorem keeps_atEnd : atEnd.Keeps tokens := by
  mvcgen [atEnd]

theorem keeps_bind {p : Parser α} {f : α → Parser β} (hp : p.Keeps tokens)
    (hf : ∀ a, located tokens a → (f a).Keeps tokens) : (p >>= f).Keeps tokens := by
  mvcgen [hp, hf] with grind

/-- One run step by step, where what a step answers is needed for the next. -/
theorem RunKeeps.bind {p : Parser α} {f : α → Parser β} {e : Enclosure} {r : Reading}
    (hp : RunKeeps tokens e (p e r))
    (hf : ∀ a r₁, p e r = .ok (a, r₁) → located tokens a → r₁.StandsIn tokens e →
      RunKeeps tokens e (f a e r₁)) : RunKeeps tokens e ((p >>= f) e r) := by
  change RunKeeps tokens e (p e r >>= fun found => f found.1 e found.2)
  cases hrun : p e r with
  | error fault =>
      rw [hrun] at hp
      exact hp
  | ok found =>
      rw [hrun] at hp
      exact hf _ _ hrun hp.1 hp.2

@[spec]
theorem keeps_seqRight {p : Parser α} {q : Parser β} (hp : p.Keeps tokens) (hq : q.Keeps tokens) :
    (p *> q).Keeps tokens :=
  keeps_bind hp fun _ _ => hq

/-! ### Refusals -/

/-- What begins here begins with a token, or the group ends here. -/
theorem here_run (e : Enclosure) (r : Reading) :
    here e r = .ok (match r.rest with | t :: _ => some t.start | [] => e.close, r) := by
  rcases r with ⟨_ | ⟨t, rest⟩, leftover, afterBrace⟩ <;> rfl

theorem located_here {e : Enclosure} {r : Reading} (h : r.StandsIn tokens e) :
    located tokens (match r.rest with | t :: _ => some t.start | [] => e.close) := by
  obtain ⟨hclose, hrest, -⟩ := h
  cases hcursor : r.rest with
  | nil => exact hclose
  | cons t rest =>
      rw [hcursor] at hrest
      exact located_some t.start ▸ Reaches.hasMark hrest List.mem_cons_self

@[spec]
theorem keeps_here : here.Keeps tokens :=
  keeps_iff.mpr fun e r h => by
    rw [here_run]
    exact ⟨located_here h, h⟩

@[spec]
theorem keeps_failAt {place : Option Mark} (h : located tokens place) (c : Complaint) :
    (failAt place c : Parser α).Keeps tokens :=
  keeps_iff.mpr fun _ _ _ => h

@[spec]
theorem keeps_fail (c : Complaint) : (fail c : Parser α).Keeps tokens :=
  keeps_iff.mpr fun e r h => by
    have hplace := located_here h
    rcases r with ⟨_ | ⟨t, rest⟩, leftover, afterBrace⟩ <;> exact hplace

@[spec]
theorem keeps_failExpecting (es : List Expected) : (failExpecting es : Parser α).Keeps tokens := by
  refine keeps_iff.mpr fun e r h => ?_
  have hplace := located_here h
  refine (keeps_iff.mp keeps_cursor e r h).bind fun ts r₁ hcursor _ _ => ?_
  cases hcursor
  extract_lets missing
  clear_value missing
  cases missing with
  | nil => rcases r with ⟨_ | ⟨t, rest⟩, leftover, afterBrace⟩ <;> exact hplace
  | cons first more => exact keeps_iff.mp (keeps_fail _) e r h

/-! ### Single tokens -/

attribute [grind →] Reaches.tail

@[grind →]
theorem hasMark_ident {text : String} {m : Mark} {rest : Cursor}
    (h : Reaches tokens (.ident text m :: rest)) : HasMark tokens m :=
  h.hasMark List.mem_cons_self

@[grind →]
theorem reaches_of_afterChars {cs : List Char} {ts rest : Cursor} (h : ts.afterChars cs = some rest)
    (hts : located tokens ts) : located tokens rest := by
  fun_induction Cursor.afterChars cs ts <;> grind

@[spec]
theorem keeps_punct (text : String) : (punct text).Keeps tokens := by
  mvcgen [punct] with grind

@[spec]
theorem keeps_punct? (text : String) : (punct? text).Keeps tokens := by
  mvcgen [punct?] with grind

@[spec]
theorem keeps_word (text : String) : (word text).Keeps tokens := by
  mvcgen [word] with grind

@[spec]
theorem keeps_word? (text : String) : (word? text).Keeps tokens := by
  mvcgen [word?] with grind

@[spec]
theorem keeps_anyIdent : anyIdent.Keeps tokens := by
  mvcgen [anyIdent] with grind

@[spec]
theorem keeps_ident : ident.Keeps tokens := by
  mvcgen [ident] with grind

@[spec]
theorem keeps_lifetime : lifetime.Keeps tokens := by
  mvcgen [lifetime] with grind

@[spec]
theorem keeps_lifetime? : lifetime?.Keeps tokens := by
  mvcgen [lifetime?] with grind

@[grind →]
theorem reaches_of_literal? {ts : Cursor} {found : Literal.Kind × String × Cursor}
    (h : ts.literal? = some found) (hts : located tokens ts) : located tokens found.2.2 := by
  fun_cases Cursor.literal? ts <;> grind [Cursor.literal?]

@[spec]
theorem keeps_literal : literal.Keeps tokens := by
  mvcgen [literal] with grind

/-! ### Groups -/

@[spec]
theorem keeps_anyGroup : anyGroup.Keeps tokens := by
  mvcgen [anyGroup] with grind [Reading.StandsIn]

@[spec]
theorem keeps_skipRest : skipRest.Keeps tokens :=
  keeps_iff.mpr fun _ _ h => ⟨trivial, h.close, Reaches.nil h.rest, h.leftover⟩

@[spec]
theorem keeps_group (d : Delimiter) {content : Parser α} (h : content.Keeps tokens) :
    (group d content).Keeps tokens := by
  refine keeps_iff.mpr fun e r hr => ?_
  have hfail := keeps_iff.mp (keeps_fail (α := α) (.group d)) e r hr
  obtain ⟨hclose, hrest, hleftover⟩ := hr
  unfold group
  split
  · next d' inner start stop rest hcursor =>
    rw [hcursor] at hrest
    split
    · have hcontent := keeps_iff.mp h ⟨some d, some stop⟩ { r with rest := inner }
        ⟨(located_some stop).mpr hrest.hasMark_stop, Reaches.content hrest, hleftover⟩
      cases hrun : content ⟨some d, some stop⟩ { r with rest := inner } with
      | error f =>
          rw [hrun] at hcontent
          exact hcontent
      | ok found =>
          rw [hrun] at hcontent
          obtain ⟨ha, -, hinner, hbefore⟩ := hcontent
          refine ⟨ha, hclose, hrest.tail, ?_⟩
          change located tokens (found.2.leftover <|> found.2.rest.head?.map fun t => (t.start, some d))
          -- a place remembered before comes first, then the first token that the content left
          cases hmarked : found.2.leftover with
          | some before =>
              rw [hmarked] at hbefore
              exact hbefore
          | none =>
              cases hleft : found.2.rest with
              | nil => exact (located_none (α := Mark × Option Delimiter)).mpr trivial
              | cons t left =>
                  rw [hleft] at hinner
                  exact located_some (t.start, some d) ▸
                    ⟨Reaches.hasMark hinner List.mem_cons_self, fun _ _ => trivial⟩
    · exact hfail
  · exact hfail

@[spec]
theorem keeps_attempt {p : Parser α} (h : p.Keeps tokens) : (attempt p).Keeps tokens := by
  refine keeps_iff.mpr fun e r hr => ?_
  have hrun := keeps_iff.mp h e r hr
  unfold attempt
  cases hp : p e r with
  | error f => exact ⟨located_none.mpr trivial, hr⟩
  | ok found =>
      rw [hp] at hrun
      exact ⟨(located_some found.1).mpr hrun.1, hrun.2⟩

@[spec]
theorem keeps_ahead {p : Parser α} (h : p.Keeps tokens) : (ahead p).Keeps tokens := by
  refine keeps_iff.mpr fun e r hr => ?_
  have hrun := keeps_iff.mp h e r hr
  unfold ahead
  cases hp : p e r with
  | error f =>
      rw [hp] at hrun
      exact hrun
  | ok found =>
      rw [hp] at hrun
      exact ⟨hrun.1, hr⟩

/-! ### Repetitions -/

theorem keeps_loop {σ : Type} [Located σ] {step : σ → Parser (σ ⊕ β)}
    (h : ∀ s, located tokens s → (step s).Keeps tokens) (count : Nat) (s : σ) (hs : located tokens s) :
    (loop step count s).Keeps tokens := by
  induction count generalizing s with
  | zero => exact keeps_fail _
  | succ count ih =>
      unfold loop
      mvcgen [h, ih] with grind

@[spec]
theorem keeps_iterate {σ : Type} [Located σ] {start : σ} {step : σ → Parser (σ ⊕ β)}
    (hstart : located tokens start) (h : ∀ s, located tokens s → (step s).Keeps tokens) :
    (iterate start step).Keeps tokens := by
  have hloop := keeps_loop h
  mvcgen [iterate, hloop] with grind

@[spec]
theorem keeps_whileTrue {condition : Cursor → Bool} {item : Parser α} (h : item.Keeps tokens) :
    (whileTrue condition item).Keeps tokens := by
  mvcgen [whileTrue, h] with grind

@[spec]
theorem keeps_untilEnd {item : Parser α} (h : item.Keeps tokens) : (untilEnd item).Keeps tokens :=
  keeps_whileTrue h

@[spec]
theorem keeps_separated {separator : String} {stop : Cursor → Bool} {item : Parser α}
    (h : item.Keeps tokens) : (separated separator stop item).Keeps tokens := by
  mvcgen [separated, h] with grind

@[spec]
theorem keeps_commaList {item : Parser α} (h : item.Keeps tokens) : (commaList item).Keeps tokens :=
  keeps_separated h

@[spec]
theorem keeps_joined {separator : String} {stop : Cursor → Bool} {item : Parser α}
    (h : item.Keeps tokens) : (joined separator stop item).Keeps tokens := by
  mvcgen [joined, h] with grind

@[spec]
theorem keeps_whenNext {condition : Cursor → Bool} {p : Parser α} (h : p.Keeps tokens) :
    (whenNext condition p).Keeps tokens := by
  mvcgen [whenNext, h] with grind

@[spec]
theorem keeps_forM {γ : Type} {p : γ → Parser Unit} (h : ∀ c, (p c).Keeps tokens) (cs : List γ) :
    (cs.forM p).Keeps tokens := by
  induction cs with
  | nil => exact keeps_iff.mpr fun _ _ hr => ⟨trivial, hr⟩
  | cons c cs ih => exact keeps_bind (h c) fun _ _ => ih

end Parser

end Nullability.Syntax
