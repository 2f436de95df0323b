import Nullability.Proofs.FieldPlaces
import Nullability.Proofs.StructPlaces

/-!
Places in items and files. Each rule for items is gone through step by step, as those for types and expressions
were, and every grammar that `Grammar.ofDepth` builds has rules that answer places of the tokens only. So has
the tree of a file: `located_of_parse` says it of the tree, `place_le_of_parse` of the fault that is found
instead.
-/

set_option mvcgen.warning false

namespace Nullability.Syntax

open Std.Do TokenTree Nullability.Syntax.Parser

variable {tokens : List TokenTree}

namespace Grammar

attribute [simp, grind unfold] unread

/-! ### Answers that the rules share -/

instance : Located Argument where
  located ts
    | .receiver start parts => located ts start ∧ located ts parts
    | .typed parts | .variadic parts => located ts parts

@[simp, grind norm]
theorem located_receiver (start : Option Mark) (parts : List Node) :
    located tokens (Argument.receiver start parts) = (located tokens start ∧ located tokens parts) := rfl

@[simp, grind norm]
theorem located_typed (parts : List Node) : located tokens (Argument.typed parts) = located tokens parts := rfl

@[simp, grind norm]
theorem located_variadic (parts : List Node) :
    located tokens (Argument.variadic parts) = located tokens parts := rfl

instance : Located Alias := ⟨fun ts found => located ts found.parts⟩

@[simp, grind norm]
theorem located_alias (found : Alias) : located tokens found = located tokens found.parts := rfl

/-! ### Rules that call no others -/

variable {safe root : Bool} {place : ConditionPlace} {parts : List Node} {attributes : AttributeList}

@[spec]
theorem keeps_macroItem : macroItem.Keeps tokens := by
  mvcgen [macroItem] with grind

@[spec]
theorem keeps_nestedMacroItem : nestedMacroItem.Keeps tokens := by
  mvcgen [nestedMacroItem] with grind

@[spec]
theorem keeps_externItem : externItem.Keeps tokens := by
  mvcgen [externItem] with grind

@[spec]
theorem keeps_macroDefinition : macroDefinition.Keeps tokens := by
  mvcgen [macroDefinition] with grind

variable {g : Grammar} (hg : g.Keeps tokens)

include hg

/-! ### Functions -/

@[spec]
theorem keeps_receiver : (receiver g).Keeps tokens := by
  mvcgen [receiver] with grind

@[spec]
theorem keeps_argument : (argument g).Keeps tokens := by
  mvcgen [argument] with grind

@[spec]
theorem keeps_arguments : (arguments g).Keeps tokens := by
  mvcgen [arguments] with grind

@[spec]
theorem keeps_signature : (signature g safe).Keeps tokens := by
  mvcgen [signature] with grind

@[spec]
theorem keeps_body (hparts : located tokens parts) : (body g parts).Keeps tokens := by
  mvcgen [body] with grind

/-! ### Structs, enumerations and unions -/

/-- A field list nested in a field is itself one of a smaller depth. -/
@[spec]
theorem keeps_fieldsAt (depth : Nat) : (namedFields.fieldsAt g depth).Keeps tokens := by
  induction depth with
  | zero => exact keeps_fail _
  | succ depth ih =>
      refine keeps_group _ (keeps_commaList (keeps_namedField hg ?_))
      mvcgen [ih]

@[spec]
theorem keeps_namedFields : (namedFields g).Keeps tokens := by
  mvcgen [namedFields] with grind

@[spec]
theorem keeps_tupleFields : (tupleFields g).Keeps tokens := by
  exact keeps_group _ (keeps_commaList (keeps_tupleField hg))

@[spec]
theorem keeps_structBody : (structBody g).Keeps tokens := by
  mvcgen [structBody] with grind

@[spec]
theorem keeps_structItem (hattributes : located tokens attributes) :
    (structItem g attributes).Keeps tokens := by
  mvcgen [structItem] with grind

@[spec]
theorem keeps_variant : (variant g).Keeps tokens := by
  mvcgen [variant] with grind

@[spec]
theorem keeps_enumItem : (enumItem g).Keeps tokens := by
  mvcgen [enumItem] with grind

@[spec]
theorem keeps_unionItem : (unionItem g).Keeps tokens := by
  mvcgen [unionItem] with grind

/-! ### Aliases, constants and foreign blocks -/

@[spec]
theorem keeps_aliasItem : (aliasItem g place).Keeps tokens := by
  mvcgen [aliasItem] with grind

@[spec]
theorem keeps_constTail : (constTail g).Keeps tokens := by
  mvcgen [constTail] with grind

@[spec]
theorem keeps_staticItem (hattributes : located tokens attributes) :
    (staticItem g attributes).Keeps tokens := by
  mvcgen [staticItem] with grind

@[spec]
theorem keeps_foreignItem : (foreignItem g).Keeps tokens := by
  mvcgen [foreignItem] with grind

@[spec]
theorem keeps_foreignBlock : (foreignBlock g).Keeps tokens := by
  mvcgen [foreignBlock] with grind

/-! ### Traits and implementations -/

@[spec]
theorem keeps_traitItem : (traitItem g).Keeps tokens := by
  mvcgen [traitItem] with grind

@[spec]
theorem keeps_traitTail (hparts : located tokens parts) : (traitTail g parts).Keeps tokens := by
  mvcgen [traitTail] with grind

@[spec]
theorem keeps_traitItemRest : (traitItemRest g).Keeps tokens := by
  mvcgen [traitItemRest] with grind

@[spec]
theorem keeps_traitOrAlias : (traitOrAlias g).Keeps tokens := by
  mvcgen [traitOrAlias] with grind

@[spec]
theorem keeps_implItem : (implItem g).Keeps tokens := by
  mvcgen [implItem] with grind

/-- The rule has many ways through it; each of the four places at which they meet again is taken by itself, from
the last one on. -/
@[spec]
theorem keeps_implementation (hattributes : located tokens attributes) :
    (implementation g attributes).Keeps tokens := by
  unfold implementation
  refine keeps_bind keeps_visibility fun visible _ => keeps_bind (keeps_word? _) fun _ _ =>
    keeps_bind (keeps_word? _) fun _ _ => keeps_bind (keeps_word _) fun _ _ =>
    keeps_bind keeps_cursor fun ts _ => ?_
  extract_lets ofParameters
  have hparameters (parameters : List Node) (hp : located tokens parameters) :
      (ofParameters parameters).Keeps tokens := by
    refine keeps_bind keeps_cursor fun ts _ => ?_
    extract_lets constant afterConst
    have hconst (u : Unit) : (afterConst u).Keeps tokens := by
      refine keeps_bind keeps_cursor fun ts _ => keeps_bind keeps_here fun place hplace => ?_
      extract_lets negative afterSign
      have hsign (u : Unit) : (afterSign u).Keeps tokens := by
        refine keeps_bind (hg.type true) fun first _ => keeps_bind (keeps_word? _) fun forTrait _ => ?_
        mvcgen with grind
      clear_value afterSign
      mvcgen [hsign] with grind
    clear_value afterConst
    mvcgen [hconst] with grind
  clear_value ofParameters
  mvcgen [hparameters] with grind

/-! ### Imports, modules and all items -/

@[spec]
theorem keeps_importTreeRule : (importTreeRule g root).Keeps tokens := by
  mvcgen [importTreeRule] with grind

@[spec]
theorem keeps_importItem : (importItem g).Keeps tokens := by
  mvcgen [importItem] with grind

@[spec]
theorem keeps_moduleItem : (moduleItem g).Keeps tokens := by
  mvcgen [moduleItem] with grind

@[spec]
theorem keeps_itemRest (hattributes : located tokens attributes) :
    (itemRest g attributes).Keeps tokens := by
  mvcgen [itemRest] with grind

@[spec]
theorem keeps_itemRule : (itemRule g).Keeps tokens := by
  mvcgen [itemRule] with grind

@[spec]
theorem keeps_fileRule : (fileRule g).Keeps tokens := by
  mvcgen [fileRule] with grind

omit hg

/-! ### Grammars -/

theorem keeps_exhausted : exhausted.Keeps tokens where
  type _ := keeps_fail _
  type_reads _ _ _ _ h := absurd h (fail_ne_ok _ _)
  bound _ _ := keeps_fail _
  expr _ := keeps_fail _
  unary _ := keeps_fail _
  operators _ _ _ _ := keeps_fail _
  early := keeps_fail _
  pattern := keeps_fail _
  statements := keeps_fail _
  item := keeps_fail _
  importTree _ := keeps_fail _

/-- The rules of every grammar keep to the places of the tokens, by induction on the depth of their calls. -/
theorem keeps_ofDepth (depth : Nat) : (ofDepth depth).Keeps tokens := by
  induction depth with
  | zero => exact keeps_exhausted
  | succ depth ih =>
      exact ⟨fun _ => keeps_typeRule ih, fun _ _ _ _ h => typeRule_reads h, fun _ _ => keeps_boundRule ih,
        fun _ => keeps_exprRule ih, fun _ => keeps_unaryRule ih,
        fun _ _ _ h => keeps_operatorsRule ih h, keeps_earlyRule ih, keeps_patternRule ih,
        keeps_statementsRule ih fun _ h => keeps_itemRest ih h, keeps_itemRule ih,
        fun _ => keeps_importTreeRule ih⟩

end Grammar

/-! ### Struct items -/

/-- A struct item stands in the tokens if a tree does in which it stands. -/
theorem Node.StandsAt.standsIn {item : StructItem} {n : Node} {p : Place} (h : n.StandsAt item p)
    (hn : located tokens n) : item.StandsIn tokens := by
  induction h with
  | root parts =>
      cases hn with
      | node hform _ => exact hform
  | part hpart _ ih =>
      cases hn with
      | node _ hparts => exact ih (hparts _ (List.mem_of_getElem? hpart))

/-! ### Files -/

/-- The reading of a whole file starts with all of its tokens and outside all groups. -/
theorem standsIn_start : (⟨tokens, none, false⟩ : Reading).StandsIn tokens ⟨none, none⟩ :=
  ⟨by simp, .all, by simp⟩

theorem fileRule_runKeeps (tokens : List TokenTree) :
    RunKeeps tokens ⟨none, none⟩
      (fileRule (Grammar.ofDepth (Grammar.depthFor tokens)) ⟨none, none⟩ ⟨tokens, none, false⟩) :=
  keeps_iff.mp (Grammar.keeps_fileRule (Grammar.keeps_ofDepth _)) _ _ standsIn_start

/-- What is answered of a whole file has places of its tokens only. -/
theorem located_ofTokens (tokens : List TokenTree) :
    (∀ tree, ofTokens tokens = .ok tree → located tokens tree) ∧
      ∀ fault, ofTokens tokens = .error fault → located tokens fault.place := by
  have hrun := fileRule_runKeeps tokens
  unfold ofTokens
  extract_lets g
  cases hfile : fileRule g ⟨none, none⟩ ⟨tokens, none, false⟩ with
  | error fault =>
      rw [hfile] at hrun
      exact ⟨fun _ h => (nomatch h), fun _ h => by cases h; exact hrun⟩
  | ok found =>
      rw [hfile] at hrun
      obtain ⟨tree, ⟨rest, leftover, afterBrace⟩⟩ := found
      obtain ⟨htree, -, -, hleftover⟩ := hrun
      cases leftover with
      | none => exact ⟨fun _ h => by cases h; exact htree, fun _ h => (nomatch h)⟩
      | some left =>
          have hplace := (hleftover left rfl).1
          exact ⟨fun _ h => (nomatch h), fun _ h => by cases h; exact (Located.located_some left.1).mpr hplace⟩

/-- All places in the tree of a file are places of its tokens, which stand one behind the other in the text. -/
theorem located_of_parse {content : List Char} {tree : Node} (h : parse content = .ok tree) :
    ∃ tokens, TokenTree.ofText content = .ok tokens ∧ Descend content.length (marksAll tokens) ∧
      located tokens tree := by
  have houtcome := ofText_outcome content
  unfold parse at h
  split at h
  · cases h
  · next tokens htokens =>
    rw [htokens] at houtcome
    exact ⟨tokens, htokens, houtcome, (located_ofTokens tokens).1 tree h⟩

/-- A fault of a file that has a place has one within the text. -/
theorem place_le_of_parse {content : List Char} {fault : Fault} (h : parse content = .error fault)
    {m : Mark} (hm : fault.place = some m) : m ≤ content.length := by
  have houtcome := ofText_outcome content
  unfold parse at h
  split at h
  · next place hplace =>
    rw [hplace] at houtcome
    cases h
    cases hm
    exact houtcome
  · next tokens htokens =>
    rw [htokens] at houtcome
    exact HasMark.le ((located_ofTokens tokens).2 fault h m hm) houtcome

end Nullability.Syntax
