import Nullability.Proofs.ParserPlaces

/-!
Places in attributes, paths, generics and types. The rules of the grammar call each other through a `Grammar`;
a rule answers places of the tokens only if the rules that it calls do, which `Grammar.Keeps` says of all of
them. Each rule is gone through step by step, with what its steps are known to keep.
-/

set_option mvcgen.warning false

namespace Nullability.Syntax

open Std.Do TokenTree Nullability.Syntax.Parser

variable {tokens : List TokenTree}

/-- The rules of a grammar answer places of the tokens only, and no type is read where nothing is left. -/
structure Grammar.Keeps (tokens : List TokenTree) (g : Grammar) : Prop where
  type : ∀ plus, (g.type plus).Keeps tokens
  type_reads : ∀ plus e r found, g.type plus e r = .ok found → r.rest ≠ []
  bound : ∀ capture const, (g.bound capture const).Keeps tokens
  expr : ∀ braces, (g.expr braces).Keeps tokens
  unary : ∀ braces, (g.unary braces).Keeps tokens
  operators : ∀ braces least lhs, located tokens lhs → (g.operators braces least lhs).Keeps tokens
  early : g.early.Keeps tokens
  pattern : g.pattern.Keeps tokens
  statements : g.statements.Keeps tokens
  item : g.item.Keeps tokens
  importTree : ∀ root, (g.importTree root).Keeps tokens

namespace Grammar

attribute [spec] Keeps.type Keeps.bound Keeps.expr Keeps.unary Keeps.operators Keeps.early Keeps.pattern
  Keeps.statements Keeps.item Keeps.importTree

attribute [simp, grind unfold] typeNode otherType

/-! ### Answers that the rules share -/

@[simp, grind norm]
theorem located_nodes (as : AttributeList) : located tokens as.nodes = located tokens as := by
  simp only [located, AttributeList.nodes, List.mem_flatMap, forall_exists_index, and_imp, true_and,
    eq_iff_iff]
  exact ⟨fun h a ha n hn => h n a ha hn, fun h n a ha hn => h a ha n hn⟩

/-- A place that is unknown is taken to be the end of the text. -/
@[simp, grind ←]
theorem hasMark_getD {o : Option Mark} (h : located tokens o) : HasMark tokens (o.getD 0) := by
  cases o with
  | none => exact Or.inl rfl
  | some m => exact h m rfl

instance : Located Parenthesized where
  located ts
    | .complete n | .optionalBound n | .single n => located ts n

@[simp, grind norm]
theorem located_complete (n : Node) : located tokens (Parenthesized.complete n) = located tokens n := rfl

@[simp, grind norm]
theorem located_optionalBound (n : Node) :
    located tokens (Parenthesized.optionalBound n) = located tokens n := rfl

@[simp, grind norm]
theorem located_single (n : Node) : located tokens (Parenthesized.single n) = located tokens n := rfl

/-! ### Rules that call no others -/

variable {plus inExpr capturing const first old marked : Bool} {start : Option Mark} {c : Complaint}
  {stop : Cursor → Bool} {shape : PathShape} {parts : List Node} {lifetimes : Option Node}

@[spec]
theorem keeps_plainPath : plainPath.Keeps tokens := by
  mvcgen [plainPath] with grind

@[spec]
theorem keeps_restriction : restriction.Keeps tokens := by
  mvcgen [restriction] with grind

@[spec]
theorem keeps_visibility : visibility.Keeps tokens := by
  mvcgen [visibility] with grind

@[spec]
theorem keeps_lifetimeParameter : lifetimeParameter.Keeps tokens := by
  mvcgen [lifetimeParameter] with grind

@[spec]
theorem keeps_capture : capture.Keeps tokens := by
  mvcgen [capture] with grind

@[spec]
theorem keeps_callingConvention : callingConvention.Keeps tokens := by
  mvcgen [callingConvention] with grind

@[spec]
theorem keeps_requireTrait (hstart : located tokens start) : (requireTrait parts start c).Keeps tokens := by
  mvcgen [requireTrait] with grind

variable {g : Grammar} (hg : g.Keeps tokens)

include hg

/-! ### Attributes and blocks -/

@[spec]
theorem keeps_attributeContent : (attributeContent g).Keeps tokens := by
  mvcgen [attributeContent] with grind

@[spec]
theorem keeps_outerAttributes : (outerAttributes g).Keeps tokens := by
  mvcgen [outerAttributes] with grind

@[spec]
theorem keeps_innerAttributes : (innerAttributes g).Keeps tokens := by
  mvcgen [innerAttributes] with grind

@[spec]
theorem keeps_block : (block g).Keeps tokens := by
  mvcgen [block] with grind

@[spec]
theorem keeps_attributedBlock : (attributedBlock g).Keeps tokens := by
  mvcgen [attributedBlock] with grind

/-! ### Paths -/

@[spec]
theorem keeps_returnType : (returnType g plus).Keeps tokens := by
  mvcgen [returnType] with grind

@[spec]
theorem keeps_parenthesizedArguments : (parenthesizedArguments g).Keeps tokens := by
  mvcgen [parenthesizedArguments] with grind

@[spec]
theorem keeps_constArgument : (constArgument g).Keeps tokens := by
  mvcgen [constArgument] with grind

@[spec]
theorem keeps_bounds : (bounds g stop).Keeps tokens := by
  mvcgen [bounds] with grind

@[spec]
theorem keeps_genericArgument : (genericArgument g).Keeps tokens := by
  mvcgen [genericArgument] with grind

@[spec]
theorem keeps_angledArguments : (angledArguments g).Keeps tokens := by
  mvcgen [angledArguments] with grind

@[spec]
theorem keeps_pathSegment : (pathSegment g inExpr).Keeps tokens := by
  mvcgen [pathSegment] with grind

@[spec]
theorem keeps_path : (path g inExpr).Keeps tokens := by
  mvcgen [path] with grind

@[spec]
theorem keeps_qualifiedPath : (qualifiedPath g inExpr).Keeps tokens := by
  mvcgen [qualifiedPath] with grind

@[spec]
theorem keeps_anyPath : (anyPath g inExpr).Keeps tokens := by
  mvcgen [anyPath] with grind

@[spec]
theorem keeps_withParenthesized (hparts : located tokens parts) :
    (withParenthesized g shape parts).Keeps tokens := by
  mvcgen [withParenthesized] with grind

/-! ### Generics -/

@[spec]
theorem keeps_typeParameter : (typeParameter g).Keeps tokens := by
  mvcgen [typeParameter] with grind

@[spec]
theorem keeps_constParameter : (constParameter g).Keeps tokens := by
  mvcgen [constParameter] with grind

@[spec]
theorem keeps_binder : (binder g).Keeps tokens := by
  mvcgen [binder] with grind

@[spec]
theorem keeps_binder? : (binder? g).Keeps tokens := by
  mvcgen [binder?] with grind

@[spec]
theorem keeps_parameters : (parameters g).Keeps tokens := by
  mvcgen [parameters] with grind

@[spec]
theorem keeps_wherePredicate : (wherePredicate g).Keeps tokens := by
  mvcgen [wherePredicate] with grind

@[spec]
theorem keeps_whereClause : (whereClause g).Keeps tokens := by
  mvcgen [whereClause] with grind

@[spec]
theorem keeps_whereClause? : (whereClause? g).Keeps tokens := by
  mvcgen [whereClause?] with grind

@[spec]
theorem keeps_traitBound : (traitBound g const).Keeps tokens := by
  mvcgen [traitBound] with grind

@[spec]
theorem keeps_boundRule : (boundRule g capturing const).Keeps tokens := by
  mvcgen [boundRule] with grind

@[spec]
theorem keeps_boundList : (boundList g plus capturing const).Keeps tokens := by
  mvcgen [boundList] with grind

/-! ### Types -/

@[spec]
theorem keeps_objectBounds (hstart : located tokens start) :
    (objectBounds g start plus marked).Keeps tokens := by
  mvcgen [objectBounds] with grind

@[spec]
theorem keeps_addedBounds (hparts : located tokens parts) : (addedBounds g parts).Keeps tokens := by
  mvcgen [addedBounds] with grind

@[spec]
theorem keeps_parenthesizedContent : (parenthesizedContent g).Keeps tokens := by
  mvcgen [parenthesizedContent] with grind

@[spec]
theorem keeps_parenthesizedType : (parenthesizedType g plus).Keeps tokens := by
  mvcgen [parenthesizedType] with grind

@[spec]
theorem keeps_pathType (hlifetimes : located tokens lifetimes) :
    (pathType g plus lifetimes).Keeps tokens := by
  mvcgen [pathType] with grind

@[spec]
theorem keeps_functionTypeArgument : (functionTypeArgument g first).Keeps tokens := by
  mvcgen [functionTypeArgument] with grind

@[spec]
theorem keeps_functionType : (functionType g).Keeps tokens := by
  mvcgen [functionType] with grind

@[spec]
theorem keeps_typeRule : (typeRule g plus).Keeps tokens := by
  mvcgen [typeRule] with grind

end Grammar

end Nullability.Syntax
