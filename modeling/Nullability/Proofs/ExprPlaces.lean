import Nullability.Proofs.TypePlaces

/-!
Places in patterns, expressions and statements. A rule that carries on from a construct already read answers
places of the tokens only if that construct has no others.
-/

set_option mvcgen.warning false

namespace Nullability.Syntax

open Std.Do TokenTree Nullability.Syntax.Parser

namespace Grammar

attribute [simp, grind unfold] otherPattern otherExpr blockExpr withAttributes

variable {tokens : List TokenTree} {braces old : Bool} {p least : Precedence} {text : String}
  {mark : Option Mark} {e start : Node} {parts : List Node} {attributes : AttributeList}
  {condition : Cursor → Bool}

/-! ### Rules that call no others -/

@[spec]
theorem keeps_rangeDots : (rangeDots old).Keeps tokens := by
  mvcgen [rangeDots] with grind

@[spec]
theorem keeps_exprRangeDots : exprRangeDots.Keeps tokens := by
  mvcgen [exprRangeDots]

@[spec]
theorem keeps_checkIndex (hmark : located tokens mark) : (checkIndex text mark).Keeps tokens := by
  mvcgen [checkIndex] with grind

@[spec]
theorem keeps_joinedIndices (hmark : located tokens mark) : (joinedIndices text mark).Keeps tokens := by
  mvcgen [joinedIndices] with grind

@[spec]
theorem keeps_member : member.Keeps tokens := by
  mvcgen [member] with grind

@[spec]
theorem keeps_checkCast : checkCast.Keeps tokens := by
  mvcgen [checkCast] with grind

@[spec]
theorem keeps_macroStart : macroStart.Keeps tokens := by
  mvcgen [macroStart] with grind

variable {g : Grammar} (hg : g.Keeps tokens)

include hg

/-! ### Patterns -/

@[spec]
theorem keeps_alternatives : (alternatives g).Keeps tokens := by
  mvcgen [alternatives] with grind

@[spec]
theorem keeps_rangeBound : (rangeBound g).Keeps tokens := by
  mvcgen [rangeBound] with grind

@[spec]
theorem keeps_rangeFrom (hstart : located tokens start) : (rangeFrom g start).Keeps tokens := by
  mvcgen [rangeFrom] with grind

@[spec]
theorem keeps_rangeTo : (rangeTo g).Keeps tokens := by
  mvcgen [rangeTo] with grind

@[spec]
theorem keeps_literalPattern : (literalPattern g).Keeps tokens := by
  mvcgen [literalPattern] with grind

@[spec]
theorem keeps_fieldPattern : (fieldPattern g).Keeps tokens := by
  mvcgen [fieldPattern] with grind

@[spec]
theorem keeps_structPattern (hparts : located tokens parts) : (structPattern g parts).Keeps tokens := by
  mvcgen [structPattern] with grind

@[spec]
theorem keeps_pathPattern : (pathPattern g).Keeps tokens := by
  mvcgen [pathPattern] with grind

@[spec]
theorem keeps_namePattern : (namePattern g).Keeps tokens := by
  mvcgen [namePattern] with grind

@[spec]
theorem keeps_slicePattern : (slicePattern g).Keeps tokens := by
  mvcgen [slicePattern] with grind

@[spec]
theorem keeps_patternRule : (patternRule g).Keeps tokens := by
  mvcgen [patternRule] with grind

/-! ### Operators -/

@[spec]
theorem keeps_rightSide : (rightSide g braces p).Keeps tokens := by
  mvcgen [rightSide] with grind

@[spec]
theorem keeps_rangeFromDots (hparts : located tokens parts) :
    (rangeFromDots g braces parts).Keeps tokens := by
  mvcgen [rangeFromDots] with grind

@[spec]
theorem keeps_operatorsRule (hstart : located tokens start) :
    (operatorsRule g braces least start).Keeps tokens := by
  mvcgen [operatorsRule] with grind

@[spec]
theorem keeps_exprRule : (exprRule g braces).Keeps tokens := by
  mvcgen [exprRule] with grind

@[spec]
theorem keeps_callArguments : (callArguments g).Keeps tokens := by
  mvcgen [callArguments] with grind

@[spec]
theorem keeps_memberAccess (he : located tokens e) : (memberAccess g e).Keeps tokens := by
  mvcgen [memberAccess] with grind

@[spec]
theorem keeps_trailers (hstart : located tokens start) : (trailers g start).Keeps tokens := by
  mvcgen [trailers] with grind

/-! ### Expressions that end in a block -/

@[spec]
theorem keeps_blockLike (hparts : located tokens parts) : (blockLike g parts).Keeps tokens := by
  mvcgen [blockLike] with grind

@[spec]
theorem keeps_wordBlock : (wordBlock g text).Keeps tokens := by
  mvcgen [wordBlock] with grind

@[spec]
theorem keeps_whileLoop : (whileLoop g).Keeps tokens := by
  mvcgen [whileLoop] with grind

@[spec]
theorem keeps_forLoop : (forLoop g).Keeps tokens := by
  mvcgen [forLoop] with grind

@[spec]
theorem keeps_conditional : (conditional g).Keeps tokens := by
  mvcgen [conditional] with grind

@[spec]
theorem keeps_matchArm : (matchArm g).Keeps tokens := by
  mvcgen [matchArm] with grind

@[spec]
theorem keeps_matchExpr : (matchExpr g).Keeps tokens := by
  mvcgen [matchExpr] with grind

@[spec]
theorem keeps_labeledBlock : (labeledBlock g).Keeps tokens := by
  mvcgen [labeledBlock] with grind

theorem keeps_of_blockStart? {ts : Cursor} {block : Parser Node} (h : blockStart? ts g = some block) :
    block.Keeps tokens := by
  unfold blockStart? at h
  split_ifs at h <;> cases h
  · exact keeps_conditional hg
  · exact keeps_whileLoop hg
  · exact keeps_forLoop hg
  · exact keeps_wordBlock hg
  · exact keeps_matchExpr hg
  · mvcgen with grind
  · exact keeps_wordBlock hg
  · exact keeps_wordBlock hg
  · exact keeps_blockLike hg (by simp)
  · exact keeps_labeledBlock hg

@[spec]
theorem keeps_earlyRule : (earlyRule g).Keeps tokens := by
  refine keeps_bind (keeps_outerAttributes hg) fun attributes _ => keeps_bind keeps_cursor fun ts _ => ?_
  rcases hstart : blockStart? ts g with _ | block
  · mvcgen with grind
  · have hblock := keeps_of_blockStart? hg hstart
    mvcgen [hblock] with grind

/-! ### Expressions -/

@[spec]
theorem keeps_closure : (closure g braces).Keeps tokens := by
  mvcgen [closure] with grind

@[spec]
theorem keeps_structValue (hparts : located tokens parts) : (structValue g parts).Keeps tokens := by
  mvcgen [structValue] with grind

@[spec]
theorem keeps_pathExpr : (pathExpr g braces).Keeps tokens := by
  mvcgen [pathExpr] with grind

@[spec]
theorem keeps_arrayContent : (arrayContent g).Keeps tokens := by
  mvcgen [arrayContent] with grind

@[spec]
theorem keeps_optionalValue : (optionalValue g condition).Keeps tokens := by
  mvcgen [optionalValue] with grind

@[spec]
theorem keeps_breakExpr : (breakExpr g braces).Keeps tokens := by
  mvcgen [breakExpr] with grind

@[spec]
theorem keeps_letExpr : (letExpr g braces).Keeps tokens := by
  mvcgen [letExpr] with grind

@[spec]
theorem keeps_atom : (atom g braces).Keeps tokens := by
  mvcgen [atom] with try grind
  -- what is left is an expression that ends in a block of its own
  exact fun e r _ hr => keeps_of_blockStart? hg ‹_› e r hr

@[spec]
theorem keeps_atomWithTrailers (hattributes : located tokens attributes) :
    (atomWithTrailers g braces attributes).Keeps tokens := by
  mvcgen [atomWithTrailers] with grind

@[spec]
theorem keeps_unaryRule : (unaryRule g braces).Keeps tokens := by
  mvcgen [unaryRule] with grind

/-! ### Statements -/

@[spec]
theorem keeps_localVariable (hattributes : located tokens attributes) :
    (localVariable g attributes).Keeps tokens := by
  mvcgen [localVariable] with grind

variable {itemRest : AttributeList → Parser Node}
  (hitem : ∀ attributes, located tokens attributes → (itemRest attributes).Keeps tokens)

include hitem

@[spec]
theorem keeps_statement : (statement g itemRest).Keeps tokens := by
  mvcgen [statement, hitem] with grind

@[spec]
theorem keeps_statementsRule : (statementsRule g itemRest).Keeps tokens := by
  mvcgen [statementsRule, hitem] with grind

end Grammar

end Nullability.Syntax
