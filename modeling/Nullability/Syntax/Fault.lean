import Nullability.Syntax.Cursor

/-!
Why a source text is refused. `Complaint.message` is the one place that words the reasons.
-/

namespace Nullability.Syntax

/-- A kind of token that could have stood at some place. -/
inductive Expected
  | word (text : String)
  | punct (text : String)
  | identifier
  | lifetime
  | literal
  | textLiteral
  | group (delimiter : Delimiter)
  deriving DecidableEq

namespace Expected

def name : Expected → String
  | word text => "`" ++ text ++ "`"
  | punct text => "`" ++ text ++ "`"
  | identifier => "identifier"
  | lifetime => "lifetime"
  | literal => "literal"
  | textLiteral => "string literal"
  | group d => d.groupName

/-- Whether such a token stands here. -/
def standsAt (ts : Cursor) : Expected → Bool
  | word text => ts.isWord text
  | punct text => ts.isPunct text
  | identifier => ts.isIdent
  | lifetime => ts.isLifetime
  | literal => ts.isLiteral
  | textLiteral => ts.isLiteralOf .text
  | group d => ts.isGroup d

end Expected

/-- What a cast may not be followed by. -/
inductive CastTrailer
  | await | methodCall | fieldAccess | question | indexing | functionCall

def CastTrailer.name : CastTrailer → String
  | await => "`.await`"
  | methodCall => "a method call"
  | fieldAccess => "a field access"
  | question => "`?`"
  | indexing => "indexing"
  | functionCall => "a function call"

/-- The reason why a text is refused. -/
inductive Complaint
  /-- A character or bracket from which no token trees can be built. -/
  | lexical
  | oneOf (expected : List Expected)
  | token (text : String)
  | identifier
  | reserved (word : String)
  | anyIdentifier
  | lifetime
  | literal
  | wholeLiteral
  | unsuffixedWhole
  | tooLarge
  | notADigit
  | group (delimiter : Delimiter)
  | anyGroup
  | pathSegment
  | member
  | newName
  | expression
  | loopOrBlock
  | commaOrSemicolon
  | statementEnd
  | rangeEnd
  | openRangeInSlice
  | secondReceiver
  | lateReceiver
  | negativeInherentImpl
  | whereParameters
  | captureNotAllowed
  | conditionalConst
  | unconditionalConst
  | binderOfOptionalBound
  | objectWithoutTrait
  | bareImplTrait
  | chainedComparison
  | castFollowedBy (trailer : CastTrailer)
  | attributeInAttribute
  | attributeOnRange
  | parenthesesRequired
  | nestedAttribute
  | nestedLiteral
  | nestedToken
  | argumentsMissing (path : String)
  | argumentsAssigned (path : String)
  /-- A group was not read to its end. -/
  | leftover (delimiter : Option Delimiter)

namespace Complaint

def message : Complaint → String
  | lexical => "cannot parse string into token stream"
  | oneOf [] => "unexpected token"
  | oneOf [a] => "expected " ++ a.name
  | oneOf [a, b] => "expected " ++ a.name ++ " or " ++ b.name
  | oneOf es => "expected one of: " ++ String.intercalate ", " (es.map Expected.name)
  | token text => "expected `" ++ text ++ "`"
  | identifier => "expected identifier"
  | reserved word => "expected identifier, found keyword `" ++ word ++ "`"
  | anyIdentifier => "expected ident"
  | lifetime => "expected lifetime"
  | literal => "expected literal"
  | wholeLiteral => "expected integer literal"
  | unsuffixedWhole => "expected unsuffixed integer"
  | tooLarge => "number too large to fit in target type"
  | notADigit => "invalid digit found in string"
  | group d => "expected " ++ d.groupName
  | anyGroup => "expected delimiter"
  | pathSegment => "expected path segment after `::`"
  | member => "expected identifier or integer"
  | newName => "expected identifier or underscore"
  | expression => "expected an expression"
  | loopOrBlock => "expected loop or block expression"
  | commaOrSemicolon => "expected `,` or `;`"
  | statementEnd => "unexpected token, expected `;`"
  | rangeEnd => "expected range upper bound"
  | openRangeInSlice => "range pattern is not allowed unparenthesized inside slice pattern"
  | secondReceiver => "unexpected second method receiver"
  | lateReceiver => "unexpected method receiver"
  | negativeInherentImpl => "inherent impls cannot be negative"
  | whereParameters => "generic parameters on `where` clauses are reserved for future use"
  | captureNotAllowed => "`use<...>` precise capturing syntax is not allowed here"
  | conditionalConst => "`[const]` is not allowed here"
  | unconditionalConst => "`const` is not allowed here"
  | binderOfOptionalBound => "`for<...>` binder not allowed with `?` trait polarity modifier"
  | objectWithoutTrait => "at least one trait is required for an object type"
  | bareImplTrait => "at least one trait must be specified"
  | chainedComparison => "comparison operators cannot be chained"
  | castFollowedBy trailer => "casts cannot be followed by " ++ trailer.name
  | attributeInAttribute => "unexpected attribute inside of attribute"
  | attributeOnRange => "attributes are not allowed on range expressions starting with `..`"
  | parenthesesRequired => "parentheses required"
  | nestedAttribute => "expected nested attribute"
  | nestedLiteral => "unexpected literal in nested attribute, expected ident"
  | nestedToken => "unexpected token in nested attribute, expected ident"
  | argumentsMissing path => "expected attribute arguments in parentheses: #[" ++ path ++ "(...)]"
  | argumentsAssigned path => "expected parentheses: #[" ++ path ++ "(...)]"
  | leftover none => "unexpected token"
  | leftover (some d) => "unexpected token, expected `" ++ d.closing.toString ++ "`"

end Complaint

/-- A refused text: the reason, whether it is that the text or a group ends too early, and the place,
which is unknown where the text itself ends. -/
structure Fault where
  complaint : Complaint
  atEnd : Bool
  place : Option Mark

def Fault.message (f : Fault) : String :=
  match f.atEnd, f.complaint with
  | false, c => c.message
  | true, .oneOf [] => "unexpected end of input"
  | true, c => "unexpected end of input, " ++ c.message

end Nullability.Syntax
