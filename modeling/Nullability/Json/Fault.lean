import Nullability.Decimal.Shortest
import Nullability.Json.Shape
import Nullability.Source.Position
import Nullability.Text.Quoted

/-!
Why a JSON text or value is refused. A fault in a text is shown with the line and the column where
reading stopped; columns count bytes.
-/

namespace Nullability.Json

/-- What was found in the place of something else. -/
inductive Found
  | null
  | bool (b : Bool)
  | number (n : Number)
  | string (s : String)
  | sequence
  | map

namespace Found

def describe : Found → String
  | null => "null"
  | bool b => "boolean `" ++ toString b ++ "`"
  | number (.natural n) => "integer `" ++ toString n ++ "`"
  | number (.negative n) => "integer `-" ++ toString n ++ "`"
  | number (.float x) => "floating point `" ++ Decimal.showShortest x ++ "`"
  | string s => "string " ++ Text.quoted s
  | sequence => "sequence"
  | map => "map"

def ofValue : Value → Found
  | .null => null
  | .bool b => bool b
  | .number n => number n
  | .string s => string s
  | .array _ => sequence
  | .object _ => map

end Found

/-- The reason why a text or value is refused. -/
inductive Cause
  | endInList | endInObject | endInString | endInValue
  | colon | listSeparator | objectSeparator | word | value | keyNotString
  | trailingComma | trailingCharacters
  | escape | number | numberRange | control | loneSurrogate | openSurrogate
  | wrongType (found : Found) (expected : String)
  | wrongValue (found : Found) (expected : String)
  | wrongLength (length : Nat) (expected : String)
  | unknownName (name : String) (names : List String)
  | missing (name : String)
  | duplicate (name : String)

/-- Names in back quotes, as messages list them. -/
def listNames : List String → String
  | [] => ""
  | [a] => "`" ++ a ++ "`"
  | [a, b] => "`" ++ a ++ "` or `" ++ b ++ "`"
  | names => "one of " ++ String.intercalate ", " (names.map fun a => "`" ++ a ++ "`")

namespace Cause

def message : Cause → String
  | endInList => "EOF while parsing a list"
  | endInObject => "EOF while parsing an object"
  | endInString => "EOF while parsing a string"
  | endInValue => "EOF while parsing a value"
  | colon => "expected `:`"
  | listSeparator => "expected `,` or `]`"
  | objectSeparator => "expected `,` or `\x7d`"
  | word => "expected ident"
  | value => "expected value"
  | keyNotString => "key must be a string"
  | trailingComma => "trailing comma"
  | trailingCharacters => "trailing characters"
  | escape => "invalid escape"
  | number => "invalid number"
  | numberRange => "number out of range"
  | control => "control character (\\u0000-\\u001F) found while parsing a string"
  | loneSurrogate => "lone leading surrogate in hex escape"
  | openSurrogate => "unexpected end of hex escape"
  | wrongType found expected => "invalid type: " ++ found.describe ++ ", expected " ++ expected
  | wrongValue found expected => "invalid value: " ++ found.describe ++ ", expected " ++ expected
  | wrongLength n expected => "invalid length " ++ toString n ++ ", expected " ++ expected
  | unknownName name names => "unknown variant `" ++ name ++ "`, expected " ++ listNames names
  | missing name => "missing field `" ++ name ++ "`"
  | duplicate name => "duplicate field `" ++ name ++ "`"

end Cause

/-- A refused text: the reason and the place. If the next character is to blame, the place shown is
behind its first byte. -/
structure Fault where
  cause : Cause
  place : Mark
  atNext : Bool

/-- The line and the byte column of a place, counted from one and from zero. -/
def Fault.position (f : Fault) (text : List Char) : Nat × Nat :=
  let before := Mark.textBefore text f.place
  let line := 1 + before.count '\n'
  let column := (String.ofList (before.reverse.takeWhile (· != '\n'))).utf8ByteSize
  if f.atNext then
    match text.drop before.length with
    | '\n' :: _ => (line + 1, 0)
    | _ :: _ => (line, column + 1)
    | [] => (line, column)
  else (line, column)

def Fault.message (f : Fault) (text : List Char) : String :=
  let (line, column) := f.position text
  f.cause.message ++ " at line " ++ toString line ++ " column " ++ toString column

end Nullability.Json
