import Nullability.Text.Pieces
import Nullability.Text.Quoted
import Nullability.Toml.Token

/-!
Why a TOML text is refused. A fault is shown with its line, marked below at the place.
-/

namespace Nullability.Toml

/-- A stretch of a text, by the offsets of its characters. -/
structure Span where
  start : Nat
  stop : Nat
  deriving DecidableEq, Repr

def Span.at (offset : Nat) : Span := ⟨offset, offset⟩

/-- What would have been right: a text as it is written, or something that is described. -/
inductive Wanted
  | exactly (text : String)
  | described (text : String)
  deriving DecidableEq, Repr

def Wanted.show : Wanted → String
  | exactly "\n" => "newline"
  | exactly text => "`" ++ text ++ "`"
  | described text => text

/-- Where the parser of an array or inline table stands. -/
inductive Stage
  | key | assignment | element | separator
  deriving DecidableEq, Repr

def Stage.wanted : Stage → List Wanted
  | key => [.described "key"]
  | assignment => [.exactly "="]
  | element => [.described "value"]
  | separator => [.exactly ","]

/-- The parts of a number. -/
inductive NumberPart
  | mantissa | decimals | exponent
  deriving DecidableEq, Repr

def NumberPart.name : NumberPart → String
  | mantissa => "mantissa"
  | decimals => "fraction"
  | exponent => "exponent"

/-- The reason why a text is refused. -/
inductive Cause
  -- the structure of the document
  | commentCharacter
  | bareReturn
  | unclosedTable
  | unclosedArrayTable (closing : String)
  | unopenedTable
  | unopenedArray
  | unopenedInlineTable
  | noAssignment
  | noAssignmentAfterDot
  | secondAssignment
  | noKey
  | trailing
  | tooDeep
  | arrayComma
  | arrayAssignment (stage : Stage)
  | arrayElement (stage : Stage)
  | arraySeparator
  | unclosedArray
  | tableComma (stage : Stage)
  | tableSecondAssignment (stage : Stage)
  | tableNoKey (stage : Stage)
  | tableNoAssignment
  | tableElement (stage : Stage)
  | tableSeparator
  | unclosedInlineTable
  -- keys and scalars
  | emptyKey
  | keyCharacter
  | longKey (q : Quoting)
  | noValue
  | quote (q : Quoting)
  | stringCharacter (q : Quoting)
  | noLineBreakAfterEscape
  | escape
  | codeTooShort
  | code
  | word (number : Bool) (expected : String)
  | twoSigns
  | signedRadix
  | signAfterRadix
  | upperRadix (mark : String)
  | decimalRadix
  | radixDigit (radix : Nat)
  | leadingZero
  | noDigits (part : NumberPart)
  | afterFloat
  | underscore
  | dateTime (what : Option String) (expected : Option String)
  -- keys that meet
  | duplicate
  | extends_ (type : String)
  -- meaning
  | wrongType (found expected : String)
  | wrongLength (length : Nat) (expected : String)
  | unknownName (name : String) (names : List String)
  | missing (name : String)
  | noName
  | oneElement (found : String)
  | emptyContent (type : String)
  | noContent (found : String)
  | wholeOverflow
  | floatOverflow
  deriving DecidableEq, Repr

/-- How messages name a kind of string. -/
def Quoting.stringName : Quoting → String
  | literal => "literal string"
  | longLiteral => "multi-line literal string"
  | basic => "basic string"
  | longBasic => "multi-line basic string"

def Quoting.mark : Quoting → String
  | literal => "'"
  | longLiteral => "'''"
  | basic => "\""
  | longBasic => "\"\"\""

def radixName : Nat → String
  | 16 => "invalid hexadecimal number"
  | 8 => "invalid octal number"
  | 2 => "invalid binary number"
  | _ => "invalid integer number"

/-- Names in back quotes, as messages list them. -/
def listNames : List String → String
  | [] => ""
  | [a] => "`" ++ a ++ "`"
  | [a, b] => "`" ++ a ++ "` or `" ++ b ++ "`"
  | names => "one of " ++ String.intercalate ", " (names.map fun a => "`" ++ a ++ "`")

namespace Cause

/-- What is wrong. -/
def description : Cause → String
  | commentCharacter => "invalid comment character"
  | bareReturn => "carriage return must be followed by newline"
  | unclosedTable => "unclosed table"
  | unclosedArrayTable _ => "unclosed array table"
  | unopenedTable => "missing table open"
  | unopenedArray => "missing array opening"
  | unopenedInlineTable => "missing inline table opening"
  | noAssignment => "key with no value"
  | noAssignmentAfterDot => "missing value for key"
  | secondAssignment => "extra `=`"
  | noKey => "invalid key-value pair"
  | trailing => "unexpected key or value"
  | tooDeep => "cannot recurse further; max recursion depth met"
  | arrayComma => "extra comma in array"
  | arrayAssignment _ => "unexpected `=` in array"
  | arrayElement _ => "invalid array element"
  | arraySeparator => "missing comma between array elements"
  | unclosedArray => "unclosed array"
  | tableComma _ => "extra comma in inline table"
  | tableSecondAssignment _ => "extra assignment between key-value pairs"
  | tableNoKey _ => "missing key for inline table element"
  | tableNoAssignment => "missing assignment between key-value pairs"
  | tableElement _ => "invalid inline table element"
  | tableSeparator => "missing comma between key-value pairs"
  | unclosedInlineTable => "unclosed inline table"
  | emptyKey => "unquoted keys cannot be empty"
  | keyCharacter => "invalid unquoted key"
  | longKey q => "keys cannot be " ++ q.stringName ++ "s"
  | noValue => "string values must be quoted"
  | quote q => "invalid " ++ q.stringName
  | stringCharacter q => "invalid " ++ q.stringName
  | noLineBreakAfterEscape => "invalid multi-line basic string"
  | escape => "missing escaped value"
  | codeTooShort => "too few unicode value digits"
  | code => "invalid value"
  | word number _ => if number then "invalid float" else "invalid boolean"
  | twoSigns => "redundant numeric sign"
  | signedRadix => "integers with a radix cannot be signed"
  | signAfterRadix => "unexpected sign"
  | upperRadix _ => "radix must be lowercase"
  | decimalRadix => "redundant integer number prefix"
  | radixDigit radix => radixName radix
  | leadingZero => "unexpected leading zero"
  | noDigits part => "invalid " ++ part.name
  | afterFloat => "invalid float"
  | underscore => "`_` may only go between digits"
  | dateTime what expected =>
    "invalid " ++ what.getD "datetime" ++ (expected.map (", expected " ++ ·)).getD ""
  | duplicate => "duplicate key"
  | extends_ type => "cannot extend value of type " ++ type ++ " with a dotted key"
  | wrongType found expected => "invalid type: " ++ found ++ ", expected " ++ expected
  | wrongLength n expected => "invalid length " ++ toString n ++ ", expected " ++ expected
  | unknownName name names => "unknown variant `" ++ name ++ "`, expected " ++ listNames names
  | missing name => "missing field `" ++ name ++ "`"
  | noName => "wanted string or table"
  | oneElement found => "wanted exactly 1 element, " ++ found
  | emptyContent type => "expected empty " ++ type
  | noContent found => "expected table, found " ++ found
  | wholeOverflow => "integer number overflowed"
  | floatOverflow => "floating-point number overflowed"

/-- What would have been right, if the message says so; it may say that nothing would. -/
def wanted : Cause → Option (List Wanted)
  | commentCharacter => some [.described "printable characters"]
  | bareReturn => some [.exactly "\n"]
  | unclosedTable => some [.exactly "]"]
  | unclosedArrayTable closing => some [.exactly closing]
  | unopenedTable => some [.exactly "["]
  | unopenedArray => some [.exactly "["]
  | unopenedInlineTable => some [.exactly "\x7b"]
  | noAssignment => some [.exactly "="]
  | noAssignmentAfterDot => some [.exactly "="]
  | secondAssignment => some []
  | noKey => some [.described "key"]
  | trailing => some [.exactly "\n", .exactly "#"]
  | arrayComma => some Stage.element.wanted
  | arrayAssignment stage => some stage.wanted
  | arrayElement stage => some stage.wanted
  | arraySeparator => some Stage.separator.wanted
  | unclosedArray => some [.exactly "]"]
  | tableComma stage => some stage.wanted
  | tableSecondAssignment stage => some stage.wanted
  | tableNoKey stage => some stage.wanted
  | tableNoAssignment => some Stage.assignment.wanted
  | tableElement stage => some stage.wanted
  | tableSeparator => some Stage.separator.wanted
  | unclosedInlineTable => some [.exactly "\x7d"]
  | emptyKey => some keyCharacters
  | keyCharacter => some keyCharacters
  | longKey _ => some [.described "basic string", .described "literal string"]
  | noValue => some [.described "literal string"]
  | quote q => some [.exactly q.mark]
  | stringCharacter .literal => some [.described "non-single-quote visible characters"]
  | stringCharacter .longLiteral => some [.described "non-single-quote characters"]
  | stringCharacter .basic => some [.described "non-double-quote visible characters", .exactly "\\"]
  | stringCharacter .longBasic => some [.exactly "\\", .described "characters"]
  | noLineBreakAfterEscape => some [.exactly "\n"]
  | escape => some (["b", "e", "f", "n", "r", "\\", "\"", "x", "u", "U"].map .exactly)
  | codeTooShort => some [.described "unicode hexadecimal value"]
  | code => some [.described "unicode hexadecimal value"]
  | word _ expected => some [.exactly expected]
  | twoSigns => some []
  | signedRadix => some []
  | signAfterRadix => some []
  | upperRadix mark => some [.exactly mark]
  | decimalRadix => some []
  | leadingZero => some []
  | noDigits _ => some [.described "digits"]
  | afterFloat => some []
  | underscore => some []
  | _ => none
where
  keyCharacters : List Wanted :=
    [.described "letters", .described "numbers", .exactly "-", .exactly "_"]

def message (c : Cause) : String :=
  match c.wanted with
  | none => c.description
  | some [] => c.description ++ ", expected nothing"
  | some ws => c.description ++ ", expected " ++ String.intercalate ", " (ws.map Wanted.show)

end Cause

/-- A refused text: the reason and the place. -/
structure Fault where
  cause : Cause
  span : Span
  deriving Repr

namespace Fault

/-- The line of an offset, counted from zero, and the column in it. At the end of a text the column is one
behind the last character. A character outside ASCII stands as many columns in as there are bytes before
it. -/
def position (text : List Char) (offset : Nat) : Nat × Nat :=
  if text.isEmpty then (0, 0)
  else
    let inside := min offset (text.length - 1)
    let before := text.take inside
    let inLine := (before.reverse.takeWhile (· != '\n')).reverse
    let atEnd := text.length ≤ offset
    let wide := match text[inside]? with
      | some c => !atEnd && 0x80 ≤ c.toNat
      | none => false
    let column := if wide then (String.ofList inLine).utf8ByteSize else inLine.length
    (before.count '\n', column + (offset - inside))

/-- The text of a fault: the line that it is in, a mark below its place, and the reason. -/
def message (f : Fault) (text : List Char) : String :=
  let (line, column) := position text f.span.start
  let number := toString (line + 1)
  let content := String.ofList ((Text.pieces '\n' text).getD line [])
  let covered := String.ofList ((text.drop f.span.start).take (f.span.stop - f.span.start))
  let marked := min covered.utf8ByteSize (content.utf8ByteSize - column)
  let margin := String.ofList (List.replicate (number.length + 1) ' ') ++ "|"
  "TOML parse error at line " ++ number ++ ", column " ++ toString (column + 1) ++ "\n"
    ++ margin ++ "\n"
    ++ number ++ " | " ++ content ++ "\n"
    ++ margin ++ String.ofList (List.replicate (column + 1) ' ')
    ++ String.ofList (List.replicate (max 1 marked) '^') ++ "\n"
    ++ f.cause.message ++ "\n"

end Fault

end Nullability.Toml
