/-!
JSON values and their text, compact and indented. Members of an object keep their order.
-/

namespace Nullability.Json

/-- A number as it is read: a whole number keeps its sign apart, any other is a floating-point one. -/
inductive Number
  | natural (n : Nat)
  | negative (n : Nat)
  | float (x : Float)

inductive Value
  | null
  | bool (b : Bool)
  | number (n : Number)
  | string (s : String)
  | array (elements : List Value)
  | object (members : List (String × Value))
  deriving Inhabited

namespace Value

def nat (n : Nat) : Value := .number (.natural n)

def strings (ss : List String) : Value := .array (ss.map .string)

/-- The member of an object with the given name; of several the last. -/
def member? (v : Value) (name : String) : Option Value :=
  match v with
  | .object members => members.reverse.lookup name
  | _ => none

end Value

/-- A digit of base sixteen, small letters. -/
def hexDigit (n : Nat) : Char := "0123456789abcdef".toList.getD n '0'

/-- One character inside a quoted string. -/
def escapedChar (c : Char) : List Char :=
  match c with
  | '"' => ['\\', '"']
  | '\\' => ['\\', '\\']
  | '\x08' => ['\\', 'b']
  | '\x0c' => ['\\', 'f']
  | '\n' => ['\\', 'n']
  | '\r' => ['\\', 'r']
  | '\t' => ['\\', 't']
  | _ =>
    if c.toNat < 0x20 then ['\\', 'u', '0', '0', hexDigit (c.toNat / 16), hexDigit (c.toNat % 16)]
    else [c]

/-- A string in quotes. -/
def quotedString (s : String) : List Char :=
  '"' :: s.toList.flatMap escapedChar ++ ['"']

/-- The text of a number; the writer is given no floating-point one. -/
def numberText : Number → List Char
  | .natural n => Nat.toDigits 10 n
  | .negative n => '-' :: Nat.toDigits 10 n
  | .float _ => "null".toList

/-- How the parts of arrays and objects are set apart: in the compact style nothing is, in the indented
style every part has a line of its own. -/
inductive Style
  | compact | indented
  deriving DecidableEq

namespace Style

/-- What stands between a bracket or comma and the part after it. -/
def lineBreak (s : Style) (depth : Nat) : List Char :=
  match s with
  | compact => []
  | indented => '\n' :: List.replicate (2 * depth) ' '

/-- What stands after the name of a member. -/
def colon : Style → List Char
  | compact => [':']
  | indented => [':', ' ']

/-- Parts in brackets, with commas between them. -/
def enclose (s : Style) (depth : Nat) (opening closing : Char) (parts : List (List Char)) : List Char :=
  match parts with
  | [] => [opening, closing]
  | first :: rest =>
    opening :: s.lineBreak (depth + 1) ++ first
      ++ rest.flatMap (fun part => ',' :: s.lineBreak (depth + 1) ++ part)
      ++ s.lineBreak depth ++ [closing]

end Style

mutual

/-- The text of a value that stands at some depth. -/
def render (s : Style) (depth : Nat) : Value → List Char
  | .null => "null".toList
  | .bool true => "true".toList
  | .bool false => "false".toList
  | .number n => numberText n
  | .string text => quotedString text
  | .array elements => s.enclose depth '[' ']' (renderAll s (depth + 1) elements)
  | .object members => s.enclose depth '\x7b' '\x7d' (renderMembers s (depth + 1) members)

def renderAll (s : Style) (depth : Nat) : List Value → List (List Char)
  | [] => []
  | v :: rest => render s depth v :: renderAll s depth rest

def renderMembers (s : Style) (depth : Nat) : List (String × Value) → List (List Char)
  | [] => []
  | (name, v) :: rest =>
    (quotedString name ++ s.colon ++ render s depth v) :: renderMembers s depth rest

end

/-- The text of a value. -/
def Value.text (v : Value) (s : Style) : String := String.ofList (render s 0 v)

end Nullability.Json
