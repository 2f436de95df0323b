import Nullability.Log.Basic
import Nullability.Record.Basic
import Nullability.Syntax.File

/-!
Records of a source file: every struct item of the syntax tree is a record, and its fields are the
components. With a marker, only the struct items that carry it as an attribute or derive it are records.
-/

namespace Nullability

open Syntax

/-- A source file that could not be read as one. -/
structure ParseError where
  file : String
  line : Nat
  column : Nat
  detail : String
  deriving DecidableEq, Repr

namespace ParseError

def message (e : ParseError) : String :=
  "Parse error in " ++ e.file ++ ":" ++ toString e.line ++ ":" ++ toString e.column ++ ": " ++ e.detail

/-- A fault in a text; one without a place is shown at the first character. -/
def ofFault (file : String) (text : List Char) (f : Fault) : ParseError :=
  let p := match f.place with
    | some m => m.position text
    | none => ⟨1, 1⟩
  ⟨file, p.line, p.column, f.message⟩

end ParseError

namespace Syntax

/-- The simple name of an attribute: the last segment of its path, without a raw mark. -/
def Attribute.simpleName? (a : Attribute) : Option String :=
  a.path.getLast?.map Text.withoutRawMark

/-- A name behind two colons. -/
def laterName : Parser (String × Mark) := do
  Parser.punct "::"
  Parser.anyIdent

/-- The names of a path, two colons in front of it aside. -/
def pathNames : Parser (List String) := do
  let ts ← Parser.cursor
  let first ←
    if ts.isAnyIdent then Parser.anyIdent
    else if ts.isEmpty then Parser.fail .nestedAttribute
    else if ts.isLiteral then Parser.fail .nestedLiteral
    else Parser.fail .nestedToken
  let more ← Parser.whileTrue (·.isPunct "::") laterName
  return (first :: more).map Prod.fst

/-- The path of an entry of a derive list. -/
def derivePath : Parser (List String) := do
  let _ ← Parser.punct? "::"
  pathNames

/-- The entries of a derive list up to the first fault, and the fault. -/
def deriveEntries : Nat → Reading → List (List String) × Option Fault
  | 0, _ => ([], none)
  | count + 1, reading =>
    match derivePath ⟨none, none⟩ reading with
    | .error fault => ([], some fault)
    | .ok (path, after) =>
      if after.rest.isEmpty then ([path], none)
      else
        match Parser.punct "," ⟨none, none⟩ after with
        | .error fault => ([path], some fault)
        | .ok (_, next) =>
          if next.rest.isEmpty then ([path], none)
          else
            let (paths, fault) := deriveEntries count next
            (path :: paths, fault)

/-- The derived paths of an attribute up to the first fault in its list, and how the fault is worded. -/
def Attribute.derives (a : Attribute) : List (List String) × Option String :=
  match a.arguments with
  | .absent => ([], some (Complaint.argumentsMissing "derive").message)
  | .assigned => ([], some (Complaint.argumentsAssigned "derive").message)
  | .listed [] => ([], none)
  | .listed tokens =>
    let (paths, fault) := deriveEntries tokens.length ⟨tokens, none, false⟩
    (paths, fault.map Fault.message)

def Attribute.isDerive (a : Attribute) : Bool := !a.absolute && a.path == ["derive"]

end Syntax

namespace Record

/-- Whether an attribute carries a marker, with the lines that looking for it logs. -/
def attributeCarries (marker : String) (a : Attribute) : Bool × Logged :=
  if a.isDerive then
    let (paths, fault) := a.derives
    (paths.any (·.getLast? == some marker),
     fault.toList.map fun message =>
       ⟨.debug, .records, "Ignoring unparseable derive list: " ++ message⟩)
  else (a.path.getLast? == some marker, [])

/-- Whether a list of attributes carries a marker; attributes after the first that does are not looked
at. -/
def carries (marker : String) : List Attribute → Bool × Logged
  | [] => (false, [])
  | a :: rest =>
    match attributeCarries marker a with
    | (true, log) => (true, log)
    | (false, log) =>
      let (found, more) := carries marker rest
      (found, log ++ more)

/-- Whether a struct item is selected by a marker; without one all are. -/
def selects (marker : Option String) (item : StructItem) : Bool × Logged :=
  match marker with
  | none => (true, [])
  | some m => carries m item.attributes

/-- The component of a field: a tuple field is named by its index. -/
def componentOfField (text : List Char) (index : Nat) (f : Field) : Component :=
  let (name, place) := match f.name with
    | some (name, place) => (name, place)
    | none => (toString index, f.start)
  ⟨name, f.attributes.filterMap (·.simpleName?), some (place.line text)⟩

/-- The record of a struct item of a text. -/
def ofStruct (text : List Char) (file : String) (item : StructItem) : Record where
  name := item.name
  file := some file
  line := some (item.start.line text)
  components := item.fields.mapIdx (componentOfField text)

/-- The selected struct items among those given, with the lines that selecting logs. -/
def select (marker : Option String) : List StructItem → List StructItem × Logged
  | [] => ([], [])
  | item :: rest =>
    let (selected, log) := selects marker item
    let (items, more) := select marker rest
    (if selected then item :: items else items, log ++ more)

/-- The records of a syntax tree, with the lines logged. -/
def collect (text : List Char) (file : String) (marker : Option String) (tree : Node) :
    List Record × Logged :=
  let (items, log) := select marker tree.structs
  let records := items.map (ofStruct text file)
  (records, log ++ [⟨.debug, .records,
    "Collected " ++ toString records.length ++ " record(s) from " ++ file⟩])

/-- The records of a source text, with the lines logged, or what is wrong with the text. -/
def parse (source file : String) (marker : Option String) : Except ParseError (List Record × Logged) :=
  let text := fileContent source.toList
  match Syntax.parse text with
  | .error fault => .error (.ofFault file text fault)
  | .ok tree => .ok (collect text file marker tree)

end Record

end Nullability
