import Nullability.Json.Decode
import Nullability.Text.ByName
import Nullability.Toml.Document

/-!
Reading TOML documents by the shapes that JSON values are read by. A fault is placed at the value that it
is about. The entries of a table are looked at in the order of their names; those that no member is named
for are looked through for numbers that are too large.
-/

namespace Nullability.Toml

open Json (Shape Fields Presence)

/-- The decimal digits of a number, never with an exponent. -/
def floatText (x : Float) : String :=
  if x.isNaN then "NaN"
  else if x.isInf then if x < 0.0 then "-inf" else "inf"
  else Decimal.showPositional x

/-- Whether a whole number fits a signed or unsigned number of some bits. -/
def fitsBits (bits : Nat) (n : Int) : Bool := -(Int.pow 2 (bits - 1)) ≤ n && n < Int.pow 2 bits

namespace Node

/-- How messages describe a value. -/
def describe : Node → Except Cause String
  | .scalar (.string s) _ => .ok ("string " ++ Text.quoted s)
  | .scalar (.truth b) _ => .ok ("boolean `" ++ toString b ++ "`")
  | .scalar (.whole (some n)) _ =>
    if fitsBits 64 n then .ok ("integer `" ++ toString n ++ "`")
    else if -(Int.pow 2 127) ≤ n && n < Int.pow 2 127 then .ok ("integer `" ++ toString n ++ "` as i128")
    else if fitsBits 128 n then .ok ("integer `" ++ toString n ++ "` as u128")
    else .error .wholeOverflow
  | .scalar (.whole none) _ => .error .wholeOverflow
  | .scalar (.float x) _ => .ok ("floating point `" ++ floatText x ++ "`")
  | .scalar .tooLarge _ => .error .floatOverflow
  | .scalar .dateTime _ => .ok "map"
  | .array _ _ _ => .ok "sequence"
  | .table _ _ _ => .ok "map"

/-- Refuses a value of another type than the one expected. -/
def refuse {α : Type} (n : Node) (expected : String) : Except Fault α :=
  match n.describe with
  | .ok found => .error ⟨.wrongType found expected, n.span⟩
  | .error cause => .error ⟨cause, n.span⟩

end Node

/-- The first fault among the outcomes for entries, in the order of their names. -/
def firstFault (outcomes : List (String × Except Fault Unit)) : Except Fault Unit :=
  (Text.sortByName outcomes).forM Prod.snd

mutual

/-- Looks through a value that means nothing for numbers that are too large. -/
def ignore : Node → Except Fault Unit
  | .scalar s span =>
    match (Node.scalar s span).describe with
    | .ok _ => .ok ()
    | .error cause => .error ⟨cause, span⟩
  | .array _ elements _ => ignoreAll elements
  | .table _ entries _ => firstFault (ignoreEntries entries)

def ignoreAll : List Node → Except Fault Unit
  | [] => .ok ()
  | n :: rest => do
    ignore n
    ignoreAll rest

def ignoreEntries : List (String × Node) → List (String × Except Fault Unit)
  | [] => []
  | (name, n) :: rest => (name, ignore n) :: ignoreEntries rest

end

/-- The one of several names that a value gives: as a string, or as the only entry of a table, with
nothing in it. -/
def choice (names : List String) (n : Node) : Except Fault (Fin names.length) :=
  let find (name : String) (span : Span) : Except Fault (Fin names.length) :=
    match names.finIdxOf? name with
    | some i => .ok i
    | none => .error ⟨.unknownName name names, span⟩
  match n with
  | .scalar (.string name) span => find name span
  | .table _ [] span => .error ⟨.oneElement "found 0 elements", span⟩
  | .table _ [(name, content)] span => do
    let i ← find name span
    match content with
    | .array _ elements place =>
      if elements.isEmpty then return i else .error ⟨.emptyContent "array", place⟩
    | .table _ entries place =>
      if entries.isEmpty then return i else .error ⟨.emptyContent "table", place⟩
    | other => .error ⟨.noContent other.typeName, other.span⟩
  | .table _ _ span => .error ⟨.oneElement "more than 1 element", span⟩
  | other => .error ⟨.noName, other.span⟩

/-- Reads what a member holds; there is no null. -/
def readSlot {α : Type} (p : Presence) (read : Node → Except Fault α) (n : Node) : Except Fault (p.Slot α) :=
  match p with
  | .required | .defaulted => read n
  | .optional | .nullable => (read n).map some

mutual

/-- Reads a value as a shape says. -/
def readAs : (s : Shape) → Node → Except Fault s.Denote
  | .text, n =>
    match n with
    | .scalar (.string t) _ => .ok t
    | other => other.refuse "a string"
  | .path, n =>
    match n with
    | .scalar (.string t) _ => .ok t
    | other => other.refuse "path string"
  | .whole, n =>
    match n with
    | .scalar (.whole (some i)) _ => if 0 ≤ i ∧ i < Int.pow 2 64 then .ok i.toNat else n.refuse "usize"
    | other => other.refuse "usize"
  | .truth, n =>
    match n with
    | .scalar (.truth b) _ => .ok b
    | other => other.refuse "a boolean"
  | .choice names, n => choice names n
  | .sequence element, n =>
    match n with
    | .array _ elements _ => elements.mapM (readAs element)
    | other => other.refuse "a sequence"
  | .structure name fields, n =>
    match n with
    | .table _ entries span => do
      let slots ← (Text.sortByName entries).foldlM (fun slots e => fillFrom fields e.1 e.2 slots)
        fields.noSlots
      (fields.complete slots).mapError fun name => ⟨.missing name, span⟩
    | .array _ elements span => readElements fields 0 (fields.describe name) span elements
    | .scalar .dateTime span => (fields.complete fields.noSlots).mapError fun name => ⟨.missing name, span⟩
    | other => other.refuse ("struct " ++ name)

/-- Reads members given as the elements of an array; more elements are left alone. -/
def readElements : (fs : Fields) → Nat → String → Span → List Node → Except Fault fs.Denote
  | .nil, _, _, _, _ => .ok ()
  | .cons name presence shape rest, given, expected, span, elements =>
    match elements with
    | [] => ((Fields.cons name presence shape rest).absent given).mapError fun count =>
      ⟨.wrongLength count expected, span⟩
    | n :: more => do
      let d ← readSlot presence (readAs shape) n
      let ds ← readElements rest (given + 1) expected span more
      return (presence.ofSlot d, ds)

/-- Reads the entry of a given name into its slot, if it is that of a member. -/
def fillFrom : (fs : Fields) → String → Node → fs.Slots → Except Fault fs.Slots
  | .nil, _, n, slots => (ignore n).map fun _ => slots
  | .cons name presence shape rest, key, n, (slot, slots) =>
    if name = key then (readSlot presence (readAs shape) n).map fun d => (some d, slots)
    else (fillFrom rest key n slots).map fun slots => (slot, slots)

end

end Nullability.Toml
