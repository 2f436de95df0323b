import Nullability.Json.Decode
import Nullability.Text.ByName

/-!
Decoding of values. `Shape.ofValue` reads a value as a shape says and refuses it at the first fault; the
members of an object are looked at in the order of their names. There is no text, so a fault has no
place.
-/

namespace Nullability.Json

/-- A value of another type than the one expected. -/
def Value.refuse {α : Type} (v : Value) (expected : String) : Except Cause α :=
  .error (.wrongType (.ofValue v) expected)

/-- The members of an object by name: of several with one name the last stays. -/
def sortedMembers (members : List (String × Value)) : List (String × Value) :=
  let kept := members.foldr
    (fun m later => if later.any (·.1 == m.1) then later else m :: later) []
  Text.sortByName kept

/-- The one of several names that a value gives. -/
def choiceOfValue (names : List String) (v : Value) : Except Cause (Fin names.length) :=
  let find (name : String) : Except Cause (Fin names.length) :=
    match names.finIdxOf? name with
    | some i => .ok i
    | none => .error (.unknownName name names)
  match v with
  | .string name => find name
  | .object members =>
    match sortedMembers members with
    | [(name, content)] => do
      let i ← find name
      match content with
      | .null => return i
      | other => other.refuse "unit"
    | _ => .error (.wrongValue .map "map with a single key")
  | other => other.refuse "string or map"

def wholeOfValue (v : Value) : Except Cause Nat :=
  match v with
  | .number (.natural n) => .ok n
  | .number (.negative n) => .error (.wrongValue (.number (.negative n)) "usize")
  | other => other.refuse "usize"

/-- What a member holds: null stands for nothing where that is allowed. -/
def slotOfValue {α : Type} (p : Presence) (read : Value → Except Cause α) (v : Value) :
    Except Cause (p.Slot α) :=
  match p with
  | .required | .defaulted => read v
  | .optional | .nullable =>
    match v with
    | .null => .ok none
    | other => (read other).map some

mutual

/-- Reads a value as a shape says. -/
def Shape.ofValue : (s : Shape) → Value → Except Cause s.Denote
  | .text, v =>
    match v with
    | .string t => .ok t
    | other => other.refuse "a string"
  | .path, v =>
    match v with
    | .string t => .ok t
    | other => other.refuse "path string"
  | .whole, v => wholeOfValue v
  | .truth, v =>
    match v with
    | .bool b => .ok b
    | other => other.refuse "a boolean"
  | .choice names, v => choiceOfValue names v
  | .sequence element, v =>
    match v with
    | .array vs => vs.mapM element.ofValue
    | other => other.refuse "a sequence"
  | .structure name fields, v =>
    match v with
    | .array vs => fields.ofElements 0 vs.length (fields.describe name) vs
    | .object members => do
      let slots ← (sortedMembers members).foldlM (fun slots m => fields.fill m.1 m.2 slots) fields.noSlots
      (fields.complete slots).mapError .missing
    | other => other.refuse ("struct " ++ name)

/-- Reads members given as the elements of an array. -/
def Fields.ofElements :
    (fs : Fields) → Nat → Nat → String → List Value → Except Cause fs.Denote
  | .nil, _, _, _, [] => .ok ()
  | .nil, _, length, _, _ :: _ => .error (.wrongLength length "fewer elements in array")
  | .cons name presence shape rest, given, length, expected, vs =>
    match vs with
    | [] => ((Fields.cons name presence shape rest).absent given).mapError (.wrongLength · expected)
    | v :: vs => do
      let d ← slotOfValue presence shape.ofValue v
      let ds ← rest.ofElements (given + 1) length expected vs
      return (presence.ofSlot d, ds)

/-- Reads the member of a given name into its slot, if it is a known one. -/
def Fields.fill : (fs : Fields) → String → Value → fs.Slots → Except Cause fs.Slots
  | .nil, _, _, slots => .ok slots
  | .cons name presence shape rest, key, v, (slot, slots) =>
    if name = key then (slotOfValue presence shape.ofValue v).map fun d => (some d, slots)
    else (rest.fill key v slots).map fun slots => (slot, slots)

end

end Nullability.Json
