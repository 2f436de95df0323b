import Nullability.Json.Reader

/-!
Decoding: `Shape.ofText` reads a text as a shape says, `Shape.ofValue` does the same for a value, and
`Value.parse` reads a text as any value. A text is refused at its first fault, be it one of form or one
of meaning; a fault of meaning that shows only at a closing bracket is placed behind the bracket. The
members of a structure may also be given as an array in order.
-/

namespace Nullability.Json

namespace Reader

variable {α : Type}

/-- Moves behind the closing bracket of an array, or to what stands in its place. -/
def leaveArray : Reader Unit := do
  match ← skipBlank with
  | ']' :: rest => set rest
  | ',' :: rest =>
    set rest
    let _ ← skipBlank
  | _ => pure ()

/-- Moves behind the closing bracket of an object, or to what stands in its place. -/
def leaveObject : Reader Unit := do
  match ← skipBlank with
  | '\x7d' :: rest => set rest
  | _ => pure ()

/-- Reads the closing bracket of an array. -/
def endArray : Reader Unit := do
  match ← skipBlank with
  | ']' :: rest => set rest
  | ',' :: rest =>
    set rest
    match ← skipBlank with
    | ']' :: _ => failNext .trailingComma
    | _ => failNext .trailingCharacters
  | [] => failNext .endInList
  | _ => failNext .trailingCharacters

/-- Reads the closing bracket of an object. -/
def endObject : Reader Unit := do
  match ← skipBlank with
  | '\x7d' :: rest => set rest
  | ',' :: _ => failNext .trailingComma
  | [] => failNext .endInObject
  | _ => failNext .trailingCharacters

/-- Moves to the next element of an array and tells whether there is one. -/
def nextElement (first : Bool) : Reader Bool := do
  match ← skipBlank with
  | [] => failNext .endInList
  | ']' :: _ => return false
  | c :: rest =>
    if first then return true
    else if c = ',' then
      set rest
      match ← skipBlank with
      | ']' :: _ => failNext .trailingComma
      | [] => failNext .endInValue
      | _ => return true
    else failNext .listSeparator

/-- Moves to the next member of an object and tells whether there is one. -/
def nextMember (first : Bool) : Reader Bool := do
  match ← skipBlank with
  | [] => failNext .endInObject
  | '\x7d' :: _ => return false
  | c :: rest =>
    if first then
      if c = '"' then return true else failNext .keyNotString
    else if c = ',' then
      set rest
      match ← skipBlank with
      | '"' :: _ => return true
      | '\x7d' :: _ => failNext .trailingComma
      | [] => failNext .endInValue
      | _ => failNext .keyNotString
    else failNext .objectSeparator

/-- The colon behind the name of a member. -/
def colon : Reader Unit := do
  match ← skipBlank with
  | ':' :: rest => set rest
  | [] => failNext .endInObject
  | _ => failNext .colon

/-- Refuses the value that stands here, which is read if it has no parts. -/
def wrongType (expected : String) : Reader α := do
  match ← get with
  | 'n' :: _ =>
    drop 1
    word "ull".toList
    fail (.wrongType .null expected)
  | 't' :: _ =>
    drop 1
    word "rue".toList
    fail (.wrongType (.bool true) expected)
  | 'f' :: _ =>
    drop 1
    word "alse".toList
    fail (.wrongType (.bool false) expected)
  | '"' :: _ => fail (.wrongType (.string (← string true)) expected)
  | '[' :: _ => fail (.wrongType .sequence expected)
  | '\x7b' :: _ => fail (.wrongType .map expected)
  | '-' :: _ =>
    drop 1
    fail (.wrongType (.number (← number false)) expected)
  | c :: _ =>
    if c.isDigit then fail (.wrongType (.number (← number true)) expected) else failNext .value
  | [] => failNext .value

/-- Skips blanks and answers the first character behind them. -/
def start : Reader Char := do
  match ← skipBlank with
  | c :: _ => return c
  | [] => failNext .endInValue

/-- A string, expected as told. -/
def text (expected : String) : Reader String := do
  if (← start) = '"' then string true else wrongType expected

/-- Skips a value; only its form is looked at. `open_` holds the brackets of the arrays and objects that
the value stands in, innermost first. -/
def skipValue : Nat → List Char → Reader Unit
  | 0, _ => fail .value
  | fuel + 1, open_ => do
    let entered : Option Char ← match ← start with
      | 'n' => drop 1; word "ull".toList; pure none
      | 't' => drop 1; word "rue".toList; pure none
      | 'f' => drop 1; word "alse".toList; pure none
      | '-' => drop 1; skippedNumber; pure none
      | '"' =>
        let _ ← string false
        pure none
      | '[' => drop 1; pure (some '[')
      | '\x7b' => drop 1; pure (some '\x7b')
      | c => if c.isDigit then skippedNumber; pure none else failNext .value
    let open_ := entered.toList ++ open_
    match ← close fuel entered.isNone open_ with
    | [] => return
    | frame :: outer =>
      if frame = '\x7b' then
        match ← skipBlank with
        | '"' :: _ => let _ ← string false
        | [] => failNext .endInObject
        | _ => failNext .keyNotString
        colon
      skipValue fuel (frame :: outer)
where
  /-- Closes brackets as long as closing ones follow. Answers the brackets that stay open around the next
  part. -/
  close : Nat → Bool → List Char → Reader (List Char)
    | _, _, [] => return []
    | 0, _, _ => fail .value
    | fuel + 1, comma, frame :: outer => do
      match ← skipBlank with
      | [] => failNext (if frame = '[' then .endInList else .endInObject)
      | c :: rest =>
        if comma && c = ',' then
          set rest
          return frame :: outer
        else if (c = ']' && frame = '[') || (c = '\x7d' && frame = '\x7b') then
          set rest
          close fuel true outer
        else if comma then failNext (if frame = '[' then .listSeparator else .objectSeparator)
        else return frame :: outer

/-- The elements of an array. -/
def elements (element : Reader α) : Nat → Bool → Reader (List α)
  | 0, _ => fail .value
  | fuel + 1, first => do
    if ← nextElement first then
      let a ← element
      return a :: (← elements element fuel false)
    else return []

/-- Any value; the count bounds its length. -/
def any : Nat → Reader Value
  | 0 => fail .value
  | fuel + 1 => do
    match ← start with
    | 'n' => drop 1; word "ull".toList; return .null
    | 't' => drop 1; word "rue".toList; return .bool true
    | 'f' => drop 1; word "alse".toList; return .bool false
    | '-' => drop 1; return .number (← number false)
    | '"' => return .string (← string true)
    | '[' =>
      drop 1
      let vs ← elements (any fuel) (fuel + 1) true
      endArray
      return .array vs
    | '\x7b' =>
      drop 1
      let ms ← members fuel (fuel + 1) true
      endObject
      return .object ms
    | c => if c.isDigit then return .number (← number true) else failNext .value
where
  members (fuel : Nat) : Nat → Bool → Reader (List (String × Value))
    | 0, _ => fail .value
    | count + 1, first => do
      if ← nextMember first then
        let name ← string true
        colon
        let v ← any fuel
        return (name, v) :: (← members fuel count false)
      else return []

/-- Reads with a given reader up to the end of the text, where only blanks may follow. -/
def whole (r : Reader α) : Reader α := do
  let a ← r
  if (← skipBlank).isEmpty then return a else failNext .trailingCharacters

end Reader

/-- A text read as any value. -/
def Value.parse (text : String) : Except Fault Value :=
  let cs := text.toList
  ((Reader.any (cs.length + 1)).whole cs).map Prod.fst

/-- What a member of a structure holds while the structure is read. -/
abbrev Presence.Slot (p : Presence) (α : Type) : Type :=
  match p with
  | .required | .defaulted => α
  | .optional | .nullable => Option α

/-- The members read so far. -/
def Fields.Slots : Fields → Type
  | .nil => Unit
  | .cons _ presence shape rest => Option (presence.Slot shape.Denote) × rest.Slots

namespace Fields

def noSlots : (fs : Fields) → fs.Slots
  | .nil => ()
  | .cons _ _ _ rest => (none, rest.noSlots)

/-- What the members mean, or the name of the first one that is required and missing. -/
def complete : (fs : Fields) → fs.Slots → Except String fs.Denote
  | .nil, _ => .ok ()
  | .cons name .required _ rest, (slot, slots) =>
    match slot with
    | none => .error name
    | some x => (rest.complete slots).map fun ds => (x, ds)
  | .cons _ .defaulted _ rest, (slot, slots) => (rest.complete slots).map fun ds => (slot, ds)
  | .cons _ .optional _ rest, (slot, slots) => (rest.complete slots).map fun ds => (slot.join, ds)
  | .cons _ .nullable _ rest, (slot, slots) => (rest.complete slots).map fun ds => (slot.join, ds)

/-- What is meant by members that are left out behind a number of others, or how many stand before the
first one that is required. -/
def absent (given : Nat) : (fs : Fields) → Except Nat fs.Denote
  | .nil => .ok ()
  | .cons _ .required _ _ => .error given
  | .cons _ .defaulted _ rest => (rest.absent (given + 1)).map fun ds => (none, ds)
  | .cons _ .optional _ rest => (rest.absent (given + 1)).map fun ds => (none, ds)
  | .cons _ .nullable _ rest => (rest.absent (given + 1)).map fun ds => (none, ds)

end Fields

/-- What a member means, given what was read for it. -/
def Presence.ofSlot {α : Type} : (p : Presence) → p.Slot α → p.Denote α
  | .required, x => x
  | .defaulted, x => some x
  | .optional, x => x
  | .nullable, x => x

namespace Reader

/-- Reads what a member holds: null stands for nothing where that is allowed. -/
def slot {α : Type} (p : Presence) (r : Reader α) : Reader (p.Slot α) :=
  match p with
  | .required | .defaulted => r
  | .optional | .nullable => do
    if (← start) = 'n' then
      drop 1
      word "ull".toList
      return none
    else return some (← r)

/-- One of several names, which may also be given as an object with null behind the name. -/
def choice (names : List String) : Reader (Fin names.length) := do
  let find (name : String) : Reader (Fin names.length) :=
    match names.finIdxOf? name with
    | some i => return i
    | none => fail (.unknownName name names)
  match ← start with
  | '"' => find (← string true)
  | '\x7b' =>
    drop 1
    let i ← find (← text "variant identifier")
    colon
    if (← start) = 'n' then
      drop 1
      word "ull".toList
    else wrongType "unit"
    match ← skipBlank with
    | '\x7d' :: rest => set rest
    | [] => fail .endInObject
    | _ => fail .value
    return i
  | _ => failNext .value

/-- A whole number of at most sixty-four bits. -/
def wholeNumber : Reader Nat := do
  let accept (n : Number) : Reader Nat :=
    match n with
    | .natural n => return n
    | .negative _ => fail (.wrongValue (.number n) "usize")
    | .float _ => fail (.wrongType (.number n) "usize")
  match ← start with
  | '-' =>
    drop 1
    accept (← number false)
  | c => if c.isDigit then accept (← number true) else wrongType "usize"

def truth : Reader Bool := do
  match ← start with
  | 't' =>
    drop 1
    word "rue".toList
    return true
  | 'f' =>
    drop 1
    word "alse".toList
    return false
  | _ => wrongType "a boolean"

end Reader

mutual

/-- Reads a text as a shape says. -/
def Shape.read : (s : Shape) → Reader s.Denote
  | .text => Reader.text "a string"
  | .path => Reader.text "path string"
  | .whole => Reader.wholeNumber
  | .truth => Reader.truth
  | .choice names => Reader.choice names
  | .sequence element => do
    if (← Reader.start) = '[' then
      Reader.drop 1
      let ds ← Reader.elements element.read ((← get).length + 1) true
      Reader.endArray
      return ds
    else Reader.wrongType "a sequence"
  | .structure name fields => do
    match ← Reader.start with
    | '[' =>
      Reader.drop 1
      match ← fields.readElements 0 (fields.describe name) true with
      | .ok ds =>
        Reader.endArray
        return ds
      | .error cause =>
        Reader.leaveArray
        Reader.fail cause
    | '\x7b' =>
      Reader.drop 1
      match ← fields.readMembers ((← get).length + 1) true fields.noSlots with
      | .ok slots =>
        match fields.complete slots with
        | .ok ds =>
          Reader.endObject
          return ds
        | .error name =>
          Reader.leaveObject
          Reader.fail (.missing name)
      | .error cause =>
        Reader.leaveObject
        Reader.fail cause
    | _ => Reader.wrongType ("struct " ++ name)

/-- Reads members given as the elements of an array; a fault without a place is answered. -/
def Fields.readElements : (fs : Fields) → Nat → String → Bool → Reader (Except Cause fs.Denote)
  | .nil, _, _, _ => return .ok ()
  | .cons name presence shape rest, given, expected, first => do
    if ← Reader.nextElement first then
      let d ← Reader.slot presence shape.read
      let ds ← rest.readElements (given + 1) expected false
      return ds.map fun ds => (presence.ofSlot d, ds)
    else return ((Fields.cons name presence shape rest).absent given).mapError (.wrongLength · expected)

/-- Reads the members of an object into their slots; a fault without a place is answered. -/
def Fields.readMembers (fs : Fields) : Nat → Bool → fs.Slots → Reader (Except Cause fs.Slots)
  | 0, _, _ => Reader.fail .value
  | count + 1, first, slots => do
    if ← Reader.nextMember first then
      let name ← Reader.string true
      match fs.readMember name slots with
      | some (.error cause) => return .error cause
      | some (.ok read) =>
        Reader.colon
        let slots ← read
        fs.readMembers count false slots
      | none =>
        Reader.colon
        Reader.skipValue ((← get).length + 1) []
        fs.readMembers count false slots
    else return .ok slots

/-- How the member of a given name is read into its slot: not at all if the name is unknown, and not a
second time. -/
def Fields.readMember : (fs : Fields) → String → fs.Slots → Option (Except Cause (Reader fs.Slots))
  | .nil, _, _ => none
  | .cons name presence shape rest, key, (slot, slots) =>
    if name = key then
      match slot with
      | some _ => some (.error (.duplicate name))
      | none => some (.ok do
          let d ← Reader.slot presence shape.read
          return (some d, slots))
    else
      match rest.readMember key slots with
      | none => none
      | some (.error cause) => some (.error cause)
      | some (.ok read) => some (.ok do
          let slots ← read
          return (slot, slots))

end

/-- Reads a whole text as a shape says. -/
def Shape.ofText (s : Shape) (text : String) : Except Fault s.Denote :=
  (s.read.whole text.toList).map Prod.fst

end Nullability.Json
