import Nullability.Toml.Fault

/-!
The outline of a TOML document: its headers and assignments, with keys and values still as they are
written. `Outline.ofText` finds the first fault in the structure of a text; what stands inside keys and
values is not looked at here.
-/

namespace Nullability.Toml

/-- A key or a scalar as it is written. -/
structure Raw where
  quoting : Option Quoting
  start : Nat
  text : List Char
  deriving Repr

namespace Raw

def stop (r : Raw) : Nat := r.start + r.text.length

def span (r : Raw) : Span := ⟨r.start, r.stop⟩

/-- What is taken for a key or value that is not there. -/
def nothing (offset : Nat) : Raw := ⟨none, offset, []⟩

end Raw

/-- A value as it is written. -/
inductive RawValue
  | scalar (r : Raw)
  | array (elements : List RawValue) (span : Span)
  | table (entries : List (List Raw × RawValue)) (span : Span)

/-- A header or an assignment; keys have at least one part. -/
inductive Expression
  | header (ofArray : Bool) (key : List Raw) (span : Span)
  | assignment (key : List Raw) (value : RawValue)

/-- The tokens still to be read, and the offset behind the last one read that is no blank, comment or
line end. -/
structure Reading where
  rest : List Token
  behind : Nat

abbrev Parser := StateT Reading (Except Fault)

namespace Parser

variable {α : Type}

def fail (c : Cause) (offset : Nat) : Parser α := throw ⟨c, .at offset⟩

/-- The next token; the end of the text is never passed. -/
def peek : Parser Token := do
  match (← get).rest with
  | t :: _ => return t
  | [] => return ⟨.finish, (← get).behind, []⟩

/-- Reads the next token. -/
def advance : Parser Unit := modify fun r =>
  match r.rest with
  | t :: (next :: rest) =>
    let silent := t.kind = .blank || t.kind = .comment || t.kind = .lineBreak
    ⟨next :: rest, if silent then r.behind else t.stop⟩
  | _ => r

/-- A comment may hold tabs and what can be seen. -/
def checkComment (t : Token) : Parser Unit :=
  match t.text.findIdx? fun c => c.toNat < 0x20 && c != '\t' || c.toNat == 0x7F with
  | some i => fail .commentCharacter (t.start + i)
  | none => pure ()

def checkLineBreak (t : Token) : Parser Unit :=
  if t.text = ['\r'] then fail .bareReturn t.stop else pure ()

/-- Skips blanks. -/
def blanks : Parser Unit := do
  if (← peek).kind = .blank then advance

/-- Reads a token that is a blank, a comment or a line end, and tells whether it is one. -/
def silent? : Parser Bool := do
  let t ← peek
  match t.kind with
  | .blank => advance; return true
  | .comment => checkComment t; advance; return true
  | .lineBreak => checkLineBreak t; advance; return true
  | _ => return false

/-- Skips blanks, comments and line ends; the count bounds their number. -/
def allSilent : Nat → Parser Unit
  | 0 => pure ()
  | count + 1 => do if ← silent? then allSilent count

/-- The part of a key that a token is. -/
def keyPart? (t : Token) : Option Raw :=
  match t.kind with
  | .quoted q => some ⟨some q, t.start, t.text⟩
  | .atom => some ⟨none, t.start, t.text⟩
  | _ => none

/-- The parts of a key from here on, a dot having been read. A part that is missing is taken for an empty
one, and after one at the end no dot is looked for. Tells whether the last part is there. -/
def partsAfterDot : Nat → Parser (List Raw × Bool)
  | 0 => return ([], false)
  | count + 1 => do
    blanks
    let t ← peek
    match keyPart? t with
    | some part =>
      advance
      blanks
      if (← peek).kind = .dot then
        advance
        let (parts, complete) ← partsAfterDot count
        return (part :: parts, complete)
      else return ([part], true)
    | none =>
      if t.kind = .dot then
        advance
        let (parts, complete) ← partsAfterDot count
        return (.nothing t.start :: parts, complete)
      else return ([.nothing t.start], false)

/-- The parts of a key that follow its first one. -/
def moreParts (count : Nat) : Parser (List Raw × Bool) := do
  blanks
  if (← peek).kind = .dot then
    advance
    partsAfterDot count
  else return ([], true)

/-- Reads tokens of the given kinds, one text after the other. -/
def gather (kinds : List Kind) : Nat → Parser (List Char)
  | 0 => return []
  | count + 1 => do
    let t ← peek
    if kinds.contains t.kind then
      advance
      return t.text ++ (← gather kinds count)
    else return []

/-- Reads a scalar that begins with the next token. Bare scalars may have points in them, and one blank
stretch, as between a date and a time. -/
def scalar (count : Nat) : Parser Raw := do
  let t ← peek
  match t.kind with
  | .quoted q =>
    advance
    return ⟨some q, t.start, t.text⟩
  | _ =>
    let word ← gather [.dot, .atom] count
    let gap ← peek
    if gap.kind = .blank then
      match (← get).rest with
      | _ :: next :: _ =>
        if next.kind = .atom then
          advance
          let second ← gather [.dot, .atom] count
          return ⟨none, t.start, word ++ gap.text ++ second⟩
      | _ => pure ()
    return ⟨none, t.start, word⟩

/-- The greatest depth of arrays and inline tables in each other. -/
def depthLimit : Nat := 80

mutual

/-- Reads a value behind an assignment; one that is missing is taken for an empty scalar. -/
def value : Nat → Nat → Parser RawValue
  | 0, _ => do fail .trailing (← peek).start
  | fuel + 1, depth => do
    let t ← peek
    match t.kind with
    | .openBracket => array fuel depth
    | .openBrace => inlineTable fuel depth
    | .closeBracket => fail .unopenedArray t.start
    | .closeBrace => fail .unopenedInlineTable t.start
    | .equals => throw ⟨.secondAssignment, t.start, t.stop⟩
    | .quoted _ | .atom | .dot => return .scalar (← scalar fuel)
    | _ => return .scalar (.nothing t.start)

/-- Reads an array. -/
def array : Nat → Nat → Parser RawValue
  | 0, _ => do fail .unclosedArray (← peek).start
  | fuel + 1, depth => do
    let t ← peek
    advance
    if depthLimit ≤ depth then throw ⟨.tooDeep, t.start, t.stop⟩
    let (elements, stop) ← arrayRest fuel (depth + 1) .element
    return .array elements ⟨t.start, stop⟩

/-- Reads the elements of an array and its closing bracket. Answers the offset behind it too. -/
def arrayRest : Nat → Nat → Stage → Parser (List RawValue × Nat)
  | 0, _, _ => do fail .unclosedArray (← get).behind
  | fuel + 1, depth, stage => do
    allSilent fuel
    let t ← peek
    let element (read : Parser RawValue) : Parser (List RawValue × Nat) := do
      if stage = .separator then fail .arraySeparator t.start
      let v ← read
      let (vs, stop) ← arrayRest fuel depth .separator
      return (v :: vs, stop)
    match t.kind with
    | .comma =>
      if stage = .separator then
        advance
        arrayRest fuel depth .element
      else fail .arrayComma t.start
    | .equals => fail (.arrayAssignment stage) t.start
    | .openBracket => element (array fuel depth)
    | .openBrace => element (inlineTable fuel depth)
    | .closeBracket =>
      advance
      return ([], t.stop)
    | .closeBrace => fail (.arrayElement stage) t.start
    | .quoted _ | .atom | .dot => element do return .scalar (← scalar fuel)
    | _ => fail .unclosedArray (← get).behind

/-- Reads an inline table. -/
def inlineTable : Nat → Nat → Parser RawValue
  | 0, _ => do fail .unclosedInlineTable (← peek).start
  | fuel + 1, depth => do
    let t ← peek
    advance
    if depthLimit ≤ depth then throw ⟨.tooDeep, t.start, t.stop⟩
    let (entries, stop) ← tableRest fuel (depth + 1) .key []
    return .table entries ⟨t.start, stop⟩

/-- Reads the entries of an inline table and its closing brace. Answers the offset behind it too. The
key of an entry that is being read is told. -/
def tableRest : Nat → Nat → Stage → List Raw → Parser (List (List Raw × RawValue) × Nat)
  | 0, _, _, _ => do fail .unclosedInlineTable (← get).behind
  | fuel + 1, depth, stage, key => do
    allSilent fuel
    let t ← peek
    let element (read : Parser RawValue) : Parser (List (List Raw × RawValue) × Nat) := do
      let v ← read
      let (entries, stop) ← tableRest fuel depth .separator []
      return ((key, v) :: entries, stop)
    match t.kind with
    | .comma =>
      if stage = .separator then
        advance
        tableRest fuel depth .key []
      else fail (.tableComma stage) t.start
    | .equals =>
      match stage with
      | .key =>
        advance
        tableRest fuel depth .element [.nothing t.start]
      | .assignment =>
        advance
        tableRest fuel depth .element key
      | _ => fail (.tableSecondAssignment stage) t.start
    | .openBracket | .openBrace =>
      match stage with
      | .element => element (if t.kind = .openBracket then array fuel depth else inlineTable fuel depth)
      | .assignment => fail .tableNoAssignment t.start
      | _ => fail (.tableNoKey stage) t.start
    | .closeBracket => fail (.tableElement stage) t.start
    | .closeBrace =>
      match stage with
      | .assignment => fail .tableNoAssignment t.start
      | .element =>
        advance
        return ([(key, .scalar (.nothing t.start))], t.stop)
      | _ =>
        advance
        return ([], t.stop)
    | .quoted _ | .atom | .dot =>
      match stage with
      | .separator => fail .tableSeparator t.start
      | .assignment => fail .tableNoAssignment t.start
      | .element => element do return .scalar (← scalar fuel)
      | .key =>
        let first := (keyPart? t).getD (.nothing t.start)
        if (keyPart? t).isSome then advance
        let (parts, _) ← moreParts fuel
        tableRest fuel depth .assignment (first :: parts)
    | _ => fail .unclosedInlineTable (← get).behind

end

/-- Only blanks and a comment may follow on the line. -/
def lineEnd : Parser Unit := do
  blanks
  let t ← peek
  match t.kind with
  | .comment =>
    checkComment t
    advance
    let t ← peek
    if t.kind = .lineBreak then
      checkLineBreak t
      advance
  | .lineBreak =>
    checkLineBreak t
    advance
  | .finish => pure ()
  | _ => fail .trailing t.start

/-- Leaves out what remains of a line that could not be read. -/
def skipLine : Nat → Parser Unit
  | 0 => pure ()
  | count + 1 => do
    match (← peek).kind with
    | .comment | .lineBreak | .finish => lineEnd
    | _ =>
      advance
      skipLine count

/-- Reads a header. -/
def header (fuel : Nat) : Parser Expression := do
  let opening ← peek
  advance
  let ofArray := (← peek).kind = .openBracket
  if ofArray then advance
  blanks
  let t ← peek
  let (key, complete) ← match keyPart? t with
    | some part => do
      advance
      let (parts, complete) ← moreParts fuel
      pure (part :: parts, complete)
    | none =>
      if t.kind = .dot then do
        let (parts, complete) ← moreParts fuel
        pure (.nothing t.start :: parts, complete)
      else pure ([.nothing t.start], false)
  blanks
  let closing ← peek
  if closing.kind = .closeBracket then
    advance
    if ofArray then
      let second ← peek
      if second.kind = .closeBracket then
        advance
        lineEnd
        return .header true key ⟨opening.start, second.stop⟩
      else fail (.unclosedArrayTable "]") closing.stop
    else
      lineEnd
      return .header false key ⟨opening.start, closing.stop⟩
  else if complete then
    fail (if ofArray then .unclosedArrayTable "]]" else .unclosedTable) (← get).behind
  else
    skipLine fuel
    return .header ofArray key ⟨opening.start, closing.start⟩

/-- Reads an assignment whose first part of the key is told; the sign follows. -/
def assignment (fuel : Nat) (first : Raw) (withoutSign : Cause) : Parser Expression := do
  let (parts, _) ← moreParts fuel
  blanks
  let t ← peek
  if t.kind = .equals then
    advance
    blanks
    let v ← value fuel 0
    lineEnd
    return .assignment (first :: parts) v
  else fail withoutSign t.start

/-- Reads what is left of a document. -/
def expressions : Nat → Parser (List Expression)
  | 0 => return []
  | fuel + 1 => do
    allSilent fuel
    let t ← peek
    match t.kind with
    | .openBracket => return (← header fuel) :: (← expressions fuel)
    | .closeBracket => fail .unopenedTable t.start
    | .quoted _ | .atom =>
      advance
      return (← assignment fuel ((keyPart? t).getD (.nothing t.start)) .noAssignment)
        :: (← expressions fuel)
    | .equals => return (← assignment fuel (.nothing t.start) .noAssignment) :: (← expressions fuel)
    | .dot => return (← assignment fuel (.nothing t.start) .noAssignmentAfterDot) :: (← expressions fuel)
    | .comma | .openBrace | .closeBrace => fail .noKey t.start
    | _ => return []

end Parser

/-- The headers and assignments of a text. -/
def outline (text : List Char) : Except Fault (List Expression) :=
  let tokens := Token.ofText text
  (Parser.expressions (2 * tokens.length + 2) ⟨tokens, 0⟩).map Prod.fst

end Nullability.Toml
