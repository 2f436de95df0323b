import Nullability.Syntax.Fault
import Nullability.Syntax.Node

/-!
Parsers over token trees. A parser reads from the front of the innermost open group. A group that is
left before its end is not refused at once: the first such place is remembered and reported when the
whole text has been read without another fault. The parsers here read single tokens, groups and lists;
each that looks ahead without reading has `Cursor` in its type.
-/

namespace Nullability.Syntax

/-- The group that is being read: its bracket and where it closes, unknown for the text as a whole. -/
structure Enclosure where
  delimiter : Option Delimiter
  close : Option Mark

/-- What a parser has still to read and what it remembers. -/
structure Reading where
  rest : Cursor
  /-- The first token that a group was left at before its end, with the group's bracket. -/
  leftover : Option (Mark × Option Delimiter)
  /-- Whether the token read last is a group in braces. -/
  afterBrace : Bool

abbrev Parser := ReaderT Enclosure (StateT Reading (Except Fault))

namespace Parser

variable {α β σ : Type}

def cursor : Parser Cursor := do return (← get).rest

def moveTo (rest : Cursor) : Parser Unit := modify fun r => { r with rest, afterBrace := false }

def atEnd : Parser Bool := do return (← get).rest.isEmpty

/-- Where the next token begins, or the group closes if there is none. -/
def here : Parser (Option Mark) := do
  match (← get).rest with
  | t :: _ => return some t.start
  | [] => return (← read).close

/-- Refuses the text at a given place. -/
def failAt (place : Option Mark) (c : Complaint) : Parser α :=
  throw ⟨c, false, place⟩

/-- Refuses the next token, or the end of the group if there is none. -/
def fail (c : Complaint) : Parser α := do
  throw ⟨c, (← get).rest.isEmpty, ← here⟩

/-- Refuses what stands here in place of the named tokens, of which those that do stand here are not
named. -/
def failExpecting (expected : List Expected) : Parser α := do
  let ts ← cursor
  let missing := expected.filter fun e => !e.standsAt ts
  match missing with
  | [] => throw ⟨.oneOf [], ts.isEmpty, ← here⟩
  | _ => fail (.oneOf missing)

/-- Runs a parser and takes everything back if it refuses. -/
def attempt (p : Parser α) : Parser (Option α) := fun e r =>
  match p e r with
  | .ok (a, r') => .ok (some a, r')
  | .error _ => .ok (none, r)

/-- Runs a parser for its answer only. -/
def ahead (p : Parser α) : Parser α := fun e r =>
  match p e r with
  | .ok (a, _) => .ok (a, r)
  | .error f => .error f

/-- Reads punctuation characters that follow each other without a blank. -/
def punct (text : String) : Parser Unit := do
  match (← cursor).afterChars text.toList with
  | some rest => moveTo rest
  | none => failAt (← here) (.token text)

/-- Reads punctuation if it stands here, and tells whether it did. -/
def punct? (text : String) : Parser Bool := do
  match (← cursor).afterChars text.toList with
  | some rest => moveTo rest; return true
  | none => return false

def word (text : String) : Parser Unit := do
  match ← cursor with
  | .ident found _ :: rest => if found == text then moveTo rest else fail (.token text)
  | _ => fail (.token text)

def word? (text : String) : Parser Bool := do
  if (← cursor).isWord text then word text; return true else return false

/-- Reads an identifier or a reserved word, with its place. -/
def anyIdent : Parser (String × Mark) := do
  match ← cursor with
  | .ident text m :: rest => moveTo rest; return (text, m)
  | _ => fail .anyIdentifier

/-- Reads an identifier that is no reserved word, with its place. -/
def ident : Parser (String × Mark) := do
  match ← cursor with
  | .ident text m :: rest =>
    if reservedWords.contains text then fail (.reserved text) else moveTo rest; return (text, m)
  | _ => fail .identifier

/-- Reads a lifetime and answers the place of its name. -/
def lifetime : Parser Mark := do
  match ← cursor with
  | .punct '\'' true _ :: .ident _ m :: rest => moveTo rest; return m
  | _ => fail .lifetime

def lifetime? : Parser Bool := do
  if (← cursor).isLifetime then let _ ← lifetime; return true else return false

/-- Reads a literal of any kind. -/
def literal : Parser Unit := do
  match (← cursor).literal? with
  | some (_, _, rest) => moveTo rest
  | none => fail .literal

/-- Reads a group whole with a parser for its content. What the parser leaves is remembered. -/
def group (d : Delimiter) (content : Parser α) : Parser α := fun e r =>
  match r.rest with
  | .group d' inner _ stop :: rest =>
    if d' = d then
      match content ⟨some d, some stop⟩ { r with rest := inner } with
      | .error f => .error f
      | .ok (a, r') =>
        let leftover := r'.leftover <|> r'.rest.head?.map fun t => (t.start, some d)
        .ok (a, ⟨rest, leftover, d == .brace⟩)
    else fail (.group d) e r
  | _ => fail (.group d) e r

/-- Reads a group of any kind without looking into it, and answers its bracket. -/
def anyGroup : Parser Delimiter := do
  match ← cursor with
  | .group d _ _ _ :: rest =>
    modify fun r => { r with rest, afterBrace := d == .brace }
    return d
  | _ => fail .anyGroup

/-- Leaves out what remains of the group. -/
def skipRest : Parser Unit := moveTo []

/-- Repeats a step until it answers a result. The count bounds the steps; one step for each token that
is left, and one more, is enough when every step but the last reads a token. -/
def loop (step : σ → Parser (σ ⊕ β)) : Nat → σ → Parser β
  | 0, _ => fail (.oneOf [])
  | count + 1, s => do
    match ← step s with
    | .inl s' => loop step count s'
    | .inr b => return b

def iterate (start : σ) (step : σ → Parser (σ ⊕ β)) : Parser β := do
  loop step ((← cursor).length + 2) start

/-- Reads constructs as long as the condition holds on what is left. -/
def whileTrue (condition : Cursor → Bool) (item : Parser α) : Parser (List α) :=
  iterate [] fun done => do
    if condition (← cursor) then return .inl ((← item) :: done) else return .inr done.reverse

/-- Reads the constructs that fill the rest of the group. -/
def untilEnd (item : Parser α) : Parser (List α) :=
  whileTrue (!·.isEmpty) item

/-- Reads constructs with separators between them up to where `stop` holds; a separator may also stand
after the last one. -/
def separated (separator : String) (stop : Cursor → Bool) (item : Parser α) : Parser (List α) :=
  iterate [] fun done => do
    if stop (← cursor) then return .inr done.reverse
    let a ← item
    if stop (← cursor) then return .inr (a :: done).reverse
    punct separator
    return .inl (a :: done)

/-- Reads constructs with commas between them that fill the rest of the group. -/
def commaList (item : Parser α) : Parser (List α) :=
  separated "," List.isEmpty item

/-- Reads constructs with separators between them for as long as a separator follows, or up to where
`stop` holds. -/
def joined (separator : String) (stop : Cursor → Bool) (item : Parser α) : Parser (List α) :=
  iterate [] fun done => do
    if stop (← cursor) then return .inr done.reverse
    let a ← item
    if ← punct? separator then return .inl (a :: done)
    return .inr (a :: done).reverse

/-- Runs a parser if the condition holds on what is left. -/
def whenNext (condition : Cursor → Bool) (p : Parser α) : Parser (Option α) := do
  if condition (← cursor) then return some (← p) else return none

end Parser

end Nullability.Syntax
