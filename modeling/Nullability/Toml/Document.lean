import Nullability.Toml.Scalar

/-!
TOML documents. A document is a table of values that keep their places in the text. Headers and dotted
keys make the tables that they lead through; what has been defined in one way cannot be defined or
extended in another.
-/

namespace Nullability.Toml

/-- How a table came to be. -/
structure Origin where
  /-- No header and no braces: a longer key leads through it. -/
  isImplicit : Bool
  /-- A dotted key of an assignment leads through it. -/
  isDotted : Bool
  /-- In braces. -/
  isInline : Bool
  deriving DecidableEq, Repr

/-- A value with its place. -/
inductive Node
  | scalar (s : Scalar) (span : Span)
  /-- An array; one made by headers can be extended. -/
  | array (ofHeaders : Bool) (elements : List Node) (span : Span)
  | table (origin : Origin) (entries : List (String × Node)) (span : Span)

namespace Node

def span : Node → Span
  | scalar _ s => s
  | array _ _ s => s
  | table _ _ s => s

/-- How messages name a type of values. -/
def typeName : Node → String
  | scalar (.string _) _ => "string"
  | scalar (.whole _) _ => "integer"
  | scalar (.float _) _ => "float"
  | scalar .tooLarge _ => "float"
  | scalar (.truth _) _ => "boolean"
  | scalar .dateTime _ => "datetime"
  | array _ _ _ => "array"
  | table _ _ _ => "table"

end Node

/-- A part of a key: its name and its place. -/
structure Key where
  name : String
  span : Span

/-- The entries of a table and how it came to be. -/
structure Table where
  origin : Origin
  entries : List (String × Node)

namespace Table

/-- A table that a header or the document itself defines. -/
def defined : Origin := ⟨false, false, false⟩

/-- A table in braces. -/
def inlined : Origin := ⟨false, false, true⟩

def empty : Table := ⟨defined, []⟩

/-- Puts an entry in the place of one of the same name, or behind the others. -/
def put (t : Table) (name : String) (v : Node) : Table :=
  if t.entries.any (·.1 == name) then
    { t with entries := t.entries.map fun e => if e.1 == name then (name, v) else e }
  else { t with entries := t.entries ++ [(name, v)] }

def erase (t : Table) (name : String) : Table :=
  { t with entries := t.entries.filter (·.1 != name) }

def find? (t : Table) (name : String) : Option Node := t.entries.lookup name

variable {α : Type}

/-- Changes the table that a path leads to. Tables that are missing on the way are made; of an array of
tables the last one is meant. -/
def within (dotted : Bool) (change : Table → Except Fault (Table × α)) :
    List Key → Table → Except Fault (Table × α)
  | [], t => change t
  | k :: path, t =>
    match t.find? k.name with
    | none => do
      let (inner, a) ← within dotted change path ⟨⟨true, dotted, false⟩, []⟩
      return (t.put k.name (.table inner.origin inner.entries k.span), a)
    | some (.table origin entries span) =>
      if origin.isInline then .error ⟨.extends_ "inline table", k.span⟩
      else if dotted && !origin.isImplicit then .error ⟨.duplicate, k.span⟩
      else do
        let (inner, a) ← within dotted change path ⟨origin, entries⟩
        return (t.put k.name (.table inner.origin inner.entries span), a)
    | some (.array true elements span) =>
      match elements.reverse with
      | .table origin entries place :: before => do
        let (inner, a) ← within dotted change path ⟨origin, entries⟩
        return (t.put k.name
          (.array true (before.reverse ++ [.table inner.origin inner.entries place]) span), a)
      | _ => .error ⟨.extends_ "array", k.span⟩
    | some other => .error ⟨.extends_ other.typeName, k.span⟩

/-- Adds an entry under a key. -/
def assign (t : Table) (path : List Key) (k : Key) (v : Node) : Except Fault Table := do
  let dotted := !path.isEmpty
  let (t, _) ← within dotted (fun parent =>
    if parent.origin.isDotted != dotted then .error ⟨.duplicate, k.span⟩
    else if (parent.find? k.name).isSome then .error ⟨.duplicate, k.span⟩
    else .ok (parent.put k.name v, ())) path t
  return t

end Table

/-- The parts of a key before the last one, and the last one. -/
def keyOfRaw (raws : List Raw) : Except Fault (List Key × Key) := do
  let keys ← raws.mapM fun r => return (⟨← r.key, r.span⟩ : Key)
  match keys.reverse with
  | last :: before => return (before.reverse, last)
  | [] => .error ⟨.emptyKey, .at 0⟩

mutual

/-- What a value means. -/
def RawValue.node : RawValue → Except Fault Node
  | .scalar r => do return .scalar (← r.meaning) r.span
  | .array elements span => do return .array false (← RawValue.nodes elements) span
  | .table entries span => do
    let t ← RawValue.fill entries ⟨Table.inlined, []⟩
    return .table t.origin t.entries span

def RawValue.nodes : List RawValue → Except Fault (List Node)
  | [] => .ok []
  | v :: rest => do
    let n ← RawValue.node v
    return n :: (← RawValue.nodes rest)

/-- Adds the entries of a table in braces one by one. -/
def RawValue.fill : List (List Raw × RawValue) → Table → Except Fault Table
  | [], t => .ok t
  | (key, v) :: rest, t => do
    let (path, k) ← keyOfRaw key
    let n ← RawValue.node v
    let t ← t.assign path k n
    RawValue.fill rest t

end

/-- A header that has been read. -/
structure Header where
  ofArray : Bool
  path : List Key
  key : Key
  span : Span

/-- A document while it is read: the tables that are complete, and the one being filled with the header
that opened it. -/
structure Draft where
  root : Table
  current : Table
  header : Option Header

namespace Draft

def start : Draft := ⟨.empty, .empty, none⟩

/-- Puts the table being filled in its place. -/
def close (d : Draft) : Except Fault Table :=
  match d.header with
  | none => .ok d.current
  | some h => do
    let table := Node.table d.current.origin d.current.entries h.span
    let (root, _) ← Table.within false (fun parent =>
      if h.ofArray then
        match parent.find? h.key.name with
        | none => .ok (parent.put h.key.name (.array true [table] h.span), ())
        | some (.array true elements span) =>
          .ok (parent.put h.key.name (.array true (elements ++ [table]) span), ())
        | some _ => .error ⟨.duplicate, h.key.span⟩
      else .ok (parent.put h.key.name table, ())) h.path d.root
    return root

/-- Opens the table of a header. One that longer headers have led through is gone on with. -/
def open_ (root : Table) (h : Header) : Except Fault Draft :=
  if h.ofArray then .ok ⟨root, .empty, some h⟩
  else do
    let (root, current) ← Table.within false (fun parent =>
      match parent.find? h.key.name with
      | none => .ok (parent, Table.empty)
      | some (.table origin entries _) =>
        if origin.isImplicit && !origin.isDotted then
          .ok (parent.erase h.key.name, ⟨Table.defined, entries⟩)
        else .error ⟨.duplicate, h.key.span⟩
      | some _ => .error ⟨.duplicate, h.key.span⟩) h.path root
    return ⟨root, current, some h⟩

/-- Takes in a header or an assignment. -/
def add (d : Draft) : Expression → Except Fault Draft
  | .header ofArray key span => do
    let root ← d.close
    let (path, k) ← keyOfRaw key
    open_ root ⟨ofArray, path, k, span⟩
  | .assignment key v => do
    let (path, k) ← keyOfRaw key
    let n ← v.node
    return { d with current := ← d.current.assign path k n }

end Draft

/-- The table that a text means, with the text as its place. -/
def parse (text : List Char) : Except Fault Node := do
  let expressions ← outline text
  let draft ← expressions.foldlM Draft.add .start
  let root ← draft.close
  return .table root.origin root.entries ⟨0, text.length⟩

end Nullability.Toml
