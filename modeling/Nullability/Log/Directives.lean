import Nullability.Log.Basic
import Nullability.Text.Pieces
import Nullability.Text.Blank

/-!
Which log lines are shown. A directive names a part of the program and the level that its lines must
reach; the directive with the longest name that fits decides.
-/

namespace Nullability.Log

/-- The level up to which the lines of a part are shown; without a name, those of every part. -/
structure Directive where
  name : Option String
  /-- The rank of the level; nothing is shown at none. -/
  rank : Nat
  deriving DecidableEq, Repr

/-- Directives in order, and a text that lines must contain if there is one. -/
structure Directives where
  all : List Directive
  containing : Option String
  deriving DecidableEq, Repr

namespace Directives

def ofLevel (l : Level) : Directives := ⟨[⟨none, l.rank⟩], none⟩

/-- Puts a directive in, instead of the one with the same name. -/
def insert (ds : List Directive) (d : Directive) : List Directive :=
  if ds.any (·.name == d.name) then ds.map fun e => if e.name == d.name then d else e else ds ++ [d]

/-- The rank that a word names, in capitals or not. -/
def rankOf (word : String) : Option Nat :=
  ["OFF", "ERROR", "WARN", "INFO", "DEBUG", "TRACE"].findIdx? (· == word.map Char.toUpper)

private def greatestRank : Nat := Level.trace.rank

private def trim (cs : List Char) : List Char :=
  ((cs.dropWhile Text.isWhiteSpace).reverse.dropWhile Text.isWhiteSpace).reverse

/-- The directive that a text is; an empty text is none. -/
def ofPiece (piece : List Char) : Except String (Option Directive) :=
  if piece.isEmpty then .ok none
  else
    match (Text.pieces '=' piece).map String.ofList with
    | [word] =>
      match rankOf word with
      | some rank => .ok (some ⟨none, rank⟩)
      | none => .ok (some ⟨some word, greatestRank⟩)
    | [name, word] =>
      let word := String.ofList (trim word.toList)
      if word.isEmpty then .ok (some ⟨some name, greatestRank⟩)
      else
        match rankOf word with
        | some rank => .ok (some ⟨some name, rank⟩)
        | none => .error ("invalid logging spec '" ++ word ++ "'")
    | _ => .error ("invalid logging spec '" ++ String.ofList piece ++ "'")

/-- Takes the directives of pieces in, and answers what is wrong with them. -/
def insertPieces (ds : List Directive) : List (List Char) → List Directive × List String
  | [] => (ds, [])
  | piece :: rest =>
    match ofPiece (trim piece) with
    | .ok none => insertPieces ds rest
    | .ok (some d) => insertPieces (insert ds d) rest
    | .error fault =>
      let (ds, faults) := insertPieces ds rest
      (ds, fault :: faults)

/-- Takes the directives of a text in, and answers what is wrong with it. -/
def insertText (ds : Directives) (text : String) : Directives × List String :=
  match Text.pieces '/' text.toList with
  | [parts] =>
    let (all, faults) := insertPieces ds.all (Text.pieces ',' parts)
    (⟨all, none⟩, faults)
  | [parts, containing] =>
    let (all, faults) := insertPieces ds.all (Text.pieces ',' parts)
    (⟨all, some (String.ofList containing)⟩, faults)
  | _ => (⟨ds.all, none⟩, ["invalid logging spec '" ++ text ++ "' (too many '/'s)"])

/-- The size of a directive's name. -/
def nameSize (d : Directive) : Nat := (d.name.map String.utf8ByteSize).getD 0

/-- Whether a line of a part is shown at a level. -/
def enables (ds : List Directive) (l : Level) (part : String) : Bool :=
  let bySize := ds.mergeSort fun d e => nameSize d ≤ nameSize e
  let fits (d : Directive) : Bool := (d.name.map fun n => n.toList.isPrefixOf part.toList).getD true
  match bySize.reverse.find? fits with
  | some d => l.rank ≤ d.rank
  | none => false

/-- Whether a text holds another. -/
def holds (word : List Char) : List Char → Bool
  | [] => word.isEmpty
  | c :: cs => word.isPrefixOf (c :: cs) || holds word cs

def shows (ds : Directives) (e : Entry) : Bool :=
  enables ds.all e.level e.topic.path
    && ((ds.containing.map fun word => holds word.toList e.text.toList).getD true)

end Directives

/-- The control sequence in which a level is shown. -/
def Level.colour : Level → String
  | .error => "\x1b[1m\x1b[31m"
  | .warn => "\x1b[33m"
  | .info => "\x1b[32m"
  | .debug => "\x1b[34m"
  | .trace => "\x1b[36m"

/-- The text of a line; the level fills five places. -/
def Entry.render (colour : Bool) (e : Entry) : String :=
  let level := e.level.name ++ "".pushn ' ' (5 - e.level.name.length)
  let shade (start text : String) : String := if colour then start ++ text ++ "\x1b[0m" else text
  shade "\x1b[90m" "[" ++ shade e.level.colour level ++ " " ++ e.topic.path ++ shade "\x1b[90m" "]" ++ " "
    ++ e.text ++ "\n"

end Nullability.Log
