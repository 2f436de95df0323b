import Nullability.Text.ByName
import Nullability.Text.Pieces

/-!
Path texts. A path is taken apart into what it starts from and the segments behind that; empty segments
and inner segments of one dot name nothing. `parent?` drops the last segment that names something,
together with the ones behind it and the ones just before it that name nothing, so a parent is always
the beginning of the path's own text.
-/

namespace Nullability

/-- What a path starts from: the root, the current directory written as a dot, or neither. -/
inductive PathStart
  | root | here | relative
  deriving DecidableEq, Repr

namespace PathStart

def text : PathStart → List Char
  | root => ['/']
  | here => ['.']
  | relative => []

end PathStart

/-- A path taken apart. The segments are separated by slashes. -/
structure Path where
  start : PathStart
  segments : List (List Char)
  deriving DecidableEq, Repr

namespace Path

/-- The pieces of a text between its slashes. -/
def splitSlashes (text : List Char) : List (List Char) := Text.pieces '/' text

/-- Pieces with slashes between them. -/
def joinSlashes (pieces : List (List Char)) : List Char := Text.joinPieces '/' pieces

theorem joinSlashes_nothing : joinSlashes [[]] = [] := rfl

theorem joinSlashes_splitSlashes (cs : List Char) : joinSlashes (splitSlashes cs) = cs :=
  Text.joinPieces_pieces '/' cs

def ofChars : List Char → Path
  | '/' :: rest => ⟨.root, splitSlashes rest⟩
  | ['.'] => ⟨.here, [[]]⟩
  | '.' :: '/' :: rest => ⟨.here, splitSlashes ('/' :: rest)⟩
  | text => ⟨.relative, splitSlashes text⟩

def chars (p : Path) : List Char := p.start.text ++ joinSlashes p.segments

/-- Taking a text apart loses nothing. -/
theorem chars_ofChars (text : List Char) : (ofChars text).chars = text := by
  unfold ofChars
  split <;> simp [chars, PathStart.text, joinSlashes_splitSlashes, joinSlashes_nothing]

def ofText (text : String) : Path := ofChars text.toList

def text (p : Path) : String := String.ofList p.chars

/-- Whether a segment names nothing. -/
def isBlankSegment (segment : List Char) : Bool := segment == [] || segment == ['.']

/-- The segments that name something. -/
def names (p : Path) : List (List Char) := p.segments.filter (!isBlankSegment ·)

/-- The number of components: the names and a dot at the start. The root is not counted. -/
def size (p : Path) : Nat := p.names.length + if p.start = .here then 1 else 0

/-- Segments, last first, without the ones at the front that name nothing. -/
def dropBlank (segments : List (List Char)) : List (List Char) := segments.dropWhile isBlankSegment

/-- The path without its last component; the root and the empty path have none. -/
def parent? (p : Path) : Option Path :=
  match dropBlank p.segments.reverse with
  | _ :: before => some ⟨p.start, (dropBlank before).reverse⟩
  | [] => if p.start = .here then some ⟨.relative, []⟩ else none

/-- The path and the chain of its parents, at most the given number. -/
def ancestorsFrom : Nat → Path → List Path
  | 0, _ => []
  | count + 1, p =>
    p :: match p.parent? with
      | some parent => ancestorsFrom count parent
      | none => []

/-- The path and its parents, at most the given number; there are no more than it has components,
itself counted apart. -/
def ancestors (p : Path) (limit : Nat) : List Path := ancestorsFrom (min limit (p.size + 1)) p

/-- The last component, if it is a name. -/
def fileName? (p : Path) : Option (List Char) :=
  match dropBlank p.segments.reverse with
  | name :: _ => if name = ['.', '.'] then none else some name
  | [] => none

/-- What follows the last dot of the file name, if something precedes the dot. -/
def extension? (p : Path) : Option (List Char) := do
  let name ← p.fileName?
  let after := name.reverse.takeWhile (· != '.')
  let before := name.reverse.drop (after.length + 1)
  if before.isEmpty then none else some after.reverse

/-- Whether a path starts at the root. -/
def isAbsolute (path : String) : Bool := path.toList.head? = some '/'

/-- One path under another: an absolute path stands for itself. -/
def join (base name : String) : String :=
  if isAbsolute name then name
  else if base.isEmpty || base.toList.getLast? = some '/' then base ++ name
  else base ++ "/" ++ name

/-- The rank of a component in the order of paths. -/
def componentRank (name : List Char) : Nat := if name = ['.', '.'] then 0 else 1

def startRank : PathStart → Nat
  | .root => 0
  | .here => 1
  | .relative => 2

/-- Whether a list of components does not come after another, component by component. -/
def namesLe : List (List Char) → List (List Char) → Bool
  | [], _ => true
  | _ :: _, [] => false
  | a :: as, b :: bs =>
    if a = b then namesLe as bs
    else if componentRank a ≠ componentRank b then componentRank a < componentRank b
    else Text.charsLe a b

/-- The order of paths: the start first, then the components one by one. -/
def le (p q : Path) : Bool :=
  if p.start = q.start then namesLe p.names q.names
  else
    match p.start, q.start with
    | .relative, .here => p.names = []
    | .here, .relative => q.names ≠ []
    | .relative, .root => p.names = []
    | .root, .relative => q.names ≠ []
    | a, b => startRank a < startRank b

end Path

end Nullability
