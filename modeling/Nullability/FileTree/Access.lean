import Nullability.FileTree.Basic
import Nullability.FileTree.Path
import Nullability.FileTree.SystemError

/-!
Reading and writing by path. A path is followed name by name from the root or from the current directory;
each name but the last must lead to a directory.
-/

namespace Nullability.FileTree

/-- The steps of a path. A slash at the end asks for a directory. -/
def steps (path : String) : List String :=
  let names := (Path.splitSlashes path.toList).filter (· ≠ [])
  let asked := if path.toList.getLast? = some '/' then names ++ [['.']] else names
  asked.map String.ofList

/-- The greatest size of a name. -/
def nameLimit : Nat := 255

/-- The size that paths must stay below. -/
def pathLimit : Nat := 4096

/-- Whether the system takes no path of this size, whatever it leads to. -/
def isTooLong (path : String) : Bool := pathLimit ≤ path.utf8ByteSize

/-- Follows steps from a place. -/
def follow (t : FileTree) : Location → List String → Except SystemError Location
  | l, [] => .ok l
  | l, step :: rest =>
    match t.get? l with
    | none => .error .notFound
    | some (.file _) => .error .notDirectory
    | some .directory =>
      if step = "." then follow t l rest
      else if step = ".." then follow t l.dropLast rest
      else if nameLimit < step.utf8ByteSize then .error .nameTooLong
      else if (t.get? (l ++ [step])).isNone then .error .notFound
      else follow t (l ++ [step]) rest

/-- The place where a path starts. -/
def origin (cwd : Location) (path : String) : Location := if Path.isAbsolute path then [] else cwd

/-- Why a text is no path at all. -/
def pathFault? (path : String) : Option SystemError :=
  if path.toList.contains '\x00' then some .nulInPath
  else if path.isEmpty then some .notFound
  else if pathLimit ≤ path.utf8ByteSize then some .nameTooLong
  else none

/-- The place that a path leads to. -/
def locate (t : FileTree) (cwd : Location) (path : String) : Except SystemError Location :=
  match pathFault? path with
  | some fault => .error fault
  | none => t.follow (origin cwd path) (steps path)

def exists? (t : FileTree) (cwd : Location) (path : String) : Bool :=
  match t.locate cwd path with
  | .ok l => (t.get? l).isSome
  | .error _ => false

/-- The text of a file. -/
def readText (t : FileTree) (cwd : Location) (path : String) : Except SystemError String :=
  match t.locate cwd path with
  | .error fault => .error fault
  | .ok l =>
    match t.get? l with
    | none => .error .notFound
    | some .directory => .error .isDirectory
    | some (.file content) =>
      match String.fromUTF8? content with
      | some text => .ok text
      | none => .error .notText

/-- Writes a text to a file, which is made if it does not exist. -/
def writeText (t : FileTree) (cwd : Location) (path text : String) : Except SystemError FileTree :=
  match pathFault? path, (steps path).getLast? with
  | some fault, _ => .error fault
  | none, none => .error .isDirectory
  | none, some name =>
    match t.follow (origin cwd path) (steps path).dropLast with
    | .error fault => .error fault
    | .ok directory =>
      match t.get? directory with
      | none => .error .notFound
      | some (.file _) => .error .notDirectory
      | some .directory =>
        if name = "." ∨ name = ".." then .error .isDirectory
        else if nameLimit < name.utf8ByteSize then .error .nameTooLong
        else if t.isDirectory (directory ++ [name]) then .error .isDirectory
        else .ok (t.insert (directory ++ [name]) (.file text.toUTF8))

end Nullability.FileTree
