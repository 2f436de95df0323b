import Nullability.FileTree.Access
import Nullability.Ignore.Rules
import Nullability.TakeThrough

/-!
Finding source files below a directory. An entry is skipped, with everything below it, if the ignore rules
say so, if its name starts with a dot and no rule takes it in, or if its name is that of the build
directory. A search ends at the first directory that it comes to and cannot read because of the size of its
path. Of the rules that hold for a whole user or a whole machine, and of repositories that keep their data
elsewhere, nothing is known here.
-/

namespace Nullability

open Ignore

/-- Why a search found nothing. -/
inductive SearchFault
  /-- What a path leads to cannot be read. -/
  | unreachable (path : String) (cause : SystemError)
  /-- Rule files above the directory have lines that are no rules. -/
  | rules (complaints : List String)
  deriving DecidableEq, Repr

def SearchFault.message : SearchFault → String
  | unreachable path cause => path ++ ": IO error for operation on " ++ path ++ ": " ++ cause.message
  | rules complaints => "\n".intercalate complaints

namespace FileTree

/-- A directory whose rule files apply, with the text of its path. -/
structure Level where
  text : String
  location : Location
  deriving DecidableEq, Repr

namespace Level

def ignoreFile : List String := [".ignore"]

def gitIgnoreFile : List String := [".gitignore"]

def excludeFile : List String := [".git", "info", "exclude"]

/-- The rule files of a directory. -/
def ruleFiles : List (List String) := [ignoreFile, gitIgnoreFile, excludeFile]

/-- The path of what names lead to from the directory. -/
def pathOf (l : Level) (names : List String) : String := names.foldl Path.join l.text

/-- What names lead to from the directory; nothing, if the system does not take the path. -/
def get? (t : FileTree) (l : Level) (names : List String) : Option Entry :=
  if isTooLong (l.pathOf names) then none else t.get? (l.location ++ names)

/-- The rules of a file of the directory. -/
def rules (t : FileTree) (l : Level) (file : List String) : RuleFile :=
  match l.get? t file with
  | some (.file content) => RuleFile.ofBytes content
  | _ => .empty

/-- Whether the directory is a repository. -/
def isRepository (t : FileTree) (l : Level) : Bool :=
  (l.get? t [".git"]).isSome || (l.get? t [".jj"]).isSome

/-- A path without a dot and a slash at its start. -/
def dropHere : List Char → List Char
  | '.' :: '/' :: rest => rest
  | path => path

def dropSlash : List Char → List Char
  | '/' :: rest => rest
  | path => path

/-- Whether a path is the current directory, written with dots and slashes. -/
def isHere (path : List Char) : Bool :=
  let p := Path.ofChars path
  p.start = .here && p.names.isEmpty

/-- A path without the path of a directory at its start; a path without slashes stays whole. -/
def below (directory path : List Char) : List Char :=
  let base := dropHere directory
  let path := dropHere path
  if isHere base || !path.contains '/' || !base.isPrefixOf path then path
  else dropSlash (path.drop base.length)

/-- What a rule file of the directory says about a path. -/
def verdict? (t : FileTree) (l : Level) (file : List String) (path : List Char) (isDirectory : Bool) :
    Option Verdict :=
  (l.rules t file).verdict? (String.ofList (below l.text.toList path)) isDirectory

/-- What is wrong with the rule files of the directory. -/
def complaints (t : FileTree) (l : Level) : List String :=
  ruleFiles.flatMap fun file => (l.rules t file).complaints (l.pathOf file)

end Level

/-- The directory in which a search starts. -/
structure SearchRoot where
  text : String
  location : Location
  deriving DecidableEq, Repr

namespace SearchRoot

/-- The path of what names lead to from the root of the search. -/
def pathOf (r : SearchRoot) (names : List String) : String := names.foldl Path.join r.text

/-- The directory that names lead to. -/
def levelOf (r : SearchRoot) (names : List String) : Level := ⟨r.pathOf names, r.location ++ names⟩

/-- The directories from the one that names lead to up to the root of the search. -/
def innerLevels (r : SearchRoot) (names : List String) : List Level :=
  ((List.range (names.length + 1)).reverse.map names.take).map r.levelOf

/-- The directories above the root of the search, the nearest first. A search knows them by the absolute path
of its root, and knows none if the system does not take that path. -/
def outerLevels (r : SearchRoot) : List Level :=
  if isTooLong (Location.text r.location) then []
  else ((List.range r.location.length).reverse.map r.location.take).map fun l => ⟨Location.text l, l⟩

/-- The absolute path of an entry. -/
def absolute (r : SearchRoot) (path : List Char) : List Char :=
  let path := Level.dropHere path
  let base := Level.dropHere r.text.toList
  let relative :=
    if Level.isHere r.text.toList || !base.isPrefixOf path then path
    else Level.dropSlash (path.drop base.length)
  (Path.join (Location.text r.location) (String.ofList relative)).toList

/-- The directories whose rules apply to what names lead to, the nearest first, each with the path of the
entry as it is matched there. -/
def levels (r : SearchRoot) (names : List String) : List (Level × List Char) :=
  let path := (r.pathOf names).toList
  (r.innerLevels names.dropLast).map (·, Level.dropHere path) ++ r.outerLevels.map (·, r.absolute path)

end SearchRoot

/-- What the ignore rules say about what names lead to. The rules of a repository apply up to its own
directory, and only within a repository. -/
def verdict? (t : FileTree) (r : SearchRoot) (names : List String) (isDirectory : Bool) : Option Verdict :=
  let levels := r.levels names
  let ask (file : List String) (levels : List (Level × List Char)) : Option Verdict :=
    levels.findSome? fun (l, path) => l.verdict? t file path isDirectory
  let isRepository (p : Level × List Char) : Bool := p.1.isRepository t
  let inRepository := if levels.any isRepository then takeThrough isRepository levels else []
  ask Level.ignoreFile levels <|> ask Level.gitIgnoreFile inRepository
    <|> ask Level.excludeFile inRepository

def isHidden (name : String) : Bool := name.toList.head? = some '.'

/-- The name of the directories that hold what builds leave. -/
def buildDirectory : String := "target"

/-- Whether a search skips what names lead to. -/
def isSkipped (t : FileTree) (r : SearchRoot) (names : List String) (isDirectory : Bool) : Bool :=
  let name := names.getLastD ""
  match t.verdict? r names isDirectory with
  | some .ignored => true
  | some .takenIn => name = buildDirectory
  | none => isHidden name || name = buildDirectory

/-- What a search comes to by one entry of a directory, given what it comes to below a directory. Names lead
from the root of the search to the directory, and to each entry that the search comes to. A search comes to
a directory before it enters it, and enters none that it skips. -/
def visit (t : FileTree) (r : SearchRoot) (below : List String → List (List String × Entry))
    (names : List String) : String × Entry → List (List String × Entry)
  | (name, e) =>
    let here := names ++ [name]
    if t.isSkipped r here e.isDirectory then []
    else (here, e) :: if e.isDirectory then below here else []

/-- The entries that a search comes to in a directory and below it, in the order in which directories list
their entries and no further down than the given number of names. -/
def walk (t : FileTree) (r : SearchRoot) : Nat → List String → List (List String × Entry)
  | 0, _ => []
  | depth + 1, names => (t.listing (r.location ++ names)).flatMap (t.visit r (walk t r depth) names)

/-- Whether a name is that of a source file. -/
def isSourceName (name : String) : Bool := (Path.ofText name).extension? = some ['r', 's']

namespace SearchRoot

/-- Whether what a search comes to is a source file. A path that the system does not take leads to no file. -/
def isSource (r : SearchRoot) : List String × Entry → Bool
  | (names, e) => !e.isDirectory && isSourceName (names.getLastD "") && !isTooLong (r.pathOf names)

/-- Why a search ends at what it comes to: it is a directory, and the system does not take its path. -/
def fault? (r : SearchRoot) : List String × Entry → Option SearchFault
  | (names, e) =>
    if e.isDirectory && isTooLong (r.pathOf names) then some (.unreachable (r.pathOf names) .nameTooLong)
    else none

end SearchRoot

/-- The paths of the source files that a search comes to, in the order of paths. -/
def sourcesBelow (t : FileTree) (r : SearchRoot) : Except SearchFault (List String) :=
  let entries := t.walk r t.height []
  match entries.findSome? r.fault? with
  | some fault => .error fault
  | none =>
    .ok (((entries.filter r.isSource).map fun e => r.pathOf e.1).mergeSort fun p q =>
      (Path.ofText p).le (Path.ofText q))

/-- Whether the root of a search stands for what is given on standard input, in which there are no files. -/
def isStandardInput (root : String) : Bool :=
  let p := Path.ofText root
  p.start = .relative && p.names = [['-']]

/-- The source files at or below a path. A path that leads to a file stands for itself. -/
def sources (t : FileTree) (cwd : Location) (root : String) : Except SearchFault (List String) :=
  let place := t.locate cwd root
  if place.toOption.any t.isFile then .ok [root]
  else if isStandardInput root then .ok []
  else
    match place with
    | .error cause => .error (.unreachable root cause)
    | .ok l =>
      let r : SearchRoot := ⟨root, l⟩
      match r.outerLevels.reverse.flatMap (·.complaints t) with
      | [] => t.sourcesBelow r
      | complaints => .error (.rules complaints)

end FileTree

end Nullability
