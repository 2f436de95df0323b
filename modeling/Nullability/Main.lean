import Nullability.Program

/-!
The command line: what it needs of the file system is read into a file tree, the program runs on that,
and what it leaves is written out.
-/

namespace Nullability.Snapshot

/-- The names of the files that are read wherever they are. -/
def ruleNames : List String := [Config.fileName, ".ignore", ".gitignore"]

/-- Reads what is at a place. The content of a file is read only if it is asked for. -/
def readEntry (t : FileTree) (l : Location) (content : Bool) : IO FileTree := do
  if l.isEmpty then return t
  let path := (← IO.currentDir) / FileTree.Location.text l
  if ← path.isDir then return t.insert l .directory
  if !(← path.pathExists) then return t
  if !content then return t.insert l (.file .empty)
  return t.insert l (.file (← IO.FS.readBinFile path))

/-- Reads the files that rule a directory. -/
def readRules (t : FileTree) (l : Location) : IO FileTree := do
  let mut t := t
  for name in ruleNames do t ← readEntry t (l ++ [name]) true
  for name in [".git", ".jj"] do t ← readEntry t (l ++ [name]) false
  readEntry t (l ++ [".git", "info", "exclude"]) true

/-- Reads the directories from the root to a place, with the files that rule them. -/
def readAlong (t : FileTree) (l : Location) : IO FileTree := do
  let mut t ← readRules t []
  for n in List.range l.length do
    t ← readEntry t (l.take (n + 1)) true
    if t.isDirectory (l.take (n + 1)) then t ← readRules t (l.take (n + 1))
  return t

/-- Reads everything below a directory. -/
partial def readBelow (t : FileTree) (l : Location) : IO FileTree := do
  let mut t ← readRules t l
  for e in ← ((← IO.currentDir) / FileTree.Location.text l).readDir do
    let at_ := l ++ [e.fileName]
    t ← readEntry t at_ (FileTree.isSourceName e.fileName)
    if t.isDirectory at_ then t ← readBelow t at_
  return t

/-- The places that a path passes, the one it leads to last. -/
def passes (cwd : Location) (path : String) : List Location :=
  let go (acc : List Location × Location) (step : String) : List Location × Location :=
    let l := if step = "." then acc.2 else if step = ".." then acc.2.dropLast else acc.2 ++ [step]
    (acc.1 ++ [l], l)
  let start := FileTree.origin cwd path
  ((FileTree.steps path).foldl go ([start], start)).1

/-- Reads what a path passes and everything below the place that it leads to. -/
def readPath (t : FileTree) (cwd : Location) (path : String) : IO FileTree := do
  let mut t := t
  for l in passes cwd path do t ← readAlong t l
  let l := (passes cwd path).getLastD cwd
  if t.isDirectory l then readBelow t l else return t

/-- Reads what an invocation needs. -/
def readFor (cwd : Location) (i : CommandLine.Invocation) : IO FileTree := do
  let t ← readAlong .empty cwd
  match i with
  | .init _ => return t
  | .inspect flags _ =>
    let t ← readPath t cwd flags.path
    match flags.config with
    | none => return t
    | some path =>
      let mut t := t
      for l in passes cwd path do t ← readAlong t l
      return t

/-- The variables of the environment that the program reads. -/
def environment : IO Environment := do
  let names := [CommandLine.markerVariable, "RUST_LOG", "RUST_LOG_STYLE", "NO_COLOR", "CLICOLOR_FORCE"]
  names.filterMapM fun name => do return (← IO.getEnv name).map (name, ·)

/-- Writes the configuration file of a directory, if it is not as it was. -/
def writeChanges (before after : FileTree) (directory : Location) : IO Unit := do
  let l := directory ++ [Config.fileName]
  let contentIn (t : FileTree) : Option (List UInt8) :=
    match t.get? l with
    | some (.file content) => some content.toList
    | _ => none
  match contentIn after with
  | some content =>
    if contentIn before ≠ some content then
      IO.FS.writeBinFile ((← IO.currentDir) / FileTree.Location.text l) ⟨content.toArray⟩
  | none => return

end Nullability.Snapshot

open Nullability in
/-- Runs the program on the words behind its name. -/
def main (line : List String) : IO UInt32 := do
  let env ← Snapshot.environment
  let cwd := FileTree.steps (← IO.currentDir).toString
  let tree ← match CommandLine.read (env.get? CommandLine.markerVariable) line with
    | .ok invocation => Snapshot.readFor cwd invocation
    | .error _ => pure .empty
  let ended := Program.run env tree cwd line
  Snapshot.writeChanges tree ended.tree cwd
  (← IO.getStdout).putStr ended.output
  (← IO.getStderr).putStr ended.errors
  return UInt32.ofNat ended.exitCode
