import Nullability.FileTree.Access
import Nullability.RunError
import Nullability.Settings.ConfigText

/-!
Finding the configuration: the nearest directory, from the current one upwards, whose configuration file
can be used. A file that cannot be used is passed over with a warning, and a missing one without.
-/

namespace Nullability.Config

/-- The number of directories that are searched. -/
def searchDepth : Nat := 10

/-- The paths at which a configuration file is looked for, the nearest first. -/
def candidates (cwd : Location) : List String :=
  ((Path.ofText (FileTree.Location.text cwd)).ancestors searchDepth).map fun directory =>
    Path.join directory.text fileName

private def line (level : Log.Level) (text : String) : Log.Entry := ⟨level, .discovery, text⟩

/-- The configuration at a path, if there is one that can be used. -/
def readCandidate (t : FileTree) (path : String) : Option Config × Logged :=
  match t.readText [] path with
  | .error .notFound => (none, [])
  | .error cause => (none, [line .warn ("Failed to read config file " ++ path ++ ": " ++ cause.message)])
  | .ok text =>
    match parse text with
    | .ok (c, log) => (some c, log ++ [line .debug ("Loaded config from " ++ path)])
    | .error message => (none, [line .warn (message ++ ". Using defaults.")])

/-- The first configuration of the candidates that can be used. -/
def firstUsable (t : FileTree) : List String → Option Config × Logged
  | [] => (none, [])
  | path :: rest =>
    match readCandidate t path with
    | (some c, log) => (some c, log)
    | (none, log) =>
      let (found, more) := firstUsable t rest
      (found, log ++ more)

/-- The configuration that is found from a directory, if there is one. -/
def discover (t : FileTree) (cwd : Location) : Option Config × Logged :=
  if t.isDirectory cwd then
    match firstUsable t (candidates cwd) with
    | (some c, log) => (some c, log)
    | (none, log) =>
      (none, log ++ [line .debug ("No config found after checking " ++ toString searchDepth
        ++ " directories. Using default config.")])
  else
    (none, [line .warn ("Failed to get current directory: " ++ SystemError.notFound.message
      ++ ". Using default config.")])

/-- The configuration that holds in a directory: the default, if none is found. -/
def load (t : FileTree) (cwd : Location) : Config × Logged :=
  let (found, log) := discover t cwd
  (found.getD default, log)

/-- The configuration of a given file. -/
def loadFrom (t : FileTree) (cwd : Location) (path : String) : Except RunError (Config × Logged) :=
  match t.readText cwd path with
  | .error cause => .error (.fileSystem ("Failed to read config file " ++ path) (some path) (some cause))
  | .ok text => (parse text).mapError .configuration

end Nullability.Config
