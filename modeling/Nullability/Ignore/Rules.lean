import Nullability.Ignore.GlobText
import Nullability.Text.Blank

/-!
Ignore rules: each line of a rule file says that the paths it matches are ignored, or that they are not.
The last rule that matches decides.
-/

namespace Nullability.Ignore

/-- One rule. -/
structure Rule where
  glob : Glob
  /-- Whether what matches is taken in again. -/
  takesIn : Bool
  onlyDirectories : Bool

inductive Verdict
  | ignored | takenIn
  deriving DecidableEq, Repr

namespace Rule

def verdict (r : Rule) : Verdict := if r.takesIn then .takenIn else .ignored

def isMatch (r : Rule) (path : String) (isDirectory : Bool) : Bool :=
  r.glob.isMatch path && (!r.onlyDirectories || isDirectory)

/-- A line without the blanks at its end, unless the last one is escaped. -/
def trimmed (line : List Char) : List Char :=
  match line.reverse with
  | ' ' :: '\\' :: _ => line
  | reversed => (reversed.dropWhile Text.isWhiteSpace).reverse

/-- A pattern without the slash at its end, and whether it had one. -/
def dropFinalSlash (pattern : List Char) : List Char × Bool :=
  match pattern.reverse with
  | '/' :: '\\' :: before => (before.reverse, true)
  | '/' :: before => (before.reverse, true)
  | _ => (pattern, false)

/-- A pattern that is not tied to the directory of its file matches at any depth; one that ends in a
directory's whole content matches what is in the directory, and not the directory. -/
def globText (tied : Bool) (pattern : List Char) : List Char :=
  let floating := !tied && !pattern.contains '/' && pattern ≠ ['*', '*']
  let pattern := if floating then ['*', '*', '/'] ++ pattern else pattern
  match pattern.reverse with
  | '*' :: '*' :: '/' :: _ => pattern ++ ['/', '*']
  | _ => pattern

/-- The pattern of a trimmed line, whether it is tied to the directory, and whether it takes in. -/
def splitMarks : List Char → List Char × Bool × Bool
  | '\\' :: '!' :: rest => ('!' :: rest, false, false)
  | '\\' :: '#' :: rest => ('#' :: rest, false, false)
  | '!' :: '/' :: rest => (rest, true, true)
  | '!' :: rest => (rest, false, true)
  | '/' :: rest => (rest, true, false)
  | line => (line, false, false)

/-- The rule that a line is. Blank lines and comments are none. -/
def ofLine (line : List Char) : Except GlobFault (Option Rule) :=
  let text := trimmed line
  if line.head? = some '#' || text.isEmpty then .ok none
  else do
    let (pattern, tied, takesIn) := splitMarks text
    let (pattern, onlyDirectories) := dropFinalSlash pattern
    return some ⟨← Glob.ofText (globText tied pattern), takesIn, onlyDirectories⟩

end Rule

/-- What is wrong with a line of a rule file. -/
inductive LineFault
  | glob (line : String) (fault : GlobFault)
  /-- The line is no text; the lines that follow are not read. -/
  | notText
  deriving DecidableEq, Repr

def LineFault.message : LineFault → String
  | glob line fault => "error parsing glob '" ++ line ++ "': " ++ fault.message
  | notText => "stream did not contain valid UTF-8"

/-- The rules of a file in order, and what is wrong with its lines, by number. -/
structure RuleFile where
  rules : List Rule
  faults : List (Nat × LineFault)

namespace RuleFile

def empty : RuleFile := ⟨[], []⟩

/-- The lines of a content; what follows the last line end is a line unless it is empty. -/
def lines : List UInt8 → List (List UInt8)
  | [] => []
  | b :: bs =>
    if b = 10 then [] :: lines bs
    else
      match lines bs with
      | [] => [[b]]
      | l :: ls => (b :: l) :: ls

/-- A line without the return at its end. -/
def dropReturn (line : List Char) : List Char :=
  match line.reverse with
  | '\r' :: before => before.reverse
  | _ => line

/-- The rules of lines, of which the first has the given number. -/
def ofLines : Nat → List (List UInt8) → RuleFile
  | _, [] => empty
  | n, bytes :: rest =>
    match String.fromUTF8? ⟨bytes.toArray⟩ with
    | none => ⟨[], [(n, .notText)]⟩
    | some text =>
      let line := dropReturn text.toList
      let line := if n = 1 then line.dropWhile (· == '\ufeff') else line
      let more := ofLines (n + 1) rest
      match Rule.ofLine line with
      | .error fault => { more with faults := (n, .glob (String.ofList (Rule.trimmed line)) fault) :: more.faults }
      | .ok none => more
      | .ok (some rule) => { more with rules := rule :: more.rules }

def ofBytes (content : ByteArray) : RuleFile := ofLines 1 (lines content.toList)

/-- What the rules say about a path, if one matches. -/
def verdict? (f : RuleFile) (path : String) (isDirectory : Bool) : Option Verdict :=
  (f.rules.reverse.find? (·.isMatch path isDirectory)).map Rule.verdict

/-- The texts of what is wrong with a file. A file that merely is no text has nothing wrong with it. -/
def complaints (f : RuleFile) (path : String) : List String :=
  match f.faults with
  | [(_, .notText)] => []
  | faults => faults.map fun (n, fault) => path ++ ": line " ++ toString n ++ ": " ++ fault.message

end RuleFile

end Nullability.Ignore
