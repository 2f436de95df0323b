import Nullability.CommandLine.Invocation
import Nullability.Inspection.Run
import Nullability.Log.Directives
import Nullability.Settings.Template

/-!
The program as a whole: what a command line does in an environment, a file tree and a current directory.
Nothing is a terminal, so colours are written only where the environment asks for them.
-/

namespace Nullability

/-- The variables of the environment. -/
abbrev Environment := List (String × String)

namespace Environment

def get? (env : Environment) (name : String) : Option String := env.lookup name

/-- Whether a variable asks for something; a zero asks for nothing. -/
def asks (env : Environment) (name : String) : Bool := ((env.get? name).map (· != "0")).getD false

/-- Whether reports are written in colour. -/
def coloursReports (env : Environment) : Bool := env.asks "CLICOLOR_FORCE"

/-- Whether log lines are written in colour. -/
def coloursLog (env : Environment) : Bool :=
  match env.get? "RUST_LOG_STYLE" with
  | some "always" => true
  | some "never" => false
  | _ => env.coloursReports && ((env.get? "NO_COLOR").getD "").isEmpty

/-- The directives for log lines at a level, and what is wrong with the ones that the environment gives. -/
def directives (env : Environment) (l : Log.Level) : Log.Directives × List String :=
  match env.get? "RUST_LOG" with
  | none => (.ofLevel l, [])
  | some text => (Log.Directives.ofLevel l).insertText text

end Environment

/-- What the program leaves when it ends. -/
structure Ended where
  exitCode : Nat
  output : String
  errors : String
  tree : FileTree

namespace Program

/-- The text of an error with what lies behind it. -/
def errorText (chain : List String) : String :=
  let causes := match chain.tail with
    | [] => ""
    | [cause] => "\n\nCaused by:\n    " ++ Text.withMargin "    " cause
    | causes => "\n\nCaused by:" ++ String.join (causes.zipIdx.map fun (cause, i) =>
        let number := toString i
        "\n" ++ "".pushn ' ' (5 - number.length) ++ number ++ ": " ++ Text.withMargin "       " cause)
  "Error: " ++ chain.headD "" ++ causes ++ "\n"

/-- The log lines that are shown, at a level. -/
def logText (env : Environment) (l : Log.Level) (log : Logged) : String :=
  let (directives, faults) := env.directives l
  String.join (faults.map fun fault => "warning: " ++ fault ++ ", ignoring it\n")
    ++ String.join ((log.filter directives.shows).map (Log.Entry.render env.coloursLog))

/-- Writes a new configuration file in the current directory. -/
def init (env : Environment) (t : FileTree) (cwd : Location) (force : Bool) : Ended :=
  let level := Log.Level.ofVerbosity 0
  match Config.writeTemplate t cwd "." force with
  | .error fault => ⟨1, "", logText env level [] ++ errorText [fault.message], t⟩
  | .ok written => ⟨0, written.text, logText env level written.log, written.tree⟩

/-- Inspects what the flags say. -/
def inspect (env : Environment) (t : FileTree) (cwd : Location) (flags : InspectFlags) (verbosity : Nat) :
    Ended :=
  let left := Inspection.run t cwd env.coloursReports flags
  let log := logText env (Log.Level.ofVerbosity verbosity) left.log
  match left.error? with
  | none => ⟨0, left.report, log ++ left.summary, t⟩
  | some e => ⟨1, left.report, log ++ left.summary ++ errorText e.chain, t⟩

/-- What a command line does. -/
def run (env : Environment) (t : FileTree) (cwd : Location) (line : List String) : Ended :=
  let marker := env.get? CommandLine.markerVariable
  match CommandLine.read marker line with
  | .ok (.init force) => init env t cwd force
  | .ok (.inspect flags verbosity) => inspect env t cwd flags verbosity
  | .error refusal =>
    let text := refusal.text marker
    if refusal.isAnswer then ⟨0, text, "", t⟩ else ⟨refusal.exitCode, "", text, t⟩

end Program

end Nullability
