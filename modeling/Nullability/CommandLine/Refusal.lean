import Nullability.CommandLine.Help
import Nullability.CommandLine.Similarity

/-!
Why a command line runs nothing: a text was asked for, or the line is not understood.
-/

namespace Nullability.CommandLine

/-- Why a text is no count. -/
inductive CountFault
  | empty | invalidDigit | tooLarge
  deriving DecidableEq, Repr

def CountFault.message : CountFault → String
  | empty => "cannot parse integer from empty string"
  | invalidDigit => "invalid digit found in string"
  | tooLarge => "number too large to fit in target type"

/-- A parameter that an unknown one resembles: one of the command, or one of a command that is named later
in the line. -/
inductive Resemblance
  | none
  | here (p : Parameter)
  | under (c : Command) (p : Parameter)
  deriving DecidableEq, Repr

inductive Refusal
  /-- The help text of a command was asked for. -/
  | help (c : Command)
  /-- The version was asked for. -/
  | version
  /-- No command is named. -/
  | commandMissing
  /-- A word is no command behind the given one. -/
  | unknownCommand (c : Command) (word : String) (similar : List Command)
  /-- A command is named where two dashes have ended the commands. -/
  | escapedCommand (c : Command) (word : String)
  /-- A word is neither a parameter nor an operand; `asValue` if two dashes would make it an operand. -/
  | unknownArgument (c : Command) (word : String) (similar : Resemblance) (asValue : Bool)
      (given : List Parameter)
  /-- A value is attached to a parameter that takes none. -/
  | surplusValue (c : Command) (p : Parameter) (value : String) (given : List Parameter)
  | repeated (c : Command) (p : Parameter)
  | valueMissing (p : Parameter)
  | pathEmpty
  | invalidChoice (p : Parameter) (value : String)
  | invalidCount (p : Parameter) (value : String) (fault : CountFault)
  /-- No path is given. -/
  | pathMissing (given : List Parameter)
  deriving DecidableEq, Repr

namespace Refusal

/-- Whether a text was asked for and is given. -/
def isAnswer : Refusal → Bool
  | help _ | version => true
  | _ => false

/-- The status with which the program ends. -/
def exitCode (r : Refusal) : Nat := if r.isAnswer then 0 else 2

private def inQuotes (s : String) : String := "'" ++ s ++ "'"

private def choiceList (p : Parameter) : String :=
  if p.choices.isEmpty then "" else "\n  [possible values: " ++ ", ".intercalate p.choices ++ "]"

/-- What is wrong with the line. -/
def description : Refusal → String
  | help _ | version | commandMissing => ""
  | unknownCommand _ word _ => "unrecognized subcommand " ++ inQuotes word
  | escapedCommand _ word => "unexpected argument " ++ inQuotes word ++ " found"
  | unknownArgument _ word _ _ _ => "unexpected argument " ++ inQuotes word ++ " found"
  | surplusValue _ p value _ =>
    "unexpected value " ++ inQuotes value ++ " for " ++ inQuotes p.form ++ " found; no more were expected"
  | repeated _ p => "the argument " ++ inQuotes p.form ++ " cannot be used multiple times"
  | valueMissing p => "a value is required for " ++ inQuotes p.form ++ " but none was supplied" ++ choiceList p
  | pathEmpty => "a value is required for '<PATH>' but none was supplied"
  | invalidChoice p value => "invalid value " ++ inQuotes value ++ " for " ++ inQuotes p.form ++ choiceList p
  | invalidCount p value fault =>
    "invalid value " ++ inQuotes value ++ " for " ++ inQuotes p.form ++ ": " ++ fault.message
  | pathMissing _ => "the following required arguments were not provided:\n  <PATH>"

/-- What may have been meant. -/
def tips : Refusal → List String
  | unknownCommand _ _ [] => []
  | unknownCommand _ _ [c] => ["a similar subcommand exists: " ++ inQuotes c.name]
  | unknownCommand _ _ cs =>
    ["some similar subcommands exist: " ++ ", ".intercalate (cs.map (inQuotes ·.name))]
  | escapedCommand _ word =>
    ["subcommand " ++ inQuotes word ++ " exists; to use it, remove the '--' before it"]
  | unknownArgument _ word similar asValue _ =>
    (match similar with
      | .here p => ["a similar argument exists: '--" ++ p.long ++ "'"]
      | _ => [])
    ++ (if asValue then ["to pass " ++ inQuotes word ++ " as a value, use '-- " ++ word ++ "'"] else [])
    ++ (match similar with
      | .under c p => ["'" ++ c.name ++ " --" ++ p.long ++ "' exists"]
      | _ => [])
  | invalidChoice p value =>
    ((similarTo value (p.choices.map (fun v => (v, v)))).getLast?.map
      (fun v => "a similar value exists: " ++ inQuotes v)).toList
  | _ => []

/-- The usage line that is shown. -/
def usage? : Refusal → Option String
  | unknownCommand c _ _ | escapedCommand c _ | repeated c _ => some c.generalUsage
  | unknownArgument c _ _ _ given => some (c.usage given)
  | surplusValue c p _ given => some (c.usage (given ++ [p]))
  | pathMissing given =>
    some (if given.isEmpty then Command.inspect.call ++ " <PATH>" else Command.inspect.usage given)
  | _ => none

/-- Whether asking for help is an option of the command that refuses. -/
def offersHelp : Refusal → Bool
  | unknownCommand .help _ _ => false
  | _ => true

/-- What is printed. -/
def text (envMarker : Option String) : Refusal → String
  | help c => helpText envMarker c
  | version => versionText
  | commandMissing => helpText envMarker .root
  | r =>
    let tips := String.join (r.tips.map ("\n  tip: " ++ ·))
    "error: " ++ r.description
      ++ (if tips.isEmpty then "" else "\n" ++ tips)
      ++ ((r.usage?.map ("\n\nUsage: " ++ ·)).getD "")
      ++ (if r.offersHelp then "\n\nFor more information, try '--help'.\n" else "\n")

end Refusal

end Nullability.CommandLine
