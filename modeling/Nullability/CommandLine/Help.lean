import Nullability.CommandLine.Command
import Nullability.Text.Pieces
import Nullability.Text.Width

/-!
Usage lines and help texts.
-/

namespace Nullability.CommandLine

/-- The variable of the environment that gives a marker where no flag does. -/
def markerVariable : String := "RECBUILD_MARKER"

def versionText : String := "recbuild 0.3.0\n"

namespace Command

private def words (ws : List String) : String := " ".intercalate ws

/-- What a command takes, in general. -/
def generalUsage (c : Command) : String :=
  let options := if c ≠ root && !c.parameters.isEmpty then ["[OPTIONS]"] else []
  let operand := (c.operand?.map (·.1)).toList
  let subcommand := if c.subcommands.isEmpty then [] else ["<COMMAND>"]
  words (c.call :: options ++ operand ++ subcommand)

/-- What a command takes beside the parameters that were given; in general, if none was. -/
def usage (c : Command) (given : List Parameter) : String :=
  if given.isEmpty then c.generalUsage
  else
    let operand := (c.operand?.map (·.1)).toList
    let subcommand := if c.subcommands.isEmpty then [] else ["<COMMAND>"]
    words (c.call :: given.eraseDups.map Parameter.form ++ operand ++ subcommand)

end Command

/-- What follows the description of a parameter in brackets, under a marker from the environment. -/
def Parameter.remark (envMarker : Option String) : Parameter → String
  | .format => " [possible values: json, terminal]"
  | .marker => " [env: " ++ markerVariable ++ "=" ++ envMarker.getD "" ++ "]"
  | .jobs => " [default: 0]"
  | _ => ""

/-- A list of entries under a title, with their descriptions in one column. -/
def entryList (title : String) (entries : List (String × String)) : String :=
  if entries.isEmpty then ""
  else
    let column := (entries.map (fun e => Text.width e.1)).foldl max 0
    let blanks (n : Nat) : String := "".pushn ' ' n
    let entry (e : String × String) : String :=
      "\n  " ++ e.1 ++ blanks (column - Text.width e.1 + 2) ++ Text.withMargin (blanks (column + 4)) e.2
    "\n" ++ title ++ ":" ++ String.join (entries.map entry) ++ "\n"

/-- The help text of a command. -/
def helpText (envMarker : Option String) (c : Command) : String :=
  let named (p : Parameter) : String × String :=
    let short := match p.short? with
      | some ch => "-" ++ ch.toString ++ ", "
      | none => "    "
    (short ++ p.form, p.description ++ p.remark envMarker)
  c.about ++ "\n\nUsage: " ++ c.generalUsage ++ "\n" ++
    entryList "Commands" (c.subcommands.map (fun s => (s.name, s.about))) ++
    entryList "Arguments" c.operand?.toList ++
    entryList "Options" (c.parameters.map named)

end Nullability.CommandLine
