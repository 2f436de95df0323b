/-!
Log lines as values: every operation that logs answers its lines in order beside its result.
-/

namespace Nullability.Log

/-- How important a line is. -/
inductive Level
  | error | warn | info | debug | trace
  deriving DecidableEq, Repr

namespace Level

def name : Level → String
  | error => "ERROR"
  | warn => "WARN"
  | info => "INFO"
  | debug => "DEBUG"
  | trace => "TRACE"

/-- The more a level lets through the higher its rank. -/
def rank (l : Level) : Nat := l.ctorIdx + 1

/-- The level that lines must reach to be shown, by the number of times that more was asked for. Warnings
are always shown. -/
def ofVerbosity : Nat → Level
  | 0 => warn
  | 1 => info
  | 2 => debug
  | _ => trace

end Level

/-- The part of the program that a line comes from. -/
inductive Topic
  | records | assembly | discovery | inspection | template
  deriving DecidableEq, Repr

/-- How the part is called in log lines. -/
def Topic.path : Topic → String
  | records => "recbuild::records"
  | assembly => "recbuild::assembler"
  | discovery => "recbuild::config::loader"
  | inspection => "recbuild::commands::inspect"
  | template => "recbuild::commands::init"

/-- A log line. -/
structure Entry where
  level : Level
  topic : Topic
  text : String
  deriving DecidableEq, Repr

end Nullability.Log

namespace Nullability

/-- Log lines in the order in which they were written. -/
abbrev Logged := List Log.Entry

end Nullability
