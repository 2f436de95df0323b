/-!
The commands and the parameters that each takes.
-/

namespace Nullability.CommandLine

inductive Command
  | root | inspect | init | help
  deriving DecidableEq, Repr

/-- What is given by name, with a value or without. -/
inductive Parameter
  | config | format | marker | failFast | noParallel | jobs | plain | verbose | force | help | version
  deriving DecidableEq, Repr

namespace Parameter

def long : Parameter → String
  | config => "config"
  | format => "format"
  | marker => "marker"
  | failFast => "fail-fast"
  | noParallel => "no-parallel"
  | jobs => "jobs"
  | plain => "plain"
  | verbose => "verbose"
  | force => "force"
  | help => "help"
  | version => "version"

def short? : Parameter → Option Char
  | config => some 'c'
  | format => some 'f'
  | jobs => some 'j'
  | verbose => some 'v'
  | force => some 'f'
  | help => some 'h'
  | version => some 'V'
  | _ => none

/-- What stands for the value, of a parameter that takes one. -/
def valueName? : Parameter → Option String
  | config => some "CONFIG"
  | format => some "FORMAT"
  | marker => some "MARKER"
  | jobs => some "JOBS"
  | _ => none

def takesValue (p : Parameter) : Bool := p.valueName?.isSome

/-- The values to choose from, of a parameter whose value is a choice. -/
def choices : Parameter → List String
  | format => ["json", "terminal"]
  | _ => []

/-- How the parameter is written, with what stands for its value. -/
def form (p : Parameter) : String :=
  "--" ++ p.long ++
    match p with
    | verbose => "..."
    | _ => (p.valueName?.map (fun v => " <" ++ v ++ ">")).getD ""

def description : Parameter → String
  | config => "Configuration file (defaults to the nearest .recbuild.toml)"
  | format => "Output format (defaults to the configured format, then terminal)"
  | marker => "Only structs carrying this attribute or derive are records"
  | failFast => "Stop at the first component that fails classification"
  | noParallel => "Classify components sequentially"
  | jobs => "Number of worker threads (0 = all cores)"
  | plain => "Disable colored output"
  | verbose => "Increase verbosity level (can be repeated: -v, -vv, -vvv)"
  | force => "Overwrite an existing configuration file"
  | help => "Print help"
  | version => "Print version"

end Parameter

namespace Command

def name : Command → String
  | root => "recbuild"
  | inspect => "inspect"
  | init => "init"
  | help => "help"

/-- How the command is called. -/
def call : Command → String
  | root => "recbuild"
  | c => "recbuild " ++ c.name

def about : Command → String
  | root => "Nullability classification for generated record builders"
  | inspect => "Classify the components of every record declaration under a path"
  | init => "Write a default .recbuild.toml in the current directory"
  | help => "Print this message or the help of the given subcommand(s)"

def parameters : Command → List Parameter
  | root => [.help, .version]
  | inspect => [.config, .format, .marker, .failFast, .noParallel, .jobs, .plain, .verbose, .help]
  | init => [.force, .help]
  | help => []

/-- The commands that follow the command. -/
def subcommands : Command → List Command
  | root => [inspect, init, help]
  | _ => []

/-- What is given by its place, as it is written, with what it is. -/
def operand? : Command → Option (String × String)
  | inspect => some ("<PATH>", "File or directory to inspect")
  | help => some ("[COMMAND]...", "Print help for the subcommand(s)")
  | _ => none

def subcommand? (c : Command) (word : String) : Option Command :=
  c.subcommands.find? (fun s => s.name == word)

def long? (c : Command) (word : String) : Option Parameter :=
  c.parameters.find? (fun p => p.long == word)

def short? (c : Command) (ch : Char) : Option Parameter :=
  c.parameters.find? (fun p => p.short? == some ch)

end Command

end Nullability.CommandLine
