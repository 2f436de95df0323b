import Nullability.CommandLine.Refusal
import Nullability.Settings.Resolution

/-!
What a command line asks for. Words are read from the left; the value of a parameter and the path are
checked when the next word that is no value begins, and errors are reported in that order.
-/

namespace Nullability.CommandLine

/-- What is to be run. -/
inductive Invocation
  | inspect (flags : InspectFlags) (verbosity : Nat)
  | init (force : Bool)
  deriving DecidableEq, Repr

/-- What has been read and checked; `order` holds the parameters that were given. -/
structure Given where
  order : List Parameter
  path : Option String
  config : Option String
  format : Option OutputFormat
  marker : Option String
  jobs : Nat
  verbosity : Nat
  deriving DecidableEq, Repr

namespace Given

def none : Given := ⟨[], Option.none, Option.none, Option.none, Option.none, 0, 0⟩

/-- The greatest number of times that more can be asked for. -/
def verbosityLimit : Nat := 255

def has (g : Given) (p : Parameter) : Bool := g.order.contains p

end Given

/-- The greatest count. -/
def countLimit : Nat := Nat.pow 2 64 - 1

/-- The number that digits make behind others. -/
def readDigits : Nat → List Char → Except CountFault Nat
  | n, [] => .ok n
  | n, c :: cs =>
    if !c.isDigit then .error .invalidDigit
    else
      let n' := n * 10 + (c.toNat - '0'.toNat)
      if countLimit < n' then .error .tooLarge else readDigits n' cs

/-- The count that a text is: digits, behind a plus sign or not. -/
def readCount (text : String) : Except CountFault Nat :=
  match text.toList with
  | [] => .error .empty
  | ['+'] => .error .invalidDigit
  | '+' :: digits => readDigits 0 digits
  | digits => readDigits 0 digits

/-- What has been begun and not checked yet: a parameter with its value, if that has been read, or the
path. -/
inductive Begun
  | nothing
  | parameter (p : Parameter) (value : Option String)
  | path (value : String)
  deriving DecidableEq, Repr

/-- Takes the value of a parameter into what is given. -/
def Given.takeValue (g : Given) (p : Parameter) (value : String) : Except Refusal Given :=
  match p with
  | .config => if value.isEmpty then .error (.valueMissing .config) else .ok { g with config := some value }
  | .format =>
    if value == "json" then .ok { g with format := some .json }
    else if value == "terminal" then .ok { g with format := some .terminal }
    else if value.isEmpty then .error (.valueMissing .format)
    else .error (.invalidChoice .format value)
  | .marker => .ok { g with marker := some value }
  | .jobs =>
    match readCount value with
    | .ok n => .ok { g with jobs := n }
    | .error fault => .error (.invalidCount .jobs value fault)
  | _ => .ok g

/-- Checks what has been begun and takes it into what is given. -/
def Given.complete (c : Command) (g : Given) : Begun → Except Refusal Given
  | .nothing => .ok g
  | .path value => if value.isEmpty then .error .pathEmpty else .ok { g with path := some value }
  | .parameter p Option.none => .error (.valueMissing p)
  | .parameter p (some value) =>
    if g.has p then .error (.repeated c p) else { g with order := g.order ++ [p] }.takeValue p value

/-- The parameters given once what has been begun is taken in, whether it is right or not; one that is
repeated is then given no more. -/
def Given.orderWith (g : Given) : Begun → List Parameter
  | .parameter p (some _) => if g.has p then g.order.erase p else g.order ++ [p]
  | _ => g.order

/-- Takes in a parameter that has no value. -/
def Given.takeFlag (c : Command) (g : Given) (p : Parameter) : Except Refusal Given :=
  match p with
  | .help => .error (.help c)
  | .version => .error .version
  | .verbose =>
    .ok { g with
      order := g.order.erase .verbose ++ [.verbose]
      verbosity := min (g.verbosity + 1) Given.verbosityLimit }
  | p => if g.has p then .error (.repeated c p) else .ok { g with order := g.order ++ [p] }

/-- What has been read of a line; `pathTaken` once the place of the path is filled. -/
structure Progress where
  given : Given
  begun : Begun
  pathTaken : Bool
  deriving DecidableEq, Repr

namespace Progress

def start : Progress := ⟨.none, .nothing, false⟩

/-- Whether the next word is the value of a parameter. -/
def awaitsValue (s : Progress) : Option Parameter :=
  match s.begun with
  | .parameter p Option.none => some p
  | _ => none

/-- Checks what has been begun. -/
def settle (c : Command) (s : Progress) : Except Refusal Given := s.given.complete c s.begun

/-- A parameter without a value. -/
def flag (c : Command) (s : Progress) (p : Parameter) : Except Refusal Progress := do
  let g ← s.settle c
  return { s with given := ← g.takeFlag c p, begun := .nothing }

/-- A parameter that takes a value, with the value if it is attached. -/
def valued (c : Command) (s : Progress) (p : Parameter) (value : Option String) : Except Refusal Progress := do
  let g ← s.settle c
  match value with
  | none => return { s with given := g, begun := .parameter p none }
  | some v => return { s with given := ← g.complete c (.parameter p (some v)), begun := .nothing }

/-- The parameters behind one dash. What follows a parameter that takes a value is its value. -/
def shorts (c : Command) : Progress → List Char → Except Refusal Progress
  | s, [] => .ok s
  | s, ch :: cs =>
    match c.short? ch with
    | none =>
      .error (.unknownArgument c ("-" ++ ch.toString) .none c.operand?.isSome [])
    | some p =>
      if p.takesValue then
        let value := match cs with
          | [] => none
          | '=' :: v => some (String.ofList v)
          | v => some (String.ofList v)
        s.valued c p value
      else do shorts c (← s.flag c p) cs

/-- What an unknown parameter resembles, with the words behind it. -/
def resemblance (c : Command) (word : String) (rest : List String) : Resemblance :=
  let closest (c : Command) : Option Parameter :=
    (similarTo word (c.parameters.map (fun p => (p.long, p)))).getLast?
  match closest c with
  | some p => .here p
  | none =>
    let found := rest.filterMap fun w => do
      let sub ← c.subcommand? w
      return (sub, ← closest sub)
    match found with
    | (sub, p) :: _ => .under sub p
    | [] => .none

/-- The parameter behind two dashes; what follows an equals sign is its value. -/
def long (c : Command) (s : Progress) (word : List Char) (rest : List String) : Except Refusal Progress :=
  let name := String.ofList (word.takeWhile (· != '='))
  let value := (word.dropWhile (· != '=')).tail?.map String.ofList
  match c.long? name with
  | some p =>
    if p.takesValue then s.valued c p value
    else
      match value with
      | some v => .error (.surplusValue c p v s.given.order)
      | none => s.flag c p
  | none =>
    let similar := resemblance c name rest
    let given := s.given.orderWith s.begun ++ match similar with
      | .here p => [p]
      | _ => []
    .error (.unknownArgument c ("--" ++ name) similar (similar = .none && c.operand?.isSome) given)

/-- A word that is no parameter and no value of one. -/
def operand (c : Command) (trailing : Bool) (s : Progress) (word : String) : Except Refusal Progress :=
  if c = .inspect && !s.pathTaken then do
    return { given := ← s.settle c, begun := .path word, pathTaken := true }
  else if trailing && (c.subcommand? word).isSome then .error (.escapedCommand c word)
  else if c.subcommands.isEmpty then .error (.unknownArgument c word .none false [])
  else .error (.unknownCommand c word (similarTo word (c.subcommands.map (fun s => (s.name, s)))))

/-- The words of a command behind two dashes. -/
def trailing (c : Command) : Progress → List String → Except Refusal Progress
  | s, [] => .ok s
  | s, word :: rest => do trailing c (← s.operand c true word) rest

end Progress

/-- The command whose help is asked for. -/
def helpTarget : Command → List String → Except Refusal Command
  | c, [] => .ok c
  | c, word :: rest =>
    match c.subcommand? word with
    | some sub => helpTarget sub rest
    | none => .error (.unknownCommand c word [])

/-- What the whole line of a command asks for, under a marker from the environment. -/
def conclude (envMarker : Option String) (c : Command) (s : Progress) : Except Refusal Invocation := do
  let g ← s.settle c
  match c with
  | .inspect =>
    let marker := g.marker <|> envMarker
    let given := if g.marker.isNone && envMarker.isSome then g.order ++ [.marker] else g.order
    match g.path with
    | none => .error (.pathMissing given)
    | some path =>
      return .inspect ⟨path, g.config, g.format, marker, g.has .failFast, g.has .noParallel, g.jobs,
        g.has .plain⟩ g.verbosity
  | .init => return .init (g.has .force)
  | _ => .error .commandMissing

/-- Reads the words that follow a command. -/
def readWords (envMarker : Option String) (c : Command) : Progress → List String → Except Refusal Invocation
  | s, [] => conclude envMarker c s
  | s, word :: rest =>
    match c.subcommand? word with
    | some .help => do .error (.help (← helpTarget c rest))
    | some sub => readWords envMarker sub s rest
    | none =>
      match word.toList, s.awaitsValue with
      | ['-', '-'], _ => do conclude envMarker c (← s.trailing c rest)
      | '-' :: '-' :: name, _ => do readWords envMarker c (← s.long c name rest) rest
      | '-' :: ch :: chs, _ => do readWords envMarker c (← s.shorts c (ch :: chs)) rest
      | _, some p => readWords envMarker c { s with begun := .parameter p (some word) } rest
      | _, none => do readWords envMarker c (← s.operand c false word) rest

/-- What a command line asks for, under a marker from the environment. -/
def read (envMarker : Option String) (line : List String) : Except Refusal Invocation :=
  readWords envMarker .root .start line

end Nullability.CommandLine
