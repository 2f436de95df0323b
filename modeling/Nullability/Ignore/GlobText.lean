import Nullability.Ignore.Glob

/-!
Reading patterns. A star that stands for directories must fill a whole name; a set that is not closed is
read as the characters that it is written with.
-/

namespace Nullability.Ignore

/-- Why a text is no pattern. -/
inductive GlobFault
  | invalidRange (low high : Char)
  | unopenedAlternatives
  | unclosedAlternatives
  | danglingEscape
  deriving DecidableEq, Repr

def GlobFault.message : GlobFault → String
  | invalidRange low high => "invalid range; '" ++ low.toString ++ "' > '" ++ high.toString ++ "'"
  | unopenedAlternatives => "unopened alternate group; missing '\x7b' (maybe escape '\x7d' with '[\x7d]'?)"
  | unclosedAlternatives => "unclosed alternate group; missing '\x7d' (maybe escape '\x7b' with '[\x7b]'?)"
  | danglingEscape => "dangling '\\'"

/-- A set that is being read. The ranges are in reverse. -/
structure OpenSet where
  negated : Bool
  ranges : List (Char × Char)
  isFirst : Bool
  inRange : Bool

namespace OpenSet

def start (negated : Bool) : OpenSet := ⟨negated, [], true, false⟩

/-- Ends the last range with a character. -/
def endRange (s : OpenSet) (c : Char) : Except GlobFault OpenSet :=
  match s.ranges with
  | [] => .ok s
  | (low, _) :: ranges =>
    if c < low then .error (.invalidRange low c)
    else .ok { s with ranges := (low, c) :: ranges, isFirst := false, inRange := false }

/-- Takes a character that does not close the set. -/
def take (s : OpenSet) (c : Char) : Except GlobFault OpenSet :=
  if c = '-' && !s.isFirst && !s.inRange then .ok { s with inRange := true }
  else if s.inRange then s.endRange c
  else .ok { s with ranges := (c, c) :: s.ranges, isFirst := false }

/-- The set, closed. A hyphen that has no end stands for itself. -/
def close (s : OpenSet) : Token :=
  let ranges := s.ranges.reverse
  .oneOf s.negated (if s.inRange then ranges ++ [('-', '-')] else ranges)

/-- Reads a set up to where it is closed: the set, if it is, and the number of characters read. -/
def scan (s : OpenSet) : List Char → Except GlobFault (Option (Token × Nat))
  | [] => .ok none
  | c :: cs =>
    if c = ']' && !s.isFirst then .ok (some (s.close, 1))
    else do
      let found ← scan (← s.take c) cs
      return found.map fun (set, read) => (set, read + 1)

/-- Reads a set behind its bracket. -/
def read : List Char → Except GlobFault (Option (Token × Nat))
  | '!' :: body | '^' :: body => do
    let found ← (start true).scan body
    return found.map fun (set, read) => (set, read + 1)
  | body => (start false).scan body

end OpenSet

/-- A group of alternatives that is being read: the finished branches in reverse, and the last one in
reverse. -/
structure OpenGroup where
  finished : List (List Token)
  current : List Token

/-- What has been read of a pattern: the innermost group first, with the pattern itself as the last. -/
structure GlobReading where
  groups : List OpenGroup
  literalBrackets : Bool

namespace GlobReading

def start : GlobReading := ⟨[⟨[], []⟩], false⟩

def push (r : GlobReading) (t : Token) : GlobReading :=
  match r.groups with
  | [] => r
  | g :: gs => { r with groups := { g with current := t :: g.current } :: gs }

/-- Replaces the last part. -/
def replaceLast (r : GlobReading) (f : Token → Token) : GlobReading :=
  match r.groups with
  | ⟨finished, t :: ts⟩ :: gs => { r with groups := ⟨finished, f t :: ts⟩ :: gs }
  | _ => r

def inGroup (r : GlobReading) : Bool := 1 < r.groups.length

/-- Whether the branch that is being read is empty. -/
def atStart (r : GlobReading) : Bool :=
  match r.groups with
  | ⟨_, []⟩ :: _ => true
  | _ => false

def openGroup (r : GlobReading) : GlobReading := { r with groups := ⟨[], []⟩ :: r.groups }

def nextBranch (r : GlobReading) : GlobReading :=
  match r.groups with
  | g :: gs => { r with groups := ⟨g.current.reverse :: g.finished, []⟩ :: gs }
  | [] => r

def closeGroup (r : GlobReading) : Except GlobFault GlobReading :=
  match r.groups with
  | g :: outer :: gs =>
    .ok ({ r with groups := outer :: gs }.push (.alternatives (g.current.reverse :: g.finished).reverse))
  | _ => .error .unopenedAlternatives

/-- Two stars that fill no name. -/
def plainStars (r : GlobReading) : GlobReading := (r.push .anyMany).push .anyMany

/-- Two stars behind a slash, which they replace. -/
def directoryStars (r : GlobReading) (atEnd : Bool) : GlobReading :=
  r.replaceLast fun
    | .leadingDirectories => .leadingDirectories
    | .everythingBelow => .everythingBelow
    | _ => if atEnd then .everythingBelow else .innerDirectories

/-- Whether two stars behind the previous character may fill a name. -/
def mayFillName (r : GlobReading) (previous : Option Char) : Bool :=
  previous = some '/' || (r.inGroup && (previous = some ',' || previous = some '\x7b'))

/-- Reads two stars, of which the first is read: the reading, and how many characters more are read. -/
def stars (r : GlobReading) (previous : Option Char) : List Char → GlobReading × Nat
  | [] => if r.atStart then (r.push .leadingDirectories, 1)
    else if r.mayFillName previous then (r.directoryStars true, 1)
    else (r.plainStars, 1)
  | next :: _ =>
    if r.atStart then if next = '/' then (r.push .leadingDirectories, 2) else (r.plainStars, 1)
    else if !r.mayFillName previous then (r.plainStars, 1)
    else if next = '/' then (r.directoryStars false, 2)
    else if r.inGroup && (next = ',' || next = '\x7d') then (r.directoryStars true, 1)
    else (r.plainStars, 1)

/-- Reads a character behind the previous one: the reading, and how many of the characters that follow are
read with it. -/
def step (r : GlobReading) (previous : Option Char) (c : Char) (following : List Char) :
    Except GlobFault (GlobReading × Nat) :=
  match c with
  | '?' => .ok (r.push .any, 0)
  | '*' =>
    match following with
    | '*' :: rest => .ok (r.stars previous rest)
    | _ => .ok (r.push .anyMany, 0)
  | '[' =>
    if r.literalBrackets then .ok (r.push (.literal '['), 0)
    else
      match OpenSet.read following with
      | .error fault => .error fault
      | .ok none => .ok ({ r with literalBrackets := true }.push (.literal '['), 0)
      | .ok (some (set, read)) => .ok (r.push set, read)
  | '\x7b' => .ok (r.openGroup, 0)
  | '\x7d' => r.closeGroup.map (·, 0)
  | ',' => .ok (if r.inGroup then r.nextBranch else r.push (.literal ','), 0)
  | '\\' =>
    match following with
    | [] => .error .danglingEscape
    | escaped :: _ => .ok (r.push (.literal escaped), 1)
  | c => .ok (r.push (.literal c), 0)

/-- Reads the characters behind the previous one, without the first ones, which have been read. -/
def read (r : GlobReading) (previous : Option Char) : Nat → List Char → Except GlobFault GlobReading
  | _, [] => .ok r
  | skipped + 1, c :: cs => read r (some c) skipped cs
  | 0, c :: cs =>
    match r.step previous c cs with
    | .error fault => .error fault
    | .ok (r, more) => read r (some c) more cs

end GlobReading

/-- The pattern that a text is. -/
def Glob.ofText (text : List Char) : Except GlobFault Glob :=
  match GlobReading.start.read none 0 text with
  | .error fault => .error fault
  | .ok r =>
    match r.groups with
    | [g] => .ok g.current.reverse
    | _ => .error .unclosedAlternatives

end Nullability.Ignore
