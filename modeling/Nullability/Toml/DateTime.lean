import Nullability.Toml.Fault

/-!
Dates and times. A date, a time, or a date with a time and perhaps an offset; seconds may be left out.
-/

namespace Nullability.Toml.DateTime

/-- A lexeme of a date or time. -/
inductive Piece
  | digits (ds : List Char)
  | dash | colon | dot | letterT | blank | letterZ | plus
  | unknown
  deriving DecidableEq, Repr

/-- The pieces of a text; from the first character that fits nowhere on there is one unknown piece. -/
def pieces : Nat → List Char → List Piece
  | 0, _ => []
  | _, [] => []
  | fuel + 1, c :: rest =>
    if c.isDigit then
      .digits (c :: rest.takeWhile Char.isDigit) :: pieces fuel (rest.dropWhile Char.isDigit)
    else
      match c with
      | '-' => .dash :: pieces fuel rest
      | ':' => .colon :: pieces fuel rest
      | '.' => .dot :: pieces fuel rest
      | 'T' | 't' => .letterT :: pieces fuel rest
      | ' ' => .blank :: pieces fuel rest
      | 'Z' | 'z' => .letterZ :: pieces fuel rest
      | '+' => .plus :: pieces fuel rest
      | _ => [.unknown]

abbrev Reader := StateT (List Piece) (Except Cause)

variable {α : Type}

def refuse (what expected : Option String) : Reader α := throw (.dateTime what expected)

def number (ds : List Char) : Nat := ds.foldl (fun n d => n * 10 + (d.toNat - '0'.toNat)) 0

/-- Reads digits. -/
def digits (what : Option String) (expected : String) : Reader (List Char) := do
  match ← get with
  | .digits ds :: rest => set rest; return ds
  | _ => refuse what expected

def piece (p : Piece) (what expected : String) : Reader Unit := do
  match ← get with
  | q :: rest => if q = p then set rest else refuse what expected
  | [] => refuse what expected

def piece? (p : Piece) : Reader Bool := do
  match ← get with
  | q :: rest => if q = p then set rest; return true else return false
  | [] => return false

def require (holds : Bool) (what expected : String) : Reader Unit :=
  if holds then pure () else refuse what expected

def isLeapYear (year : Nat) : Bool := year % 4 == 0 && (year % 100 != 0 || year % 400 == 0)

def daysIn (year month : Nat) : Nat :=
  if month = 2 then if isLeapYear year then 29 else 28
  else if [4, 6, 9, 11].contains month then 30
  else 31

/-- What follows the year of a date. -/
def dateAfter (year : List Char) : Reader Unit := do
  let month ← digits "date" "month"
  piece .dash "date" "`-` (MM-DD)"
  let day ← digits "date" "day"
  require (year.length == 4) "date" "a four-digit year (YYYY)"
  require (month.length == 2) "date" "a two-digit month (MM)"
  require (day.length == 2) "date" "a two-digit day (DD)"
  let m := number month
  require (1 ≤ m && m ≤ 12) "date" "month between 01 and 12"
  let most := daysIn (number year) m
  require (1 ≤ number day && number day ≤ most) "date" ("day between 01 and " ++ toString most)

/-- A time. -/
def time : Reader Unit := do
  let hour ← digits "time" "hour"
  piece .colon "time" "`:` (HH:MM)"
  let minute ← digits "time" "minute"
  let second ← if ← piece? .colon then do
      let second ← digits "time" "second"
      if ← piece? .dot then let _ ← digits "time" "nanosecond"
      pure second
    else pure ['0', '0']
  require (hour.length == 2) "time" "a two-digit hour (HH)"
  require (minute.length == 2) "time" "a two-digit minute (MM)"
  require (second.length == 2) "time" "a two-digit second (SS)"
  require (number hour ≤ 23) "time" "hour between 00 and 23"
  require (number minute ≤ 59) "time" "minute between 00 and 59"
  require (number second ≤ 60) "time" "second between 00 and 60"

/-- The offset of a date with a time, if there is one. -/
def offset : Reader Unit := do
  match ← get with
  | [] => pure ()
  | .letterZ :: rest => set rest
  | .plus :: rest | .dash :: rest =>
    set rest
    let hours ← digits "offset" "hour"
    piece .colon "offset" "`:` (HH:MM)"
    let minutes ← digits "offset" "minute"
    require (hours.length == 2) "offset" "a two-digit hour (HH)"
    require (minutes.length == 2) "offset" "a two-digit minute (MM)"
    require (number hours ≤ 23) "offset" "hours between 00 and 23"
    require (number minutes ≤ 59) "offset" "minutes between 00 and 59"
  | _ => refuse "offset" "`Z`, +OFFSET, -OFFSET"

/-- A whole date or time. -/
def whole : Reader Unit := do
  let start ← get
  let first ← digits none "year or hour"
  match ← get with
  | .dash :: rest =>
    set rest
    dateAfter first
    match ← get with
    | [] => pure ()
    | .letterT :: rest | .blank :: rest =>
      set rest
      time
      offset
    | _ => refuse "date-time" "`T` between date and time"
  | .colon :: _ =>
    set start
    time
  | _ => refuse none "`-` (YYYY-MM) or `:` (HH:MM)"
  if !(← get).isEmpty then refuse none none

/-- Why a text is no date or time; nothing if it is one. -/
def fault? (text : List Char) : Option Cause :=
  match whole (pieces text.length text) with
  | .ok _ => none
  | .error cause => some cause

end Nullability.Toml.DateTime
