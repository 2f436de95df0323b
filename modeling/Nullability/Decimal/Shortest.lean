import Nullability.Decimal.Binary

/-!
The shortest decimal that reads back as a given number. For one digit, two digits and so on, the two
neighbours of the number on that decimal grid are tried; the first grid with one that rounds to the
number wins, and of two the nearer.
-/

namespace Nullability.Decimal

/-- The interval of values that round to a number, as quotients over a common denominator, its middle
in between. -/
structure Interval where
  low : Nat
  middle : Nat
  high : Nat
  den : Nat
  /-- Whether the ends themselves round to the number. -/
  closed : Bool

def Interval.of (d : Dyadic) : Interval :=
  let scale := Nat.pow 2 d.power.toNat
  { low := (4 * d.significand - if d.narrowBelow then 1 else 2) * scale
    middle := 4 * d.significand * scale
    high := (4 * d.significand + 2) * scale
    den := 4 * Nat.pow 2 (-d.power).toNat
    closed := d.significand % 2 == 0 }

/-- Whether `c · 10^e` rounds to the number. -/
def Interval.holds (i : Interval) (c : Nat) (e : Int) : Bool :=
  let value := c * Nat.pow 10 e.toNat * i.den
  let unit := Nat.pow 10 (-e).toNat
  if i.closed then i.low * unit ≤ value && value ≤ i.high * unit
  else i.low * unit < value && value < i.high * unit

/-- The exponent of the first power of ten above a positive fraction, looked for upward from `e`. -/
def powerAbove (num den : Nat) : Nat → Int → Int
  | 0, e => e
  | fuel + 1, e =>
    if num * Nat.pow 10 (-e).toNat < den * Nat.pow 10 e.toNat then e else powerAbove num den fuel (e + 1)

/-- The digits and the exponent of the shortest decimal, trying `digits` digits and more. -/
def shortestFrom (i : Interval) (top : Int) : Nat → Nat → Nat × Int
  | 0, digits => (0, top - digits)
  | fuel + 1, digits =>
    let e := top - digits
    let num := i.middle * Nat.pow 10 (-e).toNat
    let den := i.den * Nat.pow 10 e.toNat
    let below := num / den
    let holdsBelow := i.holds below e
    let holdsAbove := i.holds (below + 1) e
    let remainder := num % den
    if holdsBelow && (!holdsAbove || 2 * remainder < den || (2 * remainder == den && below % 2 == 0)) then
      (below, e)
    else if holdsAbove then (below + 1, e)
    else shortestFrom i top fuel (digits + 1)

/-- The shortest decimal `c · 10^e` that rounds to a positive number. -/
def shortest (d : Dyadic) : Nat × Int :=
  let i := Interval.of d
  shortestFrom i (powerAbove i.middle i.den 700 (-330)) 20 1

/-- A finite number in full, with a point and never with an exponent. -/
def showPositional (x : Float) : String :=
  let bits := x.toBits
  let sign := if isNegative bits then "-" else ""
  let d := Dyadic.ofBits bits
  if d.significand = 0 then sign ++ "0.0"
  else
    let (c, e) := shortest d
    let digits := Nat.toDigits 10 c
    let point : Int := digits.length + e
    let zeros (n : Nat) : List Char := List.replicate n '0'
    let whole := if 0 < point then digits.take point.toNat ++ zeros (point.toNat - digits.length) else ['0']
    let part := zeros (-point).toNat ++ digits.drop point.toNat
    let part := (part.reverse.dropWhile (· == '0')).reverse
    sign ++ String.ofList (whole ++ '.' :: if part.isEmpty then ['0'] else part)

/-- How numbers are written: with a point if the first digit stands at most sixteen places before it or
five after it, otherwise with an exponent that has a sign and at least two digits. -/
def showShortest (x : Float) : String :=
  let bits := x.toBits
  let sign := if isNegative bits then "-" else ""
  let d := Dyadic.ofBits bits
  if d.significand = 0 then sign ++ "0.0"
  else
    let (c, e) := shortest d
    let digits := Nat.toDigits 10 c
    let trimmed := (digits.reverse.dropWhile (· == '0')).reverse
    let point : Int := digits.length + e
    let zeros (n : Nat) : List Char := List.replicate n '0'
    let text : List Char :=
      if 0 < point ∧ point ≤ 16 then
        let whole := trimmed.take point.toNat
        let whole := whole ++ zeros (point.toNat - whole.length)
        let part := trimmed.drop point.toNat
        whole ++ '.' :: if part.isEmpty then ['0'] else part
      else if -5 < point ∧ point ≤ 0 then '0' :: '.' :: zeros (-point).toNat ++ trimmed
      else
        let power := point - 1
        let power10 := Nat.toDigits 10 power.natAbs
        let exponent := (if power < 0 then '-' else '+') ::
          (if power10.length < 2 then '0' :: power10 else power10)
        match trimmed with
        | first :: [] => first :: 'e' :: exponent
        | first :: rest => first :: '.' :: rest ++ 'e' :: exponent
        | [] => []
    sign ++ String.ofList text

end Nullability.Decimal
