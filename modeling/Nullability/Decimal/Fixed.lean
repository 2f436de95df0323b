import Nullability.Decimal.Binary

/-!
Numbers with a fixed count of decimal places, rounded from the exact value; a half goes to the even
neighbour.
-/

namespace Nullability.Decimal

/-- The quotient rounded to the nearest whole number, a half to the even one. -/
def roundDiv (num den : Nat) : Nat :=
  let q := num / den
  let r := num % den
  if den < 2 * r ∨ (2 * r = den ∧ q % 2 = 1) then q + 1 else q

/-- A number in tenths with its decimal point. -/
def showTenths (tenths : Nat) : String :=
  toString (tenths / 10) ++ "." ++ toString (tenths % 10)

/-- A number that is not negative, with one decimal place. -/
def oneDecimal (x : Float) : String :=
  let (num, den) := (Dyadic.ofBits x.toBits).fraction
  showTenths (roundDiv (num * 10) den)

end Nullability.Decimal
