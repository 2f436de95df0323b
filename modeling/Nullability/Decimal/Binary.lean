/-!
Binary floating-point numbers as exact fractions. A finite number is a sign and `significand · 2^power`;
`Dyadic.ofBits` reads it off the sixty-four bits.
-/

namespace Nullability.Decimal

/-- The magnitude of a finite number: `significand · 2^power`. -/
structure Dyadic where
  significand : Nat
  power : Int
  /-- Whether the next smaller number is only half as far as the next greater one. -/
  narrowBelow : Bool

namespace Dyadic

def ofBits (bits : UInt64) : Dyadic :=
  let exponent : Nat := (bits.toNat / Nat.pow 2 52) % Nat.pow 2 11
  let fraction := bits.toNat % Nat.pow 2 52
  if exponent = 0 then ⟨fraction, -1074, false⟩
  else ⟨Nat.pow 2 52 + fraction, Int.ofNat exponent - 1075, fraction = 0 ∧ 1 < exponent⟩

/-- The whole numbers whose quotient is the magnitude. -/
def fraction (d : Dyadic) : Nat × Nat :=
  if 0 ≤ d.power then (d.significand * Nat.pow 2 d.power.toNat, 1)
  else (d.significand, Nat.pow 2 (-d.power).toNat)

end Dyadic

/-- Whether the bits are those of a negative number, negative zero included. -/
def isNegative (bits : UInt64) : Bool := Nat.pow 2 63 ≤ bits.toNat

end Nullability.Decimal
