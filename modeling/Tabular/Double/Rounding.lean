/-
Rounding an exact quotient to the nearest double. The quotient is scaled to units of the
smallest positive double, the exponent that leaves 53 bits is chosen, and the rest is rounded
with ties to even; what is too large becomes infinity.
-/
import Tabular.Double.Basic

namespace Tabular.Double

/-- The integer nearest to `num / den`, a tie going to the even neighbour. -/
def divToEven (num den : Nat) : Nat :=
  let q := num / den
  let r := num % den
  if 2 * r < den then q
  else if 2 * r = den then q + q % 2
  else q + 1

/-- How far the unit of the nearest double lies above the smallest one, as a power of two. -/
def unitShift (num den : Nat) : Nat :=
  Nat.log2 (num * twoTo 1074 / den) - 52

/-- The magnitude nearest to `num / den`. A significand that rounds up to 53 full bits carries
into the exponent field, which is the right result. -/
def nearestMagnitude (num den : Nat) : Nat :=
  let shift := unitShift num den
  min infinite (shift * exponentWeight + divToEven (num * twoTo 1074) (den * twoTo shift))

/-- The double nearest to `num / den`, with the given sign. -/
def nearest (negative : Bool) (num den : Nat) : Double :=
  ofMagnitude negative (nearestMagnitude num den)

/-- The double nearest to an integer. -/
def ofInt (n : Int) : Double :=
  nearest (n < 0) n.natAbs 1

/-- The product of two finite doubles, rounded once. -/
def mul (a b : Double) : Double :=
  nearest (a.negative != b.negative) (units a.magnitude * units b.magnitude) (twoTo 2148)

/-- The quotient of two finite doubles, rounded once; the divisor is not zero. -/
def div (a b : Double) : Double :=
  nearest (a.negative != b.negative) (units a.magnitude) (units b.magnitude)

theorem nearestMagnitude_le (num den : Nat) : nearestMagnitude num den ≤ infinite :=
  Nat.min_le_left _ _

end Tabular.Double
