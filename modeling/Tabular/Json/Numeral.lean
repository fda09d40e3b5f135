/-
The value of a JSON number. Digits enter the significand while it fits 64 bits and the rest only
shift the exponent; the double is the significand times or divided by one power of ten, each
step rounded. So a number with many digits may differ in its last bit from the nearest double.
-/
import Tabular.Json.Basic

namespace Tabular.Json

/-- The parts of a written number: sign, digits before and after the point, and the exponent with
its sign. A missing fraction or exponent is none. -/
structure NumberText where
  negative : Bool
  whole : List Char
  fraction : Option (List Char)
  exponent : Option (Bool × List Char)
  deriving DecidableEq

namespace NumberText

/-- The largest significand. -/
def significandLimit : Nat :=
  UInt64.size - 1

/-- The largest exponent that is taken at its value. -/
def exponentLimit : Nat :=
  0x7FFFFFFF

/-- Appends digits to a significand while it stays within the limit. Answers with the number of
digits that were taken and of those that were not. -/
def absorb (significand : Nat) : List Char → Nat × Nat × Nat
  | [] => (significand, 0, 0)
  | c :: cs =>
    let next := significand * 10 + Text.digitsValue [c]
    if next ≤ significandLimit then
      let (s, taken, left) := absorb next cs
      (s, taken + 1, left)
    else (significand, 0, cs.length + 1)

/-- A power of ten as a double. -/
def powerOfTen (n : Nat) : Double :=
  Double.nearest false (tenTo n) 1

/-- A double times a power of ten. There is none when the product is too large; an exponent below
the smallest table entry is worked off in steps. -/
def scaleByTen (d : Double) (exponent : Int) : Option Double :=
  if exponent < -308 then
    if d.magnitude = 0 then some d else scaleByTen (d.div (powerOfTen 308)) (exponent + 308)
  else if exponent < 0 then some (d.div (powerOfTen (-exponent).toNat))
  else if 308 < exponent then if d.magnitude = 0 then some d else none
  else
    let product := d.mul (powerOfTen exponent.toNat)
    if product.isInfinite then none else some product
termination_by (-exponent).toNat

/-- The double of a significand and a decimal exponent. -/
def double? (negative : Bool) (significand : Nat) (exponent : Int) : Option Json :=
  (scaleByTen (Double.ofInt significand) exponent).map fun d =>
    .float (if negative then d.neg else d)

/-- The value of a number without a fraction or exponent whose digits all fit. -/
def integerValue (negative : Bool) (significand : Nat) : Json :=
  if !negative then .integer significand
  else if significand = 0 ∨ Double.signWeight < significand then
    .float (Double.ofInt significand).neg
  else .integer (-significand)

/-- The value of a number; there is none when it is too large for a double. -/
def value? (n : NumberText) : Option Json :=
  let (significand, _, left) := absorb 0 n.whole
  match n.fraction, n.exponent, left with
  | none, none, 0 => some (integerValue n.negative significand)
  | fraction, exponent, _ =>
    let (significand, taken, _) := absorb significand (fraction.getD [])
    let point : Int := (left : Int) - taken
    match exponent with
    | none => double? n.negative significand point
    | some (negativeExponent, digits) =>
      let e := Text.digitsValue digits
      if exponentLimit < e then
        if significand ≠ 0 ∧ !negativeExponent then none
        else some (.float (if n.negative then Double.zero.neg else Double.zero))
      else double? n.negative significand (point + Text.signedValue negativeExponent e)

end NumberText

end Tabular.Json
