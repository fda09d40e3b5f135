/-
The two written forms of a double. The plain form never has an exponent and drops a fraction of
zero; the scientific form keeps one decimal and switches to an exponent for large and small
values. Both write the shortest digits that read back.
-/
import Tabular.Double.Decimal

namespace Tabular.Double

/-! ## Digits around a point -/

/-- The digits before the point. -/
def wholeDigits (digits : List Char) (exponent : Int) : List Char :=
  if 0 ≤ exponent then digits ++ List.replicate exponent.toNat '0'
  else
    let places := (-exponent).toNat
    if places < digits.length then digits.take (digits.length - places) else ['0']

/-- The digits after the point; there are none when the exponent is not negative. -/
def fractionDigits (digits : List Char) (exponent : Int) : List Char :=
  let places := (-exponent).toNat
  if places < digits.length then digits.drop (digits.length - places)
  else List.replicate (places - digits.length) '0' ++ digits

/-- A decimal in positional notation, with a point only before a digit. -/
def positional (d : Decimal) : List Char :=
  let digits := Nat.toDigits 10 d.digits
  let whole := wholeDigits digits d.exponent
  if 0 ≤ d.exponent then whole else whole ++ '.' :: fractionDigits digits d.exponent

def signChars (d : Double) : List Char :=
  if d.negative then ['-'] else []

/-! ## The plain form -/

/-- The text of a double in a cell. -/
def plain (d : Double) : String :=
  if d.isNaN then "NaN"
  else if d.isInfinite then if d.negative then "-inf" else "inf"
  else String.ofList (d.signChars ++ positional (d.shortest .up))

/-! ## The scientific form -/

/-- A decimal with at least one digit after the point. -/
def positionalWithFraction (d : Decimal) : List Char :=
  positional d ++ if 0 ≤ d.exponent then ['.', '0'] else []

/-- One digit before the point, then the exponent with its sign. -/
def scientific (d : Decimal) (lead : Int) : List Char :=
  let digits := Nat.toDigits 10 d.digits
  let fraction := digits.drop 1
  digits.take 1 ++ (if fraction.isEmpty then [] else '.' :: fraction)
    ++ 'e' :: (if 0 ≤ lead then '+' else '-') :: Nat.toDigits 10 lead.natAbs

/-- The text of a double in a document; what is not finite has none. Exponents of the first digit
from -5 to 15 are written positionally. -/
def document? (d : Double) : Option String :=
  if d.isFinite then
    let dec := d.shortest .even
    let lead := dec.exponent + Decimal.digitCount dec.digits - 1
    let body := if -5 ≤ lead ∧ lead ≤ 15 then positionalWithFraction dec else scientific dec lead
    some (String.ofList (d.signChars ++ body))
  else none

end Tabular.Double
