/-
Decimals, `digits · 10 ^ exponent`: the double a decimal stands for, and the shortest decimal
that stands for a double. The shortest decimal is found by trying one significant digit, then
two, and so on; at each count only the two neighbours of the value can qualify.
-/
import Tabular.Double.Rounding

namespace Tabular

/-- The number `digits · 10 ^ exponent`. -/
structure Decimal where
  digits : Nat
  exponent : Int
  deriving DecidableEq

namespace Decimal

def numerator (d : Decimal) : Nat :=
  d.digits * tenTo d.exponent.toNat

def denominator (d : Decimal) : Nat :=
  tenTo (-d.exponent).toNat

/-- The number of decimal digits of a natural number; zero has one. -/
def digitCount (n : Nat) : Nat :=
  (Nat.toDigits 10 n).length

/-- The magnitude nearest to a decimal. Decimals far outside the range of doubles are decided by
the position of their first digit. -/
def magnitude (d : Decimal) : Nat :=
  if d.digits = 0 then 0
  else
    let top := d.exponent + digitCount d.digits
    if 400 < top then Double.infinite
    else if top < -400 then 0
    else Double.nearestMagnitude d.numerator d.denominator

/-- The double nearest to a decimal. -/
def toDouble (negative : Bool) (d : Decimal) : Double :=
  Double.ofMagnitude negative d.magnitude

/-- Drops up to `fuel` zeros from the end of the digits. -/
def dropZeros : Nat → Decimal → Decimal
  | 0, d => d
  | fuel + 1, d =>
    if d.digits ≠ 0 ∧ d.digits % 10 = 0 then dropZeros fuel ⟨d.digits / 10, d.exponent + 1⟩ else d

/-- The same number written without zeros at the end of its digits. -/
def normalize (d : Decimal) : Decimal :=
  dropZeros (digitCount d.digits) d

end Decimal

namespace Double

/-- Which neighbour is taken when a value lies exactly between two shortest decimals. -/
inductive Tie where
  | up
  | even
  deriving DecidableEq

/-- The exponent of the first significant digit of a positive finite magnitude. -/
def leadingExponent (magnitude : Nat) : Int :=
  (Decimal.digitCount (units magnitude * tenTo 324 / twoTo 1074) : Int) - 325

/-- The decimal below the value on the grid of multiples of `10 ^ exponent`, with the rest and the
divisor that the rest is a part of. -/
def gridFloor (magnitude : Nat) (exponent : Int) : Nat × Nat × Nat :=
  let num := units magnitude * tenTo (-exponent).toNat
  let den := twoTo 1074 * tenTo exponent.toNat
  (num / den, num % den, den)

/-- The decimal nearest to the value among its two neighbours on the grid of multiples of
`10 ^ exponent`, provided that it reads back as the same magnitude. -/
def onGrid? (tie : Tie) (magnitude : Nat) (exponent : Int) : Option Decimal :=
  let (below, rest, den) := gridFloor magnitude exponent
  let down : Decimal := ⟨below, exponent⟩
  let up : Decimal := ⟨below + 1, exponent⟩
  match down.magnitude == magnitude, up.magnitude == magnitude with
  | true, false => some down
  | false, true => some up
  | false, false => none
  | true, true =>
    if 2 * rest < den then some down
    else if den < 2 * rest then some up
    else match tie with
      | .up => some up
      | .even => some (if below % 2 = 0 then down else up)

/-- The value itself as a decimal, which every finite magnitude has. -/
def exactDecimal (magnitude : Nat) : Decimal :=
  ⟨units magnitude * (tenTo 1074 / twoTo 1074), -1074⟩

/-- The shortest decimal that reads back as a positive finite magnitude. Seventeen digits always
suffice; the exact value stands at the end so that the function visibly has an answer. -/
def shortestMagnitude (tie : Tie) (magnitude : Nat) : Decimal :=
  let lead := leadingExponent magnitude
  let found := (List.range 17).findSome? fun (n : Nat) => onGrid? tie magnitude (lead - n)
  (found.getD (exactDecimal magnitude)).normalize

/-- The shortest decimal that reads back as the absolute value of a finite double. -/
def shortest (tie : Tie) (d : Double) : Decimal :=
  if d.magnitude = 0 then ⟨0, 0⟩ else shortestMagnitude tie d.magnitude

end Double

end Tabular
