/-
Numbers in text. Three readings are used: a strict 64-bit integer, a decimal number with an
optional fraction and exponent, and a lenient integer that skips separators and stops at the
first character that is not a digit. A scan decides what a decimal number is; the library that
then converts the text would take the names of infinity and of what is no number, too.
-/
import Tabular.Double.Decimal
import Tabular.Text.Blank

namespace Tabular.Text

/-! ## Parts of a numeral -/

/-- Splits an optional sign off; the flag says whether it is a minus. -/
def splitSign : List Char → Bool × List Char
  | '+' :: cs => (false, cs)
  | '-' :: cs => (true, cs)
  | cs => (false, cs)

/-- Splits the leading ASCII digits off. -/
def splitDigits (cs : List Char) : List Char × List Char :=
  (cs.takeWhile Char.isDigit, cs.dropWhile Char.isDigit)

/-- The number that a run of digits denotes. -/
def digitsValue (cs : List Char) : Nat :=
  Nat.ofDigitChars 10 cs 0

def signedValue (negative : Bool) (n : Nat) : Int :=
  if negative then -(n : Int) else n

/-! ## The strict integer -/

/-- An optional sign and at least one digit, with a value of 64 bits. -/
def integer? (cs : List Char) : Option Int64 :=
  let (negative, digits) := splitSign cs
  if digits.isEmpty || !digits.all Char.isDigit then none
  else
    let n := signedValue negative (digitsValue digits)
    if Int64.minValue.toInt ≤ n ∧ n ≤ Int64.maxValue.toInt then some (Int64.ofInt n) else none

/-! ## The decimal number -/

/-- The fraction after a point; the point may stand without digits behind it. -/
def splitFraction : List Char → List Char × List Char
  | '.' :: cs => splitDigits cs
  | cs => ([], cs)

/-- The exponent that takes up all that is left, zero when nothing is left. -/
def exponent? : List Char → Option Int
  | [] => some 0
  | c :: cs =>
    if c = 'e' ∨ c = 'E' then
      let (negative, digits) := splitSign cs
      if digits.isEmpty || !digits.all Char.isDigit then none
      else some (signedValue negative (digitsValue digits))
    else none

/-- A decimal number with its sign: digits around an optional point, at least one in all, and an
optional exponent. Nothing else may follow. -/
def decimal? (cs : List Char) : Option (Bool × Decimal) := do
  let (negative, unsigned) := splitSign cs
  let (whole, afterWhole) := splitDigits unsigned
  let (fraction, afterFraction) := splitFraction afterWhole
  if whole.isEmpty && fraction.isEmpty then none
  else
    let exponent ← exponent? afterFraction
    pure (negative, ⟨digitsValue (whole ++ fraction), exponent - fraction.length⟩)

/-- The double that a name stands for, in any case. -/
def named? (negative : Bool) (name : List Char) : Option Double :=
  let name := name.map Char.toLower
  if name = "inf".toList ∨ name = "infinity".toList then
    some (.ofMagnitude negative Double.infinite)
  else if name = "nan".toList then some (.ofMagnitude negative Double.quiet)
  else none

/-- The double that the library converts a text to: a decimal number, or a name behind an optional
sign. -/
def double? (cs : List Char) : Option Double :=
  match decimal? cs with
  | some (negative, d) => some (d.toDouble negative)
  | none =>
    let (negative, name) := splitSign cs
    named? negative name

/-- Whether the end of a number is scanned: nothing, or an exponent that takes up all that is left. -/
def scansExponent : List Char → Bool
  | [] => true
  | c :: cs =>
    (c == 'e' || c == 'E') &&
      let (digits, rest) := splitDigits (splitSign cs).2
      !digits.isEmpty && rest.isEmpty

/-- Whether a text is scanned as a decimal number. -/
def scansNumber (cs : List Char) : Bool :=
  let (whole, afterWhole) := splitDigits (splitSign cs).2
  let (fraction, afterFraction) := splitFraction afterWhole
  whole.length + fraction.length != 0 && scansExponent afterFraction

/-- The double a text denotes when it is a decimal number between blanks. -/
def number? (s : String) : Option Double :=
  let cs := trim s.toList
  if scansNumber cs then double? cs else none

/-! ## The lenient integer -/

def isSeparator (c : Char) : Bool :=
  c == ' ' || c == ',' || c == '.'

/-- A text without its separators and without the blanks it then starts with. -/
def unseparated (s : String) : List Char :=
  trimStart (s.toList.filter (!isSeparator ·))

/-- Takes one more digit into a value: ten times the value, then the digit towards the sign. Product
and sum are held at the nearest bound when they need more than 64 bits. -/
def takeDigit (negative : Bool) (value : Int64) (c : Char) : Int64 :=
  let digit : Nat := c.toNat - '0'.toNat
  let shifted := Int64.ofIntClamp (value.toInt * 10)
  Int64.ofIntClamp (if negative then shifted.toInt - digit else shifted.toInt + digit)

/-- The lenient integer: the digits behind an optional sign, taken in one after the other. No digits
count as zero. -/
def castInteger (s : String) : Int64 :=
  let (negative, unsigned) := splitSign (unseparated s)
  (unsigned.takeWhile Char.isDigit).foldl (takeDigit negative) 0

end Tabular.Text
