/-
Cells, the scalar values a grid holds, with their text, their number, and the equality that
queries use. Query operands are always text, so equality compares a cell with a text.
-/
import Tabular.Double.Notation
import Tabular.Text.Numeral

namespace Tabular

/-- A scalar value, or none. -/
inductive Cell where
  | null
  | bool (value : Bool)
  | integer (value : Int64)
  | float (value : Double)
  | text (value : String)
  deriving DecidableEq

namespace Cell

def isNull : Cell → Bool
  | .null => true
  | _ => false

/-- The text of a cell as queries and CSV see it; null and false have none. -/
def asText : Cell → String
  | .null => ""
  | .bool b => if b then "1" else ""
  | .integer n => toString n.toInt
  | .float d => d.plain
  | .text s => s

/-- The integer that the ordering operators compare. A float is cast from its text, as an operand
is, so that 2.5 and the text 2.5 both count as 25. -/
def toInteger : Cell → Int64
  | .null => 0
  | .bool b => if b then 1 else 0
  | .integer n => n
  | .float d => Text.castInteger d.plain
  | .text s => Text.castInteger s

/-- Equality with an operand. Texts that denote numbers compare by value; a truth value equals any
operand that is as true as it is, where nothing and zero are false. -/
def looselyEquals (cell : Cell) (operand : String) : Bool :=
  match cell with
  | .null => operand == ""
  | .bool b => b == !(operand == "" || operand == "0")
  | .integer n =>
    match Text.number? operand with
    | some x => (Double.ofInt n.toInt).equals x
    | none => toString n.toInt == operand
  | .float d =>
    match Text.number? operand with
    | some x => d.equals x
    | none => d.plain == operand
  | .text s =>
    match Text.number? s, Text.number? operand with
    | some x, some y => x.equals y
    | _, _ => s == operand

/-- The cell a text stands for when types are inferred: an integer, else a decimal number without
blanks around it, else the text itself. -/
def infer (s : String) : Cell :=
  match Text.integer? s.toList with
  | some n => .integer n
  | none =>
    match Text.number? s with
    | some d => if Text.trimmed s == s then .float d else .text s
    | none => .text s

/-- Equality of cells. Floats are equal by value and cells of two kinds never are. -/
def equals : Cell → Cell → Bool
  | .float a, .float b => a.equals b
  | a, b => a == b

end Cell

/-! ## Numbers of two kinds -/

/-- An integer or a double. -/
inductive Number where
  | integer (value : Int64)
  | double (value : Double)
  deriving DecidableEq

namespace Number

def toDouble : Number → Double
  | .integer n => Double.ofInt n.toInt
  | .double d => d

/-- Two integers compare exactly, any other pair as doubles. -/
def compare? : Number → Number → Option Ordering
  | .integer a, .integer b => some (compare a.toInt b.toInt)
  | a, b => a.toDouble.compare? b.toDouble

end Number

end Tabular
