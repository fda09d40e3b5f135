/-
The operators of a selector: what each is called and when a cell satisfies it with an operand.
-/
import Tabular.Cell.Basic
import Tabular.Text.Lowercase
import Tabular.Text.Occurrence

namespace Tabular

/-- A comparison of a cell with an operand. -/
inductive Operator where
  | equal
  | notEqual
  | greater
  | less
  | greaterOrEqual
  | lessOrEqual
  | contains
  | startsWith
  | endsWith
  deriving DecidableEq

namespace Operator

def all : List Operator :=
  [.equal, .notEqual, .greater, .less, .greaterOrEqual, .lessOrEqual, .contains, .startsWith,
    .endsWith]

def symbol : Operator → List Char
  | .equal => ['=']
  | .notEqual => ['!', '=']
  | .greater => ['>']
  | .less => ['<']
  | .greaterOrEqual => ['>', '=']
  | .lessOrEqual => ['<', '=']
  | .contains => ['*', '=']
  | .startsWith => ['^', '=']
  | .endsWith => ['$', '=']

def ofSymbol? (cs : List Char) : Option Operator :=
  all.find? (·.symbol == cs)

/-- Whether a character occurs in the symbol of some operator. -/
def isSymbolChar (c : Char) : Bool :=
  all.any (·.symbol.contains c)

/-- The number of characters in the longest symbol. -/
def maxSymbolLength : Nat :=
  2

/-- The order of a cell and an operand as integers. -/
def integerOrder (cell : Cell) (operand : String) : Ordering :=
  compare cell.toInteger.toInt (Text.castInteger operand).toInt

/-- Whether a cell satisfies an operator with an operand. The text operators ignore case; the ends
of a text are looked for inside its surrounding blanks. -/
def holds (op : Operator) (cell : Cell) (operand : String) : Bool :=
  match op with
  | .equal => cell.looselyEquals operand
  | .notEqual => !cell.looselyEquals operand
  | .greater => (integerOrder cell operand).isGT
  | .less => (integerOrder cell operand).isLT
  | .greaterOrEqual => (integerOrder cell operand).isGE
  | .lessOrEqual => (integerOrder cell operand).isLE
  | .contains => Text.occursIn (Text.lower operand.toList) (Text.lower cell.asText.toList)
  | .startsWith =>
    (Text.lower operand.toList).isPrefixOf (Text.lower (Text.trim cell.asText.toList))
  | .endsWith =>
    (Text.lower (Text.trim operand.toList)).isSuffixOf (Text.lower (Text.trim cell.asText.toList))

theorem ofSymbol?_symbol (op : Operator) : ofSymbol? op.symbol = some op := by
  cases op <;> decide

end Operator

end Tabular
