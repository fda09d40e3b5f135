/-
JSON values. Numbers are integers or doubles, and the members of an object keep their order: a
key that comes again replaces the value where the key first stood.
-/
import Tabular.Cell.Basic

namespace Tabular

inductive Json where
  | null
  | bool (value : Bool)
  | integer (value : Int)
  | float (value : Double)
  | string (value : String)
  | array (items : List Json)
  | object (members : List (String × Json))

namespace Json

/-- Adds a member to an object. -/
def insertMember (key : String) (value : Json) : List (String × Json) → List (String × Json)
  | [] => [(key, value)]
  | (k, v) :: rest =>
    if k = key then (k, value) :: rest else (k, v) :: insertMember key value rest

/-- The members of an object that is given them one after the other. -/
def collectMembers (entries : List (String × Json)) : List (String × Json) :=
  entries.foldl (fun members (key, value) => insertMember key value members) []

/-- A cell as a value; a float that is not finite has none but null. -/
def ofCell : Cell → Json
  | .null => .null
  | .bool b => .bool b
  | .integer n => .integer n.toInt
  | .float d => if d.isFinite then .float d else .null
  | .text s => .string s

/-- The cell of an integer: exact when 64 bits hold it, else the nearest double. -/
def integerCell (n : Int) : Cell :=
  if Int64.minValue.toInt ≤ n ∧ n ≤ Int64.maxValue.toInt then .integer (Int64.ofInt n)
  else .float (Double.ofInt n)

/-- The cell of a value that is neither an array nor an object. -/
def scalarCell? : Json → Option Cell
  | .null => some .null
  | .bool b => some (.bool b)
  | .integer n => some (integerCell n)
  | .float d => some (.float d)
  | .string s => some (.text s)
  | .array _ => none
  | .object _ => none

end Json

end Tabular
