/-
The order of cells that sorting uses: numbers by value, then other text by its characters, then
nulls. A direction turns the whole order round, the place of the nulls included.
-/
import Tabular.Cell.Basic

namespace Tabular

namespace Cell

/-- The number that a cell is sorted by, if it has one. -/
def sortNumber? : Cell → Option Double
  | .null => none
  | .bool b => some (Double.ofInt (if b then 1 else 0))
  | .integer n => some (Double.ofInt n.toInt)
  | .float d => some d
  | .text s => Text.number? s

/-- The order of two cells that are not null. -/
def comparePresent (a b : Cell) : Ordering :=
  match a.sortNumber?, b.sortNumber? with
  | some x, some y => x.totalCompare y
  | some _, none => .lt
  | none, some _ => .gt
  | none, none => compare a.asText b.asText

/-- The order of all cells. -/
def order (a b : Cell) : Ordering :=
  match a.isNull, b.isNull with
  | true, true => .eq
  | true, false => .gt
  | false, true => .lt
  | false, false => comparePresent a b

end Cell

/-- A direction of sorting. -/
inductive Direction where
  | ascending
  | descending
  deriving DecidableEq

namespace Direction

def name : Direction → String
  | .ascending => "asc"
  | .descending => "desc"

/-- The direction of a name in any case of ASCII letters. A name that is no direction is answered
with its lowercase form. -/
def ofName (s : String) : Except String Direction :=
  let lowered := String.ofList (s.toList.map Char.toLower)
  if lowered == "asc" then .ok .ascending
  else if lowered == "desc" then .ok .descending
  else .error lowered

/-- The message for a name that is no direction. -/
def unknownMessage (lowered : String) : String :=
  "'asc' or 'desc' expected, got '" ++ lowered ++ "'"

def apply (d : Direction) (o : Ordering) : Ordering :=
  match d with
  | .ascending => o
  | .descending => o.swap

/-- Sorts by a cell of each item; items whose cells are equal keep their order. -/
def sortBy {α : Type} (d : Direction) (cell : α → Cell) (items : List α) : List α :=
  items.mergeSort fun a b => (d.apply ((cell a).order (cell b))).isLE

end Direction

end Tabular
