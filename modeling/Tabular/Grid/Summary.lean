/-
What the cells of a line hold: the different values, and how often each text occurs. Both leave
nulls out and keep the order in which things are first seen.
-/
import Tabular.Grid.Basic

namespace Tabular

namespace Line

/-- Adds a cell unless an equal one is there. -/
def addDistinct (found : List Cell) (cell : Cell) : List Cell :=
  if found.any (·.equals cell) then found else found ++ [cell]

/-- Each cell that is not null and not equal to an earlier one. -/
def distinct (line : Line) : List Cell :=
  (line.cells.filter (!·.isNull)).foldl addDistinct []

/-- Counts one more occurrence of a text. -/
def addCount (text : String) : List (String × Nat) → List (String × Nat)
  | [] => [(text, 1)]
  | (s, n) :: rest => if s = text then (s, n + 1) :: rest else (s, n) :: addCount text rest

/-- The text of each cell that is not null, with the number of such cells that share it. -/
def counts (line : Line) : List (String × Nat) :=
  (line.cells.filter (!·.isNull)).foldl (fun found cell => addCount cell.asText found) []

/-- Whether a line holds a cell equal to the given one. -/
def contains (value : Cell) (line : Line) : Bool :=
  line.cells.any (·.equals value)

end Line

end Tabular
