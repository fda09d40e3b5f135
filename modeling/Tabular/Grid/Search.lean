/-
Searching a grid: the lines that a query keeps, as a grid with the same cross axis.
-/
import Tabular.Grid.Lines
import Tabular.Query.Binding

namespace Tabular.Grid

/-- A grid as a query sees it. -/
def view (g : Grid) : TableView where
  count axis := g.count axis
  label? axis key := ((g.labels axis)[key]?).join
  cell? axis key cross := g.cell? axis key cross
  findLabel? axis label := g.find? axis label

/-- The grid of the lines that a compiled query keeps. -/
def searchWith (query : Query) (axis : Axis) (g : Grid) : Except GridError Grid :=
  ((query.select g.view axis).mapError .query).map fun keys => g.pick axis keys

/-- The grid of the lines that a query keeps; a blank query keeps all. -/
def search (source : String) (axis : Axis) (g : Grid) : Except GridError Grid :=
  if (Text.trim source.toList).isEmpty then .ok g
  else do
    let query ← (Query.parse source).mapError .query
    g.searchWith query axis

end Tabular.Grid
