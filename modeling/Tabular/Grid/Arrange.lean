/-
Rearranging the lines of an axis. With sticky labels every label moves with its line; without,
the cells move and the labels stay where they are.
-/
import Tabular.Cell.Order
import Tabular.Grid.Basic

namespace Tabular.Grid

/-! ## Rearranging a list -/

/-- Exchanges the items at two positions. -/
def exchange {α : Type} (a b : Nat) (items : List α) : List α :=
  match items[a]?, items[b]? with
  | some x, some y => (items.set a y).set b x
  | _, _ => items

/-- Takes the item at a position out and puts it in at another. -/
def relocate {α : Type} (source target : Nat) (items : List α) : List α :=
  match items[source]? with
  | some x => (items.eraseIdx source).insertIdx target x
  | none => items

/-! ## Rearranging lines -/

/-- Gives the rows other cells, in order. -/
def withCells (cells : List (List Cell)) (g : Grid) : Grid :=
  { g with rows := List.zipWith (fun row cells => { row with cells := cells }) g.rows cells }

/-- Rearranges the lines of an axis: the list of rows, or every row. -/
def arrange (axis : Axis) (sticky : Bool) (rearrange : {α : Type} → List α → List α) (g : Grid) :
    Grid :=
  let moved := match axis with
    | .row => g.withCells (rearrange g.cells)
    | .column => g.withCells (g.cells.map rearrange)
  if sticky then moved.withLabels axis (rearrange (g.labels axis)) else moved

/-- Exchanges two lines. -/
def swap (axis : Axis) (a b : LineRef) (sticky : Bool) (g : Grid) : Except GridError Grid := do
  let a ← g.key axis a
  let b ← g.key axis b
  pure (g.arrange axis sticky (exchange a b))

/-- Moves a line to another position; the lines between shift. -/
def move (axis : Axis) (source target : LineRef) (sticky : Bool) (g : Grid) :
    Except GridError Grid := do
  let a ← g.key axis source
  let b ← g.key axis target
  let order := relocate a b (List.range (g.count axis))
  pure (g.arrange axis sticky (picked order))

/-- Sorts the lines of an axis by their cells at a line of the cross axis. -/
def orderBy (axis : Axis) (ref : LineRef) (direction : Direction) (sticky : Bool) (g : Grid) :
    Except GridError Grid :=
  (g.key axis.cross ref).map fun k =>
    let order := direction.sortBy (fun key => (g.cell? axis key k).getD .null)
      (List.range (g.count axis))
    g.arrange axis sticky (picked order)

end Tabular.Grid
