/-
Grids: cells in rows and columns, each row and column with an optional label. A line is a row or
a column. A row is stored whole while a column is spread over the rows, so a change of rows and
the same change of columns are two definitions; reading a line goes through the transpose.
-/
import Tabular.Cell.Basic
import Tabular.Grid.Error

namespace Tabular

/-- A row or a column. -/
structure Line where
  label : Option String
  cells : List Cell
  deriving DecidableEq

/-- The rows of a grid, and the labels of its columns. -/
structure Grid where
  rows : List Line
  columnLabels : List (Option String)
  deriving DecidableEq

/-- A way to name a line: by its position or by its label. -/
inductive LineRef where
  | position (key : Nat)
  | label (label : String)
  deriving DecidableEq

/-- The items at some positions, in the order of the positions. -/
def picked {α : Type} (positions : List Nat) (items : List α) : List α :=
  positions.filterMap (items[·]?)

/-- A label as it is stored: the empty text is none. -/
def normalizeLabel (label : Option String) : Option String :=
  label.filter (· != "")

namespace Grid

/-- The grid without rows and columns. -/
def empty : Grid :=
  ⟨[], []⟩

/-! ## Shape -/

/-- The same grid with rows and columns exchanged. -/
def transpose (g : Grid) : Grid where
  rows := g.columnLabels.zipIdx.map fun (label, column) =>
    ⟨label, g.rows.map fun row => row.cells.getD column .null⟩
  columnLabels := g.rows.map (·.label)

/-- The grid whose rows are the lines of an axis. -/
def seenFrom (axis : Axis) (g : Grid) : Grid :=
  match axis with
  | .row => g
  | .column => g.transpose

/-- The lines of an axis, in order. -/
def lines (axis : Axis) (g : Grid) : List Line :=
  (g.seenFrom axis).rows

/-- The labels of an axis, in order. -/
def labels (axis : Axis) (g : Grid) : List (Option String) :=
  match axis with
  | .row => g.rows.map (·.label)
  | .column => g.columnLabels

/-- The number of lines of an axis. -/
def count (axis : Axis) (g : Grid) : Nat :=
  (g.labels axis).length

/-- The cells of the rows. -/
def cells (g : Grid) : List (List Cell) :=
  g.rows.map (·.cells)

/-- Whether a grid has no cells. -/
def isEmpty (g : Grid) : Bool :=
  g.count .row == 0 || g.count .column == 0

/-- Adds unlabelled columns of nulls until there are `width`. -/
def widen (width : Nat) (g : Grid) : Grid where
  rows := g.rows.map fun row => { row with cells := row.cells.rightpad width .null }
  columnLabels := g.columnLabels.rightpad width none

/-- Adds unlabelled rows of nulls until there are `height`. -/
def heighten (height : Nat) (g : Grid) : Grid :=
  { g with
    rows := g.rows.rightpad height ⟨none, List.replicate g.columnLabels.length .null⟩ }

/-! ## Finding lines -/

/-- The first line that carries a label. -/
def find? (axis : Axis) (label : String) (g : Grid) : Option Nat :=
  (g.labels axis).findIdx? (· == some label)

def hasLabel (axis : Axis) (label : String) (g : Grid) : Bool :=
  (g.find? axis label).isSome

def hasKey (axis : Axis) (key : Nat) (g : Grid) : Bool :=
  key < g.count axis

/-- The position of a line. -/
def key (axis : Axis) (ref : LineRef) (g : Grid) : Except GridError Nat :=
  match ref with
  | .position k => if k < g.count axis then .ok k else .error (.keyNotFound axis k)
  | .label l =>
    match g.find? axis l with
    | some k => .ok k
    | none => .error (.labelNotFound axis l)

def label (axis : Axis) (ref : LineRef) (g : Grid) : Except GridError (Option String) :=
  (g.key axis ref).map fun k => (g.labels axis).getD k none

/-- A line with its position. -/
def line (axis : Axis) (ref : LineRef) (g : Grid) : Except GridError (Nat × Line) :=
  (g.key axis ref).map fun k => (k, (g.lines axis).getD k ⟨none, []⟩)

/-! ## Single cells -/

/-- The cell of a line at a position of the cross axis, if there is one. -/
def cell? (axis : Axis) (key cross : Nat) (g : Grid) : Option Cell :=
  match axis with
  | .row => g.rows[key]?.bind fun row => row.cells[cross]?
  | .column => g.rows[cross]?.bind fun row => row.cells[key]?

/-- The cell of a row and a column; the row is looked up first. -/
def value (row column : LineRef) (g : Grid) : Except GridError Cell := do
  let r ← g.key .row row
  let c ← g.key .column column
  pure ((g.cell? .row r c).getD .null)

/-- Whether a grid holds a cell equal to the given one. -/
def contains (value : Cell) (g : Grid) : Bool :=
  g.rows.any fun row => row.cells.any (·.equals value)

/-! ## Making grids -/

/-- The grid of some rows of any lengths; short rows are filled up with nulls. -/
def ofRows (rows : List (List Cell)) : Grid :=
  let width := rows.foldr (fun row width => max row.length width) 0
  ⟨rows.map fun row => ⟨none, row.rightpad width .null⟩, List.replicate width none⟩

/-- Gives the lines of an axis other labels, in order. -/
def withLabels (axis : Axis) (labels : List (Option String)) (g : Grid) : Grid :=
  match axis with
  | .row =>
    { g with rows := List.zipWith (fun label row => { row with label := label }) labels g.rows }
  | .column => { g with columnLabels := labels }

/-- The first text that occurs earlier in the list or in `seen`. -/
def firstRepeated (seen : List String) : List String → Option String
  | [] => none
  | s :: rest => if seen.contains s then some s else firstRepeated (s :: seen) rest

/-- Labels the lines of an axis from the first on; lines beyond the list lose their label. -/
def setLabels (axis : Axis) (labels : List (Option String)) (g : Grid) : Except GridError Grid :=
  let count := g.count axis
  let stored := labels.map normalizeLabel
  if count = 0 then .error (.emptyAxis axis)
  else if count < stored.length then .error (.tooManyLabels axis stored.length count)
  else
    match firstRepeated [] (stored.filterMap id) with
    | some label => .error (.duplicateLabel axis label)
    | none => .ok (g.withLabels axis (stored.rightpad count none))

/-- Labels an axis unless the list is empty. -/
def setLabelsIfAny (axis : Axis) (labels : List (Option String)) (g : Grid) :
    Except GridError Grid :=
  if labels.isEmpty then .ok g else g.setLabels axis labels

/-- The label that a cell of a header stands for. -/
def headerLabel (cell : Cell) : Option String :=
  normalizeLabel (some cell.asText)

/-- The grid of some rows whose first column or first row may hold labels. A header that is longer
than the rows adds columns. -/
def ofLabeledRows (rows : List (List Cell)) (firstColumn firstRow : Bool) :
    Except GridError Grid := do
  let header := if firstRow then rows.head?.getD [] else []
  let header := if firstColumn then header.drop 1 else header
  let body := if firstRow then rows.drop 1 else rows
  let rowHeads := if firstColumn then body.map fun row => row.head?.getD .null else []
  let body := if firstColumn then body.map (·.drop 1) else body
  let g := (ofRows body).widen header.length
  let g ← g.setLabelsIfAny .column (header.map headerLabel)
  g.setLabelsIfAny .row (rowHeads.map headerLabel)

/-! ## Equality -/

/-- Equality of grids, with floats equal by value. -/
def equals (a b : Grid) : Bool :=
  a.columnLabels == b.columnLabels && a.rows.length == b.rows.length
    && (a.rows.zip b.rows).all fun (x, y) =>
      x.label == y.label && x.cells.length == y.cells.length
        && (x.cells.zip y.cells).all fun (c, d) => c.equals d

end Grid

end Tabular
