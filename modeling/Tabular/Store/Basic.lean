/-
Tables in three lists: the cells of the rows, the labels of the rows and the labels of the columns.
Nothing in the type holds the lists together. A change is made to each of them on its own, rows and
columns in different ways, and ends with a fault where an index lies outside of a list.
-/
import Tabular.Grid.Basic
import Tabular.Store.Access

namespace Tabular

structure Store where
  data : List (List Cell)
  rowLabels : List (Option String)
  columnLabels : List (Option String)
  deriving DecidableEq

namespace Store

def empty : Store :=
  ⟨[], [], []⟩

/-! ## Labels -/

def labels (axis : Axis) (s : Store) : List (Option String) :=
  match axis with
  | .row => s.rowLabels
  | .column => s.columnLabels

/-- The number of lines of an axis, as its labels have it. -/
def count (axis : Axis) (s : Store) : Nat :=
  (s.labels axis).length

/-- Gives an axis another list of labels. -/
def withLabels (axis : Axis) (labels : List (Option String)) (s : Store) : Store :=
  match axis with
  | .row => { s with rowLabels := labels }
  | .column => { s with columnLabels := labels }

/-- Changes the labels of an axis and nothing else. -/
def relabel (axis : Axis) (change : List (Option String) → Answer (List (Option String)))
    (s : Store) : Answer Store := do
  let labels ← change (s.labels axis)
  pure (s.withLabels axis labels)

/-- The first position that carries a label. -/
def find? (axis : Axis) (label : String) (s : Store) : Option Nat :=
  (s.labels axis).findIdx? (· == some label)

def hasLabel (axis : Axis) (label : String) (s : Store) : Bool :=
  (s.find? axis label).isSome

def key (axis : Axis) (ref : LineRef) (s : Store) : Answer Nat :=
  match ref with
  | .position k => if k < s.count axis then .ok k else .error (.refused (.keyNotFound axis k))
  | .label l =>
    match s.find? axis l with
    | some k => .ok k
    | none => .error (.refused (.labelNotFound axis l))

def label (axis : Axis) (ref : LineRef) (s : Store) : Answer (Option String) := do
  let k ← s.key axis ref
  Checked.get k (s.labels axis)

/-- The label as it would be stored, unless a line other than the owner carries it. -/
def freeLabel (axis : Axis) (label : Option String) (owner : Option Nat) (s : Store) :
    Answer (Option String) :=
  match normalizeLabel label with
  | none => .ok none
  | some l =>
    match s.find? axis l with
    | none => .ok (some l)
    | some k => if owner = some k then .ok (some l) else .error (.refused (.duplicateLabel axis l))

/-- Labels the lines of an axis from the first on; lines beyond the list lose their label. -/
def setLabels (axis : Axis) (labels : List (Option String)) (s : Store) : Answer Store :=
  let count := s.count axis
  let stored := labels.map normalizeLabel
  if count = 0 then .error (.refused (.emptyAxis axis))
  else if count < stored.length then
    .error (.refused (.tooManyLabels axis stored.length count))
  else
    let stored := Checked.resize count none stored
    match Grid.firstRepeated [] (stored.filterMap id) with
    | some label => .error (.refused (.duplicateLabel axis label))
    | none => .ok (s.withLabels axis stored)

/-- Labels an axis unless the list is empty. -/
def setLabelsIfAny (axis : Axis) (labels : List (Option String)) (s : Store) : Answer Store :=
  if labels.isEmpty then .ok s else s.setLabels axis labels

/-! ## Reading -/

/-- The cell of a line at a position of the cross axis. -/
def cellAt (axis : Axis) (key cross : Nat) (s : Store) : Answer Cell :=
  match axis with
  | .row => do
    let row ← Checked.get key s.data
    Checked.get cross row
  | .column => do
    let row ← Checked.get cross s.data
    Checked.get key row

/-- The cells of a line, as many as the cross axis has lines. -/
def cellsAt (axis : Axis) (key : Nat) (s : Store) : Answer (List Cell) :=
  (List.range (s.count axis.cross)).mapM fun cross => s.cellAt axis key cross

def lineAt (axis : Axis) (key : Nat) (s : Store) : Answer Line := do
  let label ← Checked.get key (s.labels axis)
  let cells ← s.cellsAt axis key
  pure ⟨label, cells⟩

/-- The lines of an axis, in order. -/
def lines (axis : Axis) (s : Store) : Answer (List Line) :=
  (List.range (s.count axis)).mapM fun key => s.lineAt axis key

/-- A line with its position. -/
def line (axis : Axis) (ref : LineRef) (s : Store) : Answer (Nat × Line) := do
  let k ← s.key axis ref
  let line ← s.lineAt axis k
  pure (k, line)

/-- The cell of a line at a reference on the cross axis. -/
def cell (axis : Axis) (key : Nat) (cross : LineRef) (s : Store) : Answer Cell := do
  let c ← s.key axis.cross cross
  s.cellAt axis key c

/-- The cell of a row and a column; the row is looked up first. -/
def value (row column : LineRef) (s : Store) : Answer Cell := do
  let r ← s.key .row row
  let c ← s.key .column column
  s.cellAt .row r c

/-! ## Changing cells -/

/-- Puts the cells of a line in at an index: a row among the rows, or a column with a cell for each
row. -/
def insertCells (axis : Axis) (index : Nat) (cells : List Cell) (data : List (List Cell)) :
    Answer (List (List Cell)) :=
  match axis with
  | .row => Checked.insert index cells data
  | .column => Checked.zipEach (fun row cell => Checked.insert index cell row) data cells

/-- Takes the cells of a line out. -/
def removeCells (axis : Axis) (key : Nat) (data : List (List Cell)) :
    Answer (List Cell × List (List Cell)) :=
  match axis with
  | .row => Checked.remove key data
  | .column => do
    let pairs ← data.mapM (Checked.remove key)
    pure pairs.unzip

/-- Exchanges the cells of two lines. -/
def swapCells (axis : Axis) (a b : Nat) (data : List (List Cell)) : Answer (List (List Cell)) :=
  match axis with
  | .row => Checked.swap a b data
  | .column => data.mapM (Checked.swap a b)

/-- Puts the cells of the lines into another order. -/
def permuteCells (axis : Axis) (order : List Nat) (data : List (List Cell)) :
    Answer (List (List Cell)) :=
  match axis with
  | .row => Checked.permute order data
  | .column => data.mapM (Checked.permute order)

/-- The cells of the lines at some positions. -/
def pickCells (axis : Axis) (keys : List Nat) (data : List (List Cell)) :
    Answer (List (List Cell)) :=
  match axis with
  | .row => keys.mapM (Checked.get · data)
  | .column => data.mapM fun row => keys.mapM (Checked.get · row)

/-! ## Changing lines -/

/-- Adds unlabelled lines of nulls to an axis until there are `n`. -/
def grow (axis : Axis) (n : Nat) (s : Store) : Store :=
  if n ≤ s.count axis then s
  else
    let data := match axis with
      | .row => Checked.resize n (List.replicate s.columnLabels.length .null) s.data
      | .column => s.data.map (Checked.resize n .null)
    { s with data := data }.withLabels axis (Checked.resize n none (s.labels axis))

/-- Some cells filled up for a line of an axis, after room has been made for all of them. -/
def fit (axis : Axis) (cells : List Cell) (s : Store) : List Cell × Store :=
  let roomy := s.grow axis.cross cells.length
  (Checked.resize (roomy.count axis.cross) .null cells, roomy)

def insertLine (axis : Axis) (index : Nat) (line : Line) (s : Store) : Answer Store := do
  let (cells, s) := s.fit axis line.cells
  let data ← insertCells axis index cells s.data
  { s with data := data }.relabel axis (Checked.insert index line.label)

/-- Takes a line out. -/
def removeLine (axis : Axis) (key : Nat) (s : Store) : Answer (Line × Store) := do
  let (cells, data) ← removeCells axis key s.data
  let (label, labels) ← Checked.remove key (s.labels axis)
  pure (⟨label, cells⟩, { s with data := data }.withLabels axis labels)

/-- Sets the cell of a line at a position of the cross axis. -/
def putCell (axis : Axis) (key cross : Nat) (value : Cell) (s : Store) : Answer Store := do
  let (row, column) := match axis with
    | .row => (key, cross)
    | .column => (cross, key)
  let data ← Checked.modify row (Checked.set column value) s.data
  pure { s with data := data }

/-- Replaces the cells of a line, one after the other. -/
def writeLine (axis : Axis) (key : Nat) (cells : List Cell) (s : Store) : Answer Store := do
  let (cells, s) := s.fit axis cells
  cells.zipIdx.foldlM (fun s (cell, cross) => s.putCell axis key cross cell) s

/-- Exchanges two lines, but not their labels. -/
def swapLines (axis : Axis) (a b : Nat) (s : Store) : Answer Store := do
  let data ← swapCells axis a b s.data
  pure { s with data := data }

/-- Puts the lines of an axis into another order, their labels only if these are sticky. -/
def permute (axis : Axis) (order : List Nat) (sticky : Bool) (s : Store) : Answer Store := do
  let data ← permuteCells axis order s.data
  let s := { s with data := data }
  if sticky then s.relabel axis (Checked.permute order) else pure s

/-- The store of the lines at some positions, with the labels of the cross axis. -/
def pick (axis : Axis) (keys : List Nat) (s : Store) : Answer Store := do
  let labels ← keys.mapM (Checked.get · (s.labels axis))
  let data ← pickCells axis keys s.data
  pure ({ s with data := data }.withLabels axis labels)

/-- Exchanges rows and columns: each row adds its cells to the ends of the columns. -/
def transpose (s : Store) : Answer Store := do
  let columns := List.replicate s.columnLabels.length []
  let data ← s.data.foldlM
    (Checked.zipEach fun column cell => pure (column ++ [cell])) columns
  pure ⟨data, s.columnLabels, s.rowLabels⟩

/-! ## Making stores -/

/-- The store of some rows of any lengths; short rows are filled up with nulls. -/
def ofRows (rows : List (List Cell)) : Store :=
  let width := rows.foldr (fun row width => max row.length width) 0
  ⟨rows.map (Checked.resize width .null), List.replicate rows.length none,
    List.replicate width none⟩

/-- The store of some rows whose first column or first row may hold labels. A header that is longer
than the rows adds columns. -/
def ofLabeledRows (rows : List (List Cell)) (firstColumn firstRow : Bool) : Answer Store := do
  let header := if firstRow then rows.head?.getD [] else []
  let header := if firstColumn then header.drop 1 else header
  let body := if firstRow then rows.drop 1 else rows
  let rowHeads := if firstColumn then body.map fun row => row.head?.getD .null else []
  let body := if firstColumn then body.map (·.drop 1) else body
  let s := (ofRows body).grow .column header.length
  let s ← s.setLabelsIfAny .column (header.map Grid.headerLabel)
  s.setLabelsIfAny .row (rowHeads.map Grid.headerLabel)

end Store

end Tabular
