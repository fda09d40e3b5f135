/-
Adding, overwriting and removing whole lines. A line that is longer than the others makes the
cross axis grow; a shorter one is filled up with nulls.
-/
import Tabular.Grid.Basic

namespace Tabular.Grid

/-! ## Rows -/

/-- Puts a row in at an index. -/
def insertRow (index : Nat) (row : Line) (g : Grid) : Grid :=
  let wide := g.widen row.cells.length
  let cells := row.cells.rightpad wide.columnLabels.length .null
  { wide with rows := wide.rows.insertIdx index { row with cells := cells } }

/-- Replaces the cells of a row. -/
def writeRow (index : Nat) (cells : List Cell) (g : Grid) : Grid :=
  let wide := g.widen cells.length
  let cells := cells.rightpad wide.columnLabels.length .null
  { wide with rows := wide.rows.modify index fun row => { row with cells := cells } }

def removeRow (index : Nat) (g : Grid) : Grid :=
  { g with rows := g.rows.eraseIdx index }

/-- The rows at some positions, in the order of the positions. -/
def pickRows (keys : List Nat) (g : Grid) : Grid :=
  { g with rows := picked keys g.rows }

/-! ## Columns -/

/-- Puts a column in at an index: each row takes in its cell there. -/
def insertColumn (index : Nat) (column : Line) (g : Grid) : Grid :=
  let tall := g.heighten column.cells.length
  let cells := column.cells.rightpad tall.rows.length .null
  { rows := List.zipWith (fun row cell => { row with cells := row.cells.insertIdx index cell })
      tall.rows cells
    columnLabels := tall.columnLabels.insertIdx index column.label }

/-- Replaces the cells of a column, one in each row. -/
def writeColumn (index : Nat) (cells : List Cell) (g : Grid) : Grid :=
  let tall := g.heighten cells.length
  let cells := cells.rightpad tall.rows.length .null
  { tall with
    rows := List.zipWith (fun row cell => { row with cells := row.cells.set index cell })
      tall.rows cells }

def removeColumn (index : Nat) (g : Grid) : Grid where
  rows := g.rows.map fun row => { row with cells := row.cells.eraseIdx index }
  columnLabels := g.columnLabels.eraseIdx index

/-- The columns at some positions, in the order of the positions. -/
def pickColumns (keys : List Nat) (g : Grid) : Grid where
  rows := g.rows.map fun row => { row with cells := picked keys row.cells }
  columnLabels := picked keys g.columnLabels

/-! ## Lines of either axis -/

/-- Puts a line in at an index. -/
def insertLine (axis : Axis) (index : Nat) (line : Line) (g : Grid) : Grid :=
  match axis with
  | .row => g.insertRow index line
  | .column => g.insertColumn index line

/-- Replaces the cells of a line. -/
def writeLine (axis : Axis) (index : Nat) (cells : List Cell) (g : Grid) : Grid :=
  match axis with
  | .row => g.writeRow index cells
  | .column => g.writeColumn index cells

def removeLine (axis : Axis) (index : Nat) (g : Grid) : Grid :=
  match axis with
  | .row => g.removeRow index
  | .column => g.removeColumn index

/-- The grid of the lines at some positions. -/
def pick (axis : Axis) (keys : List Nat) (g : Grid) : Grid :=
  match axis with
  | .row => g.pickRows keys
  | .column => g.pickColumns keys

/-- Removes a line if it passes a test. -/
def discardLine (axis : Axis) (test : Line → Bool) (index : Nat) (g : Grid) : Grid :=
  if (g.lines axis)[index]?.any test then g.removeLine axis index else g

/-- Removes the lines that pass a test, the last first. -/
def discard (axis : Axis) (test : Line → Bool) (g : Grid) : Grid :=
  (List.range (g.count axis)).foldr (discardLine axis test) g

/-- The label as it would be stored, unless a line other than the owner carries it. -/
def freeLabel (axis : Axis) (label : Option String) (owner : Option Nat) (g : Grid) :
    Except GridError (Option String) :=
  match normalizeLabel label with
  | none => .ok none
  | some l =>
    match g.find? axis l with
    | none => .ok (some l)
    | some k => if owner = some k then .ok (some l) else .error (.duplicateLabel axis l)

/-- Puts a line in at an index, under a label that is free. -/
def insert (axis : Axis) (index : Nat) (cells : List Cell) (label : Option String) (g : Grid) :
    Except GridError Grid :=
  (g.freeLabel axis label none).map fun label => g.insertLine axis index ⟨label, cells⟩

/-- Adds a line after the last. -/
def append (axis : Axis) (cells : List Cell) (label : Option String) (g : Grid) :
    Except GridError Grid :=
  g.insert axis (g.count axis) cells label

/-- Adds a line before the first. -/
def prepend (axis : Axis) (cells : List Cell) (label : Option String) (g : Grid) :
    Except GridError Grid :=
  g.insert axis 0 cells label

/-- Replaces the cells of a line. -/
def update (axis : Axis) (ref : LineRef) (cells : List Cell) (g : Grid) : Except GridError Grid :=
  (g.key axis ref).map fun k => g.writeLine axis k cells

/-- Makes all cells of a line null. -/
def clear (axis : Axis) (ref : LineRef) (g : Grid) : Except GridError Grid :=
  g.update axis ref []

/-- Takes a line out and answers with its cells. -/
def take (axis : Axis) (ref : LineRef) (g : Grid) : Except GridError (List Cell × Grid) :=
  (g.line axis ref).map fun (k, line) => (line.cells, g.removeLine axis k)

def delete (axis : Axis) (ref : LineRef) (g : Grid) : Except GridError Grid :=
  (g.take axis ref).map (·.2)

/-- Removes the lines whose cells are all null. -/
def deleteEmpty (axis : Axis) (g : Grid) : Grid :=
  g.discard axis fun line => line.cells.all Cell.isNull

/-- The grid of the lines that pass a test. -/
def filter (axis : Axis) (test : Nat → Line → Bool) (g : Grid) : Grid :=
  g.pick axis (((g.lines axis).zipIdx.filter fun (line, key) => test key line).map (·.2))

/-! ## Single cells -/

/-- Sets the cell of a line at a position of the cross axis. -/
def putCell (axis : Axis) (key cross : Nat) (value : Cell) (g : Grid) : Grid :=
  let (row, column) := match axis with
    | .row => (key, cross)
    | .column => (cross, key)
  { g with
    rows := g.rows.modify row fun line => { line with cells := line.cells.set column value } }

/-- Sets the cell of a row and a column; the row is looked up first. -/
def setValue (row column : LineRef) (value : Cell) (g : Grid) : Except GridError Grid := do
  let r ← g.key .row row
  let c ← g.key .column column
  pure (g.putCell .row r c value)

/-- Sets the cell of a line at a reference on the cross axis. -/
def setCell (axis : Axis) (key : Nat) (cross : LineRef) (value : Cell) (g : Grid) :
    Except GridError Grid :=
  (g.key axis.cross cross).map fun c => g.putCell axis key c value

/-- Sets cells of one line from the first write on, up to the first that fails. Answers with the
grid after the last that succeeded, and with the failure. -/
def setCells (axis : Axis) (key : Nat) : List (LineRef × Cell) → Grid → Grid × Option GridError
  | [], g => (g, none)
  | (cross, value) :: writes, g =>
    match g.setCell axis key cross value with
    | .ok changed => setCells axis key writes changed
    | .error e => (g, some e)

end Tabular.Grid
