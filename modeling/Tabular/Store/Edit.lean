/-
The changes of a table made on a store, from its operations on lines, cells and labels. What a
change needs is looked up before its first step, so one that is refused has changed nothing.
-/
import Tabular.Grid.Edit
import Tabular.Store.Basic

namespace Tabular

namespace Store

/-! ## Whole lines -/

/-- Puts a line in at an index, under a label that is free. -/
def insert (axis : Axis) (index : Nat) (cells : List Cell) (label : Option String) (s : Store) :
    Answer Store := do
  let label ← s.freeLabel axis label none
  s.insertLine axis index ⟨label, cells⟩

/-- Replaces the cells of a line. -/
def update (axis : Axis) (ref : LineRef) (cells : List Cell) (s : Store) : Answer Store := do
  let k ← s.key axis ref
  s.writeLine axis k cells

/-- Takes a line out and answers with its cells. -/
def take (axis : Axis) (ref : LineRef) (s : Store) : Answer (List Cell × Store) := do
  let k ← s.key axis ref
  let (line, rest) ← s.removeLine axis k
  pure (line.cells, rest)

def delete (axis : Axis) (ref : LineRef) (s : Store) : Answer Store := do
  let (_, rest) ← s.take axis ref
  pure rest

/-- Removes a line if it passes a test. -/
def discardLine (axis : Axis) (test : Store → Nat → Answer Bool) (s : Store) (key : Nat) :
    Answer Store := do
  if ← test s key then
    let (_, rest) ← s.removeLine axis key
    pure rest
  else pure s

/-- Removes the lines that pass a test, the last first. -/
def discard (axis : Axis) (test : Store → Nat → Answer Bool) (s : Store) : Answer Store :=
  (List.range (s.count axis)).reverse.foldlM (discardLine axis test) s

/-- Removes the lines whose cells are all null. -/
def deleteEmpty (axis : Axis) (s : Store) : Answer Store :=
  s.discard axis fun s key => do
    let cells ← s.cellsAt axis key
    pure (cells.all Cell.isNull)

/-- Removes the lines whose label passes a test. -/
def discardLabels (axis : Axis) (test : Option String → Bool) (s : Store) : Answer Store :=
  s.discard axis fun s key => do
    let label ← Checked.get key (s.labels axis)
    pure (test label)

/-- The store of the lines that pass a test. -/
def filter (axis : Axis) (test : Nat → Line → Bool) (s : Store) : Answer Store := do
  let lines ← s.lines axis
  s.pick axis ((lines.zipIdx.filter fun (line, key) => test key line).map (·.2))

/-! ## Order -/

/-- Exchanges two lines. -/
def swap (axis : Axis) (a b : LineRef) (sticky : Bool) (s : Store) : Answer Store := do
  let a ← s.key axis a
  let b ← s.key axis b
  let s ← s.swapLines axis a b
  if sticky then s.relabel axis (Checked.swap a b) else pure s

/-- Moves a line to another position; the lines between shift. -/
def move (axis : Axis) (source target : LineRef) (sticky : Bool) (s : Store) : Answer Store := do
  let a ← s.key axis source
  let b ← s.key axis target
  let (moved, order) ← Checked.remove a (List.range (s.count axis))
  let order ← Checked.insert b moved order
  s.permute axis order sticky

/-- Sorts the lines of an axis by their cells at a line of the cross axis. -/
def orderBy (axis : Axis) (ref : LineRef) (direction : Direction) (sticky : Bool) (s : Store) :
    Answer Store := do
  let k ← s.key axis.cross ref
  let keys := List.range (s.count axis)
  let cells ← keys.mapM fun key => s.cellAt axis key k
  s.permute axis (direction.sortBy (fun key => cells.getD key .null) keys) sticky

/-! ## Two stores -/

/-- Adds a line after the last unless it has a label that another line carries. -/
def addLine (axis : Axis) (s : Store) (line : Line) : Answer Store :=
  if line.label.any (s.hasLabel axis ·) then pure s else s.insertLine axis (s.count axis) line

/-- Gives a line the label that it has in another store, unless another line carries the label. -/
def adoptLabel (axis : Axis) (other s : Store) (key : Nat) : Answer Store := do
  match ← Checked.get key (other.labels axis) with
  | some l =>
    if s.hasLabel axis l then pure s else s.relabel axis (Checked.set key (some l))
  | none => pure s

/-- Adds the lines of another store whose labels are not taken. Lines that this adds to the cross
axis are labelled as in the other store where that label is free. -/
def merge (axis : Axis) (s other : Store) : Answer Store := do
  let before := s.count axis.cross
  let lines ← other.lines axis
  let merged ← lines.foldlM (addLine axis) s
  let after := min (merged.count axis.cross) (other.count axis.cross)
  (List.range' before (after - before)).foldlM (adoptLabel axis.cross other) merged

/-- Keeps the lines whose label the other store lacks, and those without one. -/
def diff (axis : Axis) (s other : Store) : Answer Store :=
  s.discardLabels axis fun label => label.any (other.hasLabel axis ·)

/-- Keeps the lines whose label the other store has. -/
def intersect (axis : Axis) (s other : Store) : Answer Store :=
  s.discardLabels axis fun label => !label.any (other.hasLabel axis ·)

/-! ## Searching -/

/-- A store as a query sees it. -/
def view (s : Store) : TableView where
  count axis := s.count axis
  label? axis key := ((s.labels axis)[key]?).join
  cell? axis key cross :=
    let (row, column) := match axis with
      | .row => (key, cross)
      | .column => (cross, key)
    s.data[row]?.bind (·[column]?)
  findLabel? axis label := s.find? axis label

/-- The store of the lines that a compiled query keeps. -/
def searchWith (query : Query) (axis : Axis) (s : Store) : Answer Store := do
  let keys ← (query.select s.view axis).mapError fun cause => .refused (.query cause)
  s.pick axis keys

/-- The store of the lines that a query keeps; a blank query keeps all. -/
def search (source : String) (axis : Axis) (s : Store) : Answer Store :=
  if (Text.trim source.toList).isEmpty then .ok s
  else do
    let query ← (Query.parse source).mapError fun cause => .refused (.query cause)
    s.searchWith query axis

/-! ## Labels -/

/-- Gives a line a label, or takes it away. -/
def rename (axis : Axis) (ref : LineRef) (label : Option String) (s : Store) : Answer Store := do
  let k ← s.key axis ref
  let label ← s.freeLabel axis label (some k)
  s.relabel axis (Checked.set k label)

def clearLabel (axis : Axis) (ref : LineRef) (s : Store) : Answer Store := do
  let k ← s.key axis ref
  s.relabel axis (Checked.set k none)

/-- Exchanges the labels of two lines. -/
def swapLabels (axis : Axis) (a b : LineRef) (s : Store) : Answer Store := do
  let a ← s.key axis a
  let b ← s.key axis b
  s.relabel axis (Checked.swap a b)

/-- Moves a label to another line; the labels between shift. The target is looked up first. -/
def moveLabel (axis : Axis) (source target : LineRef) (s : Store) : Answer Store := do
  let b ← s.key axis target
  let a ← s.key axis source
  s.relabel axis fun labels => do
    let (label, labels) ← Checked.remove a labels
    Checked.insert b label labels

/-! ## Single cells -/

/-- Sets the cell of a row and a column; the row is looked up first. -/
def setValue (row column : LineRef) (value : Cell) (s : Store) : Answer Store := do
  let r ← s.key .row row
  let c ← s.key .column column
  s.putCell .row r c value

/-- Sets the cell of a line at a reference on the cross axis. -/
def setCell (axis : Axis) (key : Nat) (cross : LineRef) (value : Cell) (s : Store) :
    Answer Store := do
  let c ← s.key axis.cross cross
  s.putCell axis key c value

/-- Sets cells of one line from the first write on, up to the first that fails. Answers with the
store after the last that succeeded, and with the failure. -/
def setCells (axis : Axis) (key : Nat) : List (LineRef × Cell) → Store → Store × Option Fault
  | [], s => (s, none)
  | (cross, value) :: writes, s =>
    match s.setCell axis key cross value with
    | .ok changed => setCells axis key writes changed
    | .error e => (s, some e)

/-! ## Changes -/

/-- Makes a change, or says why it cannot be made. -/
def apply (change : Change Store) (s : Store) : Answer Store :=
  match change with
  | .append axis cells label => s.insert axis (s.count axis) cells label
  | .prepend axis cells label => s.insert axis 0 cells label
  | .update axis ref cells => s.update axis ref cells
  | .clear axis ref => s.update axis ref []
  | .delete axis ref => s.delete axis ref
  | .deleteEmpty axis => s.deleteEmpty axis
  | .swap axis a b sticky => s.swap axis a b sticky
  | .move axis source target sticky => s.move axis source target sticky
  | .orderBy axis ref direction sticky => s.orderBy axis ref direction sticky
  | .merge axis other => s.merge axis other
  | .diff axis other => s.diff axis other
  | .intersect axis other => s.intersect axis other
  | .filter axis test => s.filter axis test
  | .search axis source => s.search source axis
  | .searchWith axis query => s.searchWith query axis
  | .transpose => s.transpose
  | .setLabels axis labels => s.setLabels axis labels
  | .rename axis ref label => s.rename axis ref label
  | .clearLabel axis ref => s.clearLabel axis ref
  | .swapLabels axis a b => s.swapLabels axis a b
  | .moveLabel axis source target => s.moveLabel axis source target
  | .setValue row column value => s.setValue row column value
  | .setCell axis ref cross value => do
    let k ← s.key axis ref
    s.setCell axis k cross value

/-- The store after a change, which is the store before it when the change has no answer. -/
def applyOrKeep (s : Store) (change : Change Store) : Store :=
  match s.apply change with
  | .ok changed => changed
  | .error _ => s

/-- The store after some changes, one after the other. -/
def run (changes : List (Change Store)) (s : Store) : Store :=
  changes.foldl applyOrKeep s

end Store

end Tabular
