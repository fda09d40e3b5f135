/-
Grids as JSON documents. A document is a list of rows, or an object of rows under their labels;
a row is a list of cells, or an object of cells under the labels of their columns. On the way
out, lines without a label are keyed by their position, and a level whose keys are exactly the
positions becomes an array. On the way in, the columns are those met first.
-/
import Tabular.Grid.Basic
import Tabular.Json.Reader
import Tabular.Json.Writer

namespace Tabular

/-- Which labels a document keeps. -/
structure JsonLabels where
  rows : Bool
  columns : Bool
  deriving DecidableEq

namespace Json

/-! ## Writing -/

/-- Whether the keys of some entries are their positions from `start` on. -/
def keyedByPosition (start : Nat) : List (String × Json) → Bool
  | [] => true
  | (k, _) :: rest => k == toString start && keyedByPosition (start + 1) rest

/-- The value of keyed entries: an array if they are keyed by position, else an object. -/
def level (entries : List (String × Json)) : Json :=
  if keyedByPosition 0 entries then .array (entries.map (·.2)) else .object (collectMembers entries)

/-- The key of each label: the label if labels are kept and there is one, else the position. -/
def levelKeys (keep : Bool) (labels : List (Option String)) : List String :=
  labels.zipIdx.map fun (label, i) =>
    match label with
    | some l => if keep then l else toString i
    | none => toString i

/-- The document of a grid. -/
def ofGrid (keep : JsonLabels) (g : Grid) : Json :=
  let columnKeys := levelKeys keep.columns (g.labels .column)
  let rowKeys := levelKeys keep.rows (g.labels .row)
  level (rowKeys.zip (g.cells.map fun cells => level (columnKeys.zip (cells.map ofCell))))

/-! ## Reading -/

/-- The rows of a document with their keys, if they have any; a scalar is a row of its own. -/
def topLevel : Json → List (Option String × Json)
  | .null => []
  | .array rows => rows.map fun row => (none, row)
  | .object rows => rows.map fun (k, row) => (some k, row)
  | scalar => [(none, scalar)]

/-- Puts a member of a row under its column, which is added if it is new. -/
def placeMember (state : List String × List Cell) (entry : String × Json) :
    List String × List Cell :=
  let (columns, cells) := state
  let (key, value) := entry
  match columns.findIdx? (· == key) with
  | some i => (columns, cells.set i value.toCell)
  | none => (columns ++ [key], cells ++ [value.toCell])

/-- The cells of a row, and the columns known after it. -/
def rowCells (byKey : Bool) (columns : List String) : Json → List String × List Cell
  | .object members =>
    if byKey then members.foldl placeMember (columns, List.replicate columns.length .null)
    else (columns, members.map fun (_, v) => v.toCell)
  | .array items => (columns, items.map toCell)
  | scalar => (columns, [scalar.toCell])

/-- The cells of all rows, and the columns known at the end. -/
def allCells (byKey : Bool) (columns : List String) : List Json → List String × List (List Cell)
  | [] => (columns, [])
  | row :: rows =>
    let (columns, cells) := rowCells byKey columns row
    let (columns, rest) := allCells byKey columns rows
    (columns, cells :: rest)

/-- The grid of a document; one without rows has none. -/
def toGrid (keep : JsonLabels) (document : Json) : Except GridError Grid := do
  let rows := topLevel document
  if rows.isEmpty then .error .noData
  else
    let (columns, cells) := allCells keep.columns [] (rows.map (·.2))
    let g := (Grid.ofRows cells).widen columns.length
    let g ← g.setLabelsIfAny .column (columns.map some)
    if keep.rows then g.setLabels .row (rows.map fun (key, _) => key) else pure g

end Json

namespace Grid

/-- The JSON text of a grid. -/
def toJsonText (keep : JsonLabels) (indented : Bool) (g : Grid) : String :=
  let document := Json.ofGrid keep g
  if indented then document.indented else document.compact

/-- The grid of a JSON text. -/
def ofJsonText (keep : JsonLabels) (text : String) : Except GridError Grid :=
  match Json.parse? text with
  | some document => document.toGrid keep
  | none => .error .badJson

end Grid

end Tabular
