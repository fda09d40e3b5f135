/-
Grids as CSV. Each row is a record, with its label in front where row labels are kept; a header
of column labels comes first where those are kept, with an empty corner. All that is read is
text, unless types are inferred.
-/
import Tabular.Csv.Writer
import Tabular.Grid.Basic

namespace Tabular

/-- Which labels a CSV text keeps. -/
structure CsvLabels where
  rows : Bool
  columns : Bool
  deriving DecidableEq

namespace Csv

/-- The text of a field, if it is well-formed. -/
def decodeField (bytes : List UInt8) : Option String :=
  String.fromUTF8? ⟨bytes.toArray⟩

def encodeField (s : String) : List UInt8 :=
  s.toUTF8.toList

/-- The texts of all fields, if they are all well-formed. -/
def decode (records : List Record) : Option (List (List String)) :=
  records.mapM (·.mapM decodeField)

/-- The first record of a grid that keeps its column labels. -/
def header (keep : CsvLabels) (g : Grid) : List String :=
  (if keep.rows then [""] else []) ++ (g.labels .column).map (·.getD "")

/-- The record of a row. -/
def rowTexts (keep : CsvLabels) (row : Line) : List String :=
  (if keep.rows then [row.label.getD ""] else []) ++ row.cells.map Cell.asText

/-- The records of a grid. -/
def ofGrid (keep : CsvLabels) (g : Grid) : List (List String) :=
  (if keep.columns then [header keep g] else []) ++ g.rows.map (rowTexts keep)

end Csv

namespace Grid

/-- The CSV text of a grid. Special bytes beyond ASCII may leave no text. -/
def toCsv (layout : Csv.Layout) (keep : CsvLabels) (g : Grid) : Except GridError String :=
  let records := (Csv.ofGrid keep g).map (·.map Csv.encodeField)
  match Csv.decodeField (Csv.write layout records) with
  | some text => .ok text
  | none => .error .inputOutput

/-- The grid of some CSV bytes. -/
def ofCsv (dialect : Csv.Dialect) (keep : CsvLabels) (infer : Bool) (bytes : List UInt8) :
    Except GridError Grid :=
  match Csv.decode (Csv.records dialect bytes) with
  | none => .error .badCsv
  | some texts =>
    let cell := if infer then Cell.infer else Cell.text
    Grid.ofLabeledRows (texts.map (·.map cell)) keep.rows keep.columns

end Grid

end Tabular
