/-
Stores made from CSV, JSON documents and snapshots.
-/
import Tabular.Csv.Table
import Tabular.Json.Snapshot
import Tabular.Json.Table
import Tabular.Store.Basic

namespace Tabular

/-- The store of some CSV bytes. -/
def Store.ofCsv (dialect : Csv.Dialect) (keep : CsvLabels) (infer : Bool) (bytes : List UInt8) :
    Answer Store :=
  match Csv.decode (Csv.records dialect bytes) with
  | none => .error (.refused .badCsv)
  | some texts =>
    let cell := if infer then Cell.infer else Cell.text
    Store.ofLabeledRows (texts.map (·.map cell)) keep.rows keep.columns

/-- The store of a document; one without rows has none. -/
def Json.toStore (keep : JsonLabels) (document : Json) : Answer Store := do
  let rows := topLevel document
  if rows.isEmpty then .error (.refused .noData)
  else
    let (columns, cells) := allCells keep.columns [] (rows.map (·.2))
    let s := (Store.ofRows cells).grow .column columns.length
    let s ← s.setLabelsIfAny .column (columns.map some)
    if keep.rows then s.setLabels .row (rows.map fun (key, _) => key) else pure s

/-- The store of a snapshot. The columns are those of the data, and label lists that are empty set
nothing. -/
def Snapshot.toStore (snapshot : Snapshot) : Answer Store := do
  let s ← (Store.ofRows snapshot.data).setLabelsIfAny .row snapshot.rowLabels
  s.setLabelsIfAny .column snapshot.columnLabels

end Tabular
