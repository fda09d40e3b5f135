/-
Snapshots: a grid as a JSON document of its cells and both label lists. Reading one checks the
labels as setting them does. Members that a snapshot does not have are skipped.
-/
import Tabular.Grid.Basic
import Tabular.Json.Reader
import Tabular.Json.Writer

namespace Tabular

/-- The contents of a snapshot; a label list that is left out is empty. -/
structure Snapshot where
  data : List (List Cell)
  rowLabels : List (Option String)
  columnLabels : List (Option String)
  deriving DecidableEq

/-- Why a text gives no grid: it is no snapshot, or the labels do not fit. -/
inductive SnapshotError where
  | malformed
  | rejected (cause : GridError)
  deriving DecidableEq

namespace Snapshot

/-! ## Snapshots and grids -/

def ofGrid (g : Grid) : Snapshot :=
  ⟨g.cells, g.labels .row, g.labels .column⟩

/-- The grid of a snapshot. The columns are those of the data, and label lists that are empty set
nothing. -/
def toGrid (s : Snapshot) : Except GridError Grid := do
  let g ← (Grid.ofRows s.data).setLabelsIfAny .row s.rowLabels
  g.setLabelsIfAny .column s.columnLabels

def labelJson (label : Option String) : Json :=
  (label.map .string).getD .null

/-- The document of a snapshot. -/
def toJson (s : Snapshot) : Json :=
  .object [("data", .array (s.data.map fun row => .array (row.map Json.ofCell))),
    ("row_labels", .array (s.rowLabels.map labelJson)),
    ("column_labels", .array (s.columnLabels.map labelJson))]

/-! ## Reading -/

def cellRow? : Json → Option (List Cell)
  | .array items => items.mapM Json.scalarCell?
  | _ => none

def cells? : Json → Option (List (List Cell))
  | .array rows => rows.mapM cellRow?
  | _ => none

def label? : Json → Option (Option String)
  | .null => some none
  | .string s => some (some s)
  | _ => none

def labels? : Json → Option (List (Option String))
  | .array items => items.mapM label?
  | _ => none

/-- The members that have been read so far. -/
structure Parts where
  data : Option (List (List Cell))
  rowLabels : Option (List (Option String))
  columnLabels : Option (List (Option String))
  deriving DecidableEq

namespace Parts

def none : Parts :=
  ⟨.none, .none, .none⟩

/-- The snapshot of some members, of which the data may not be missing. -/
def toSnapshot? (p : Parts) : Option Snapshot :=
  p.data.map fun data => ⟨data, p.rowLabels.getD [], p.columnLabels.getD []⟩

/-- Whether a key names a member of a snapshot. -/
def isKnown (key : String) : Bool :=
  key == "data" || key == "row_labels" || key == "column_labels"

/-- Adds a member; one that is there already, or has a value of the wrong kind, is refused. -/
def add? (p : Parts) (key : String) (value : Json) : Option Parts :=
  if key = "data" then
    if p.data.isSome then .none else (cells? value).map fun v => { p with data := some v }
  else if key = "row_labels" then
    if p.rowLabels.isSome then .none
    else (labels? value).map fun v => { p with rowLabels := some v }
  else if key = "column_labels" then
    if p.columnLabels.isSome then .none
    else (labels? value).map fun v => { p with columnLabels := some v }
  else some p

end Parts

/-- What is asked of the value of a member. The snapshot itself is one level of nesting. -/
def demand (key : String) : Json.Demand :=
  if Parts.isKnown key then .used (Json.maxDepth - 1) else .skipped

/-- Reads members up to the end of the object and leaves the lexemes after it. -/
def members? (parts : Parts) (ls : List Json.Lexeme) : Option (Parts × List Json.Lexeme) :=
  match ls with
  | .string (some key) :: .colon :: rest =>
    let key := String.ofList key
    match h : Json.read (demand key) rest with
    | none => none
    | some (value, after) =>
      have hlt : after.length < rest.length := Json.length_read h
      match parts.add? key value, after with
      | some parts, .closeObject :: left => some (parts, left)
      | some parts, .comma :: next =>
        have : next.length < rest.length := by
          simp only [List.length_cons] at hlt; omega
        members? parts next
      | _, _ => none
  | _ => none
termination_by ls.length
decreasing_by
  simp only [List.length_cons]; omega

/-- The parts of a snapshot that is written as a list. -/
def listed? : List Json → Option Parts
  | [data] => do pure ⟨some (← cells? data), .none, .none⟩
  | [data, rows] => do pure ⟨some (← cells? data), some (← labels? rows), .none⟩
  | [data, rows, columns] => do
    pure ⟨some (← cells? data), some (← labels? rows), some (← labels? columns)⟩
  | _ => none

/-- Reads the parts of a snapshot and leaves the lexemes after it. -/
def parts? (ls : List Json.Lexeme) : Option (Parts × List Json.Lexeme) :=
  match ls with
  | .openObject :: .closeObject :: rest => some (.none, rest)
  | .openObject :: rest => members? .none rest
  | .openArray :: _ =>
    match Json.read (.used Json.maxDepth) ls with
    | some (.array items, rest) => (listed? items).map fun parts => (parts, rest)
    | _ => none
  | _ => none

/-- The grid of a snapshot text. The labels are checked before the rest of the text is. -/
def parse (text : String) : Except SnapshotError Grid :=
  match parts? (Json.Lexeme.scan text.toList) with
  | none => .error .malformed
  | some (parts, rest) =>
    match parts.toSnapshot? with
    | none => .error .malformed
    | some snapshot =>
      match snapshot.toGrid with
      | .error cause => .error (.rejected cause)
      | .ok g => if rest.isEmpty then .ok g else .error .malformed

end Snapshot

/-- The snapshot text of a grid. -/
def Grid.toSnapshotText (g : Grid) : String :=
  (Snapshot.ofGrid g).toJson.compact

end Tabular
