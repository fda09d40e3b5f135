/-
Running a command against some files. The outcome is an exit code with the output, or with the
messages of a failure from the outermost cause to the innermost.
-/
import Tabular.CommandLine.Arguments
import Tabular.Csv.Table
import Tabular.Grid.Search
import Tabular.Json.Table

namespace Tabular.CommandLine

/-- What a run leaves: success with its output, failure with its causes, or wrong arguments. -/
inductive Outcome where
  | success (output : String)
  | failure (causes : List String)
  | usage
  deriving DecidableEq

/-- What a path leads to: nothing that can be opened, something that opens but cannot be read, such
as a directory, or a file with its bytes. -/
inductive Entry where
  | missing
  | unreadable
  | file (bytes : List UInt8)
  deriving DecidableEq

/-- What each path leads to. -/
abbrev Files := String → Entry

def versionText : String :=
  "gridq 1.3.2\n"

/-! ## Loading -/

/-- The names along a path. Slashes separate them, and a lone point stands for no step. -/
def steps (path : String) : List (List Char) :=
  (path.toList.splitOn '/').filter fun name => name != [] && name != ['.']

/-- The last name of a path, unless the path ends by going up. -/
def fileName? (path : String) : Option (List Char) :=
  (steps path).getLast?.filter (· != ['.', '.'])

/-- The part of a file name after its last point, unless the point comes first. -/
def extension (path : String) : List Char :=
  let reversed := ((fileName? path).getD []).reverse
  match reversed.dropWhile (· != '.') with
  | _ :: _ :: _ => (reversed.takeWhile (· != '.')).reverse
  | _ => []

def isJson (path : String) : Bool :=
  (extension path).map Char.toLower == ['j', 's', 'o', 'n']

/-- The delimiter as a byte. -/
def delimiterByte (c : Char) : Except (List String) UInt8 :=
  if c.toNat < 0x80 then .ok (UInt8.ofNat c.toNat)
  else .error ["delimiter must be a single ASCII character, got '" ++ String.singleton c ++ "'"]

/-- The grid of a JSON file, which is read as one text before anything else. -/
def loadJson (files : Files) (input : Input) : Except GridError Grid :=
  match files input.file with
  | .missing | .unreadable => .error .inputOutput
  | .file bytes =>
    match Csv.decodeField bytes with
    | none => .error .inputOutput
    | some text => Grid.ofJsonText ⟨input.rowLabels, input.columnLabels⟩ text

/-- The grid of a CSV file, whose bytes are read as its records are: a fault in reading is a fault
of the CSV. -/
def loadCsv (files : Files) (input : Input) (delimiter : UInt8) : Except GridError Grid :=
  match files input.file with
  | .missing => .error .inputOutput
  | .unreadable => .error .badCsv
  | .file bytes =>
    Grid.ofCsv ⟨delimiter, 34, none⟩ ⟨input.rowLabels, input.columnLabels⟩ false bytes

/-- A result with a message around the cause of its failure. -/
def within {α : Type} (context : String) (result : Except GridError α) : Except (List String) α :=
  result.mapError fun cause => [context, cause.message]

/-- The grid of the input file. -/
def load (files : Files) (input : Input) : Except (List String) Grid := do
  let context := "failed to load " ++ input.file
  if isJson input.file then within context (loadJson files input)
  else
    let delimiter ← delimiterByte input.delimiter
    within context (loadCsv files input delimiter)

/-! ## Output -/

/-- The text of a grid in the format asked for. -/
def render (input : Input) (format : Format) (pretty : Bool) (g : Grid) :
    Except (List String) String :=
  match format with
  | .csv => do
    let delimiter ← delimiterByte input.delimiter
    (g.toCsv ⟨delimiter, 34, .byte 10⟩ ⟨input.rowLabels, input.columnLabels⟩).mapError fun cause =>
      [cause.message]
  | .json => .ok (g.toJsonText ⟨input.rowLabels, input.columnLabels⟩ pretty ++ "\n")

/-- The labels of an axis in a row; a line without one is named by its position. -/
def describe (labels : List (Option String)) : String :=
  String.intercalate ", " <| labels.zipIdx.map fun (label, key) => label.getD ("/" ++ toString key)

/-- What is printed about a grid. -/
def summary (g : Grid) : String :=
  "rows: " ++ toString (g.count .row) ++ "\ncolumns: " ++ toString (g.count .column)
    ++ "\nrow labels: " ++ describe (g.labels .row)
    ++ "\ncolumn labels: " ++ describe (g.labels .column) ++ "\n"

/-! ## Commands -/

/-- The output of a command. -/
def perform (files : Files) : Command → Except (List String) String
  | .version => .ok versionText
  | .info input => (load files input).map summary
  | .search input axis query format pretty => do
    let g ← load files input
    let found ← within (axis.name ++ " search failed") (g.search query axis)
    render input format pretty found

/-- Runs the command that some arguments ask for. -/
def run (files : Files) (environment : Option String) (args : List String) : Outcome :=
  match parse? environment args with
  | none => .usage
  | some command =>
    match perform files command with
    | .ok output => .success output
    | .error causes => .failure causes

end Tabular.CommandLine
