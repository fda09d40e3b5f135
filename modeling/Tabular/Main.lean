/-
The command `gridq`: search a CSV or JSON file, or describe it.
-/
import Tabular.CommandLine.Run

namespace Tabular.CommandLine

/-- The usage line. -/
def usageText : String :=
  "usage: gridq search FILE (--rows QUERY | --columns QUERY) [--format csv|json] [--pretty]\n"
    ++ "       gridq info FILE\n"
    ++ "options: --row-labels --column-labels --delimiter CHAR"

/-- What a path leads to. -/
def entry (path : String) : IO Entry := do
  match ← (IO.FS.Handle.mk path .read).toBaseIO with
  | .error _ => pure .missing
  | .ok handle =>
    match ← handle.readBinToEnd.toBaseIO with
    | .error _ => pure .unreadable
    | .ok bytes => pure (.file bytes.toList)

/-- The file that a command reads, if it reads one. -/
def inputFile? : Command → Option String
  | .version => none
  | .info input => some input.file
  | .search input _ _ _ _ => some input.file

/-- Runs the command and prints what it leaves. -/
def runAndPrint (args : List String) : IO UInt32 := do
  let environment ← IO.getEnv "GRIDQ_FORMAT"
  let path := ((parse? environment args).bind inputFile?).getD ""
  let found ← if path = "" then pure Entry.missing else entry path
  match run (fun p => if p = path then found else .missing) environment args with
  | .success output =>
    IO.print output
    pure 0
  | .failure causes =>
    IO.eprintln ("Error: " ++ String.intercalate ": " causes)
    pure 1
  | .usage =>
    IO.eprintln usageText
    pure 2

end Tabular.CommandLine

def main (args : List String) : IO UInt32 :=
  Tabular.CommandLine.runAndPrint args
