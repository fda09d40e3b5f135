/-
The arguments of the command line: a subcommand, one file, and options in any order. An option
is given once, with its value after an equals sign or as the next argument; after two dashes
alone all that follows are files.
-/
import Tabular.Axis

namespace Tabular.CommandLine

/-- The form of the output of a search. -/
inductive Format where
  | csv
  | json
  deriving DecidableEq

def Format.ofName? (name : String) : Option Format :=
  if name = "csv" then some .csv else if name = "json" then some .json else none

/-- How the input is read. -/
structure Input where
  file : String
  rowLabels : Bool
  columnLabels : Bool
  delimiter : Char
  deriving DecidableEq

inductive Command where
  | version
  | info (input : Input)
  | search (input : Input) (axis : Axis) (query : String) (format : Format) (pretty : Bool)
  deriving DecidableEq

/-! ## Options -/

/-- The options of a subcommand: those with a value and those without. -/
structure Options where
  valued : List String
  flags : List String

def infoOptions : Options :=
  ⟨["delimiter"], ["row-labels", "column-labels"]⟩

def searchOptions : Options :=
  ⟨["delimiter", "rows", "columns", "format"], ["row-labels", "column-labels", "pretty"]⟩

/-- The arguments of a subcommand, sorted. -/
structure Arguments where
  files : List String
  values : List (String × String)
  flags : List String
  deriving DecidableEq

namespace Arguments

def empty : Arguments :=
  ⟨[], [], []⟩

def value? (args : Arguments) (name : String) : Option String :=
  args.values.lookup name

def addFile (args : Arguments) (file : String) : Arguments :=
  { args with files := args.files ++ [file] }

/-- Adds the value of an option that has none yet. -/
def addValue? (args : Arguments) (name value : String) : Option Arguments :=
  if (args.value? name).isSome then none
  else some { args with values := (name, value) :: args.values }

/-- Adds a flag that has not been given yet. -/
def addFlag? (args : Arguments) (name : String) : Option Arguments :=
  if args.flags.contains name then none else some { args with flags := name :: args.flags }

end Arguments

/-- An argument by its form: a file, the two dashes, or an option with a value joined to it. A
single dash is a file. -/
inductive Form where
  | file
  | dashes
  | long (name : String) (value : Option String)
  | short
  deriving DecidableEq

/-- The form of an argument. -/
def form (arg : String) : Form :=
  match arg.toList with
  | ['-', '-'] => .dashes
  | '-' :: '-' :: rest =>
    let name := String.ofList (rest.takeWhile (· != '='))
    match rest.dropWhile (· != '=') with
    | [] => .long name none
    | _ :: value => .long name (some (String.ofList value))
  | ['-'] => .file
  | '-' :: _ => .short
  | _ => .file

/-- Sorts arguments; there is no result when they break the rules of the options. -/
def sort? (options : Options) (args : Arguments) : List String → Option Arguments
  | [] => some args
  | arg :: rest =>
    match form arg with
    | .file => sort? options (args.addFile arg) rest
    | .dashes => some (rest.foldl Arguments.addFile args)
    | .short => none
    | .long name (some value) =>
      if options.valued.contains name then
        (args.addValue? name value).bind fun args => sort? options args rest
      else none
    | .long name none =>
      if options.flags.contains name then
        (args.addFlag? name).bind fun args => sort? options args rest
      else if options.valued.contains name then
        match rest with
        | [] => none
        | value :: rest =>
          if form value = .file then
            (args.addValue? name value).bind fun args => sort? options args rest
          else none
      else none

/-! ## Commands -/

/-- The single file of the arguments, which has a name. -/
def file? (args : Arguments) : Option String :=
  match args.files with
  | [file] => if file = "" then none else some file
  | _ => none

/-- The delimiter, a comma unless one character is given. -/
def delimiter? (args : Arguments) : Option Char :=
  match args.value? "delimiter" with
  | none => some ','
  | some s =>
    match s.toList with
    | [c] => some c
    | _ => none

def input? (args : Arguments) : Option Input := do
  let file ← file? args
  let delimiter ← delimiter? args
  pure ⟨file, args.flags.contains "row-labels", args.flags.contains "column-labels", delimiter⟩

/-- The axis and the query, exactly one of which is given. -/
def target? (args : Arguments) : Option (Axis × String) :=
  match args.value? "rows", args.value? "columns" with
  | some query, none => some (.row, query)
  | none, some query => some (.column, query)
  | _, _ => none

/-- The output format: as given, else as the environment says, else CSV. -/
def format? (environment : Option String) (args : Arguments) : Option Format :=
  match args.value? "format", environment with
  | some name, _ => Format.ofName? name
  | none, some name => Format.ofName? name
  | none, none => some .csv

/-- Whether an argument asks for the version. The short form stands for itself, whatever is joined
to it. -/
def asksVersion (arg : String) : Bool :=
  arg == "--version" || ['-', 'V'].isPrefixOf arg.toList

/-- The command that a subcommand and its arguments ask for. -/
def ofSubcommand? (environment : Option String) : List String → Option Command
  | "info" :: rest => do
    let args ← sort? infoOptions .empty rest
    let input ← input? args
    pure (.info input)
  | "search" :: rest => do
    let args ← sort? searchOptions .empty rest
    let input ← input? args
    let (axis, query) ← target? args
    let format ← format? environment args
    pure (.search input axis query format (args.flags.contains "pretty"))
  | _ => none

/-- The command that some arguments ask for. The version is given for its own sake: nothing after
it is looked at. -/
def parse? (environment : Option String) (args : List String) : Option Command :=
  if (args.head?.map asksVersion).getD false then some .version
  else ofSubcommand? environment args

end Tabular.CommandLine
