/-
Queries against data. Binding finds every field of a query on the cross axis once; after that
each line is decided from its own cells alone. Binding fails at the first field that names
nothing, whatever lines there are.
-/
import Tabular.Query.Basic

namespace Tabular

/-- What a query can ask of a table. -/
structure TableView where
  count : Axis → Nat
  label? : Axis → Nat → Option String
  cell? : Axis → Nat → Nat → Option Cell
  findLabel? : Axis → String → Option Nat

/-- The first key below `count` that carries a label. -/
def firstLabeled (count : Nat) (label? : Nat → Option String) (label : String) : Option Nat :=
  (List.range count).find? fun key => label? key == some label

/-- A field of a query that has been found in a table. -/
inductive BoundField where
  | key
  | label
  | cross (key : Nat)
  deriving DecidableEq

namespace BoundField

/-- Finds a field for the lines of an axis. -/
def of? (table : TableView) (axis : Axis) : Field → Option BoundField
  | .key => some .key
  | .label => some .label
  | .position n => if n < table.count axis.cross then some (.cross n) else none
  | .named name => (table.findLabel? axis.cross name).map .cross

/-- The largest key that a cell can hold; a larger one counts as this. -/
def maxKey : Nat :=
  Int64.maxValue.toNatClampNeg

/-- The cell that a field denotes for a line; what the table does not have is null. -/
def resolve (table : TableView) (axis : Axis) (key : Nat) : BoundField → Cell
  | .key => .integer (Int64.ofNat (min key maxKey))
  | .label => ((table.label? axis key).map .text).getD .null
  | .cross n => (table.cell? axis key n).getD .null

end BoundField

/-- A selector whose fields have been found. -/
structure BoundSelector where
  fields : List BoundField
  operator : Operator
  values : List String
  deriving DecidableEq

namespace BoundSelector

def bind (table : TableView) (axis : Axis) (s : Selector) : Except QueryError BoundSelector := do
  let fields ← s.fields.mapM fun field =>
    match BoundField.of? table axis field with
    | some f => .ok f
    | none => .error (QueryError.unknownField axis.cross field.name)
  pure ⟨fields, s.operator, s.values⟩

/-- Whether some field of a line satisfies the operator with some value. -/
def holds (table : TableView) (axis : Axis) (key : Nat) (s : BoundSelector) : Bool :=
  s.fields.any fun field =>
    s.values.any fun value => s.operator.holds (field.resolve table axis key) value

end BoundSelector

/-- A query whose fields have been found along an axis. -/
structure BoundQuery where
  axis : Axis
  steps : List (Step BoundSelector)
  deriving DecidableEq

namespace BoundQuery

/-- Whether the query keeps a line. A query of one selector asks just that; a longer one runs on a
stack, whose last term has the answer. -/
def keeps (q : BoundQuery) (table : TableView) (key : Nat) : Bool :=
  match q.steps with
  | [] => true
  | [.operand s] => s.holds table q.axis key
  | steps =>
    match Step.run (BoundSelector.holds table q.axis key) [] steps with
    | some (last :: _) => last.answer (BoundSelector.holds table q.axis key)
    | _ => false

/-- The keys of the lines that the query keeps, in order. -/
def select (q : BoundQuery) (table : TableView) : List Nat :=
  (List.range (table.count q.axis)).filter (q.keeps table)

def count (q : BoundQuery) (table : TableView) : Nat :=
  (List.range (table.count q.axis)).countP (q.keeps table)

def any (q : BoundQuery) (table : TableView) : Bool :=
  (List.range (table.count q.axis)).any (q.keeps table)

end BoundQuery

namespace Query

/-- Finds the fields of a query, selectors from the left and fields from the left in each. -/
def bind (q : Query) (table : TableView) (axis : Axis) : Except QueryError BoundQuery := do
  let steps ← Step.traverse (BoundSelector.bind table axis) q.steps
  pure ⟨axis, steps⟩

def select (q : Query) (table : TableView) (axis : Axis) : Except QueryError (List Nat) :=
  (q.bind table axis).map (·.select table)

def count (q : Query) (table : TableView) (axis : Axis) : Except QueryError Nat :=
  (q.bind table axis).map (·.count table)

def any (q : Query) (table : TableView) (axis : Axis) : Except QueryError Bool :=
  (q.bind table axis).map (·.any table)

end Query

end Tabular
