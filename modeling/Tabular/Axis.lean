/-
The two axes of a grid. Each is the other's cross axis, so going across twice comes back.
-/
namespace Tabular

/-- A direction in a grid: along its rows or along its columns. -/
inductive Axis where
  | row
  | column
  deriving DecidableEq

namespace Axis

/-- The other axis. -/
def cross : Axis → Axis
  | .row => .column
  | .column => .row

/-- The word for one line of the axis, as messages write it. -/
def name : Axis → String
  | .row => "row"
  | .column => "column"

@[simp] theorem cross_cross (a : Axis) : a.cross.cross = a := by
  cases a <;> rfl

end Axis

end Tabular
