/-
Changing labels without moving cells.
-/
import Tabular.Grid.Arrange
import Tabular.Grid.Lines

namespace Tabular.Grid

/-- Gives a line a label, or takes it away. -/
def rename (axis : Axis) (ref : LineRef) (label : Option String) (g : Grid) :
    Except GridError Grid := do
  let k ← g.key axis ref
  let label ← g.freeLabel axis label (some k)
  pure (g.withLabels axis ((g.labels axis).set k label))

def clearLabel (axis : Axis) (ref : LineRef) (g : Grid) : Except GridError Grid :=
  (g.key axis ref).map fun k => g.withLabels axis ((g.labels axis).set k none)

/-- Exchanges the labels of two lines. -/
def swapLabels (axis : Axis) (a b : LineRef) (g : Grid) : Except GridError Grid := do
  let a ← g.key axis a
  let b ← g.key axis b
  pure (g.withLabels axis (exchange a b (g.labels axis)))

/-- Moves a label to another line; the labels between shift. The target is looked up first. -/
def moveLabel (axis : Axis) (source target : LineRef) (g : Grid) : Except GridError Grid := do
  let b ← g.key axis target
  let a ← g.key axis source
  pure (g.withLabels axis (relocate a b (g.labels axis)))

end Tabular.Grid
