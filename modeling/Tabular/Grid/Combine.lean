/-
Two grids along an axis: adding the lines of the other, and keeping the lines whose labels the
other has or lacks.
-/
import Tabular.Grid.Lines

namespace Tabular.Grid

/-- Adds a line after the last unless it has a label that another line carries. -/
def addLine (axis : Axis) (g : Grid) (line : Line) : Grid :=
  if line.label.any (g.hasLabel axis ·) then g else g.insertLine axis (g.count axis) line

/-- Labels a line unless another line carries the label. -/
def adoptLabel (axis : Axis) (g : Grid) (key : Nat) (label : Option String) : Grid :=
  match label with
  | some l =>
    if g.hasLabel axis l then g else g.withLabels axis ((g.labels axis).set key (some l))
  | none => g

/-- Adds the lines of another grid whose labels are not taken. Lines that this adds to the cross
axis are labelled as in the other grid where that label is free. -/
def merge (axis : Axis) (g other : Grid) : Grid :=
  let before := g.count axis.cross
  let merged := (other.lines axis).foldl (addLine axis) g
  let added := merged.count axis.cross - before
  let names := ((other.labels axis.cross).zipIdx.drop before).take added
  names.foldl (fun g (label, key) => g.adoptLabel axis.cross key label) merged

/-- Keeps the lines whose label the other grid lacks, and those without one. -/
def diff (axis : Axis) (g other : Grid) : Grid :=
  g.discard axis fun line => line.label.any (other.hasLabel axis ·)

/-- Keeps the lines whose label the other grid has. -/
def intersect (axis : Axis) (g other : Grid) : Grid :=
  g.discard axis fun line => !line.label.any (other.hasLabel axis ·)

end Tabular.Grid
