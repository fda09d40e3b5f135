/-
The changes of a table as data. Three of them take something from another table, whose type is a
parameter. An edit of a grid that fails leaves the grid as it was, so a run of edits is a fold over
their list.
-/
import Tabular.Grid.Combine
import Tabular.Grid.Labels
import Tabular.Grid.Search

namespace Tabular

/-- A change of a table; some take lines or labels from another table. -/
inductive Change (Table : Type) where
  | append (axis : Axis) (cells : List Cell) (label : Option String)
  | prepend (axis : Axis) (cells : List Cell) (label : Option String)
  | update (axis : Axis) (ref : LineRef) (cells : List Cell)
  | clear (axis : Axis) (ref : LineRef)
  | delete (axis : Axis) (ref : LineRef)
  | deleteEmpty (axis : Axis)
  | swap (axis : Axis) (a b : LineRef) (sticky : Bool)
  | move (axis : Axis) (source target : LineRef) (sticky : Bool)
  | orderBy (axis : Axis) (ref : LineRef) (direction : Direction) (sticky : Bool)
  | merge (axis : Axis) (other : Table)
  | diff (axis : Axis) (other : Table)
  | intersect (axis : Axis) (other : Table)
  | filter (axis : Axis) (test : Nat → Line → Bool)
  | search (axis : Axis) (source : String)
  | searchWith (axis : Axis) (query : Query)
  | transpose
  | setLabels (axis : Axis) (labels : List (Option String))
  | rename (axis : Axis) (ref : LineRef) (label : Option String)
  | clearLabel (axis : Axis) (ref : LineRef)
  | swapLabels (axis : Axis) (a b : LineRef)
  | moveLabel (axis : Axis) (source target : LineRef)
  | setValue (row column : LineRef) (value : Cell)
  | setCell (axis : Axis) (ref cross : LineRef) (value : Cell)

/-- The other tables that a change takes something from. -/
def Change.others {Table : Type} : Change Table → List Table
  | .merge _ other | .diff _ other | .intersect _ other => [other]
  | _ => []

/-- The same change with the other tables turned into another kind of table. -/
def Change.map {Table Other : Type} (turn : Table → Other) : Change Table → Change Other
  | .append axis cells label => .append axis cells label
  | .prepend axis cells label => .prepend axis cells label
  | .update axis ref cells => .update axis ref cells
  | .clear axis ref => .clear axis ref
  | .delete axis ref => .delete axis ref
  | .deleteEmpty axis => .deleteEmpty axis
  | .swap axis a b sticky => .swap axis a b sticky
  | .move axis source target sticky => .move axis source target sticky
  | .orderBy axis ref direction sticky => .orderBy axis ref direction sticky
  | .merge axis other => .merge axis (turn other)
  | .diff axis other => .diff axis (turn other)
  | .intersect axis other => .intersect axis (turn other)
  | .filter axis test => .filter axis test
  | .search axis source => .search axis source
  | .searchWith axis query => .searchWith axis query
  | .transpose => .transpose
  | .setLabels axis labels => .setLabels axis labels
  | .rename axis ref label => .rename axis ref label
  | .clearLabel axis ref => .clearLabel axis ref
  | .swapLabels axis a b => .swapLabels axis a b
  | .moveLabel axis source target => .moveLabel axis source target
  | .setValue row column value => .setValue row column value
  | .setCell axis ref cross value => .setCell axis ref cross value

/-- A change of a grid. -/
abbrev Edit := Change Grid

namespace Edit

/-- Makes a change, or says why it cannot be made. -/
def apply (edit : Edit) (g : Grid) : Except GridError Grid :=
  match edit with
  | .append axis cells label => g.append axis cells label
  | .prepend axis cells label => g.prepend axis cells label
  | .update axis ref cells => g.update axis ref cells
  | .clear axis ref => g.clear axis ref
  | .delete axis ref => g.delete axis ref
  | .deleteEmpty axis => .ok (g.deleteEmpty axis)
  | .swap axis a b sticky => g.swap axis a b sticky
  | .move axis source target sticky => g.move axis source target sticky
  | .orderBy axis ref direction sticky => g.orderBy axis ref direction sticky
  | .merge axis other => .ok (g.merge axis other)
  | .diff axis other => .ok (g.diff axis other)
  | .intersect axis other => .ok (g.intersect axis other)
  | .filter axis test => .ok (g.filter axis test)
  | .search axis source => g.search source axis
  | .searchWith axis query => g.searchWith query axis
  | .transpose => .ok g.transpose
  | .setLabels axis labels => g.setLabels axis labels
  | .rename axis ref label => g.rename axis ref label
  | .clearLabel axis ref => g.clearLabel axis ref
  | .swapLabels axis a b => g.swapLabels axis a b
  | .moveLabel axis source target => g.moveLabel axis source target
  | .setValue row column value => g.setValue row column value
  | .setCell axis ref cross value => (g.key axis ref).bind fun k => g.setCell axis k cross value

/-- The grid after an edit, which is the grid before it when the edit fails. -/
def applyOrKeep (g : Grid) (edit : Edit) : Grid :=
  match edit.apply g with
  | .ok changed => changed
  | .error _ => g

/-- The grid after some edits, one after the other. -/
def run (edits : List Edit) (g : Grid) : Grid :=
  edits.foldl applyOrKeep g

end Edit

end Tabular
