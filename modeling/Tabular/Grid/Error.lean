/-
What can be wrong with a request to a grid, and the message for each cause.
-/
import Tabular.Query.Error

namespace Tabular

inductive GridError where
  | query (cause : QueryError)
  | keyNotFound (axis : Axis) (key : Nat)
  | labelNotFound (axis : Axis) (label : String)
  | duplicateLabel (axis : Axis) (label : String)
  | emptyAxis (axis : Axis)
  | tooManyLabels (axis : Axis) (given count : Nat)
  | noData
  | badCsv
  | badJson
  | inputOutput
  deriving DecidableEq

def GridError.message : GridError → String
  | .query cause => cause.message
  | .keyNotFound axis key => axis.name ++ " key " ++ toString key ++ " not found"
  | .labelNotFound axis label => axis.name ++ " label '" ++ label ++ "' not found"
  | .duplicateLabel axis label => axis.name ++ " label '" ++ label ++ "' already exists"
  | .emptyAxis axis => "cannot assign labels to an empty " ++ axis.name ++ " axis"
  | .tooManyLabels axis given count =>
    toString given ++ " labels given for " ++ toString count ++ " " ++ axis.name ++ "s"
  | .noData => "no data found"
  | .badCsv => "CSV error"
  | .badJson => "JSON error"
  | .inputOutput => "I/O error"

end Tabular
