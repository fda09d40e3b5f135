/-
What can be wrong with a query, and the message for each cause.
-/
import Tabular.Axis
import Tabular.Query.SetOperator

namespace Tabular

/-- The side of a bracket pair that is left alone. -/
inductive Bracket where
  | opening
  | closing
  deriving DecidableEq

def Bracket.name : Bracket → String
  | .opening => "opening"
  | .closing => "closing"

/-- How set operators and terms fail to line up. -/
inductive Misshape where
  | missingTerm (op : SetOperator)
  | unjoinedTerms
  deriving DecidableEq

def Misshape.message : Misshape → String
  | .missingTerm op =>
    "set operator '" ++ String.singleton op.toChar ++ "' needs a term on each side"
  | .unjoinedTerms => "terms must be joined by '+', '-' or ','"

inductive QueryError where
  | unmatchedBracket (side : Bracket)
  | invalidOperator (selector operator : String)
  | missingField (selector : String)
  | malformed (shape : Misshape)
  | tooManySelectors (limit : Nat)
  | unknownField (axis : Axis) (field : String)
  deriving DecidableEq

def QueryError.message : QueryError → String
  | .unmatchedBracket side => "unmatched " ++ side.name ++ " bracket detected"
  | .invalidOperator selector operator =>
    "invalid operator '" ++ operator ++ "' in selector '" ++ selector ++ "'"
  | .missingField selector => "no field found in selector '" ++ selector ++ "'"
  | .malformed shape => "malformed query: " ++ shape.message
  | .tooManySelectors limit => "query exceeds the limit of " ++ toString limit ++ " selectors"
  | .unknownField axis field => "field '" ++ field ++ "' not found among " ++ axis.name ++ " keys"

end Tabular
