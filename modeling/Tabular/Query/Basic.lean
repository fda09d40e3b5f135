/-
Queries: expressions of selectors in postfix order. Compiling a text checks its brackets, then
the number of selectors, then each selector from the left, and last the shape of the whole.
-/
import Tabular.Query.Postfix
import Tabular.Query.Selector

namespace Tabular

/-- A compiled query. One without steps keeps every line. -/
structure Query where
  source : String
  steps : List (Step Selector)
  deriving DecidableEq

namespace Query

/-- The selectors of a query, in the order of its steps. -/
def selectors (q : Query) : List Selector :=
  q.steps.filterMap Step.operand?

def isEmpty (q : Query) : Bool :=
  q.steps.isEmpty

/-- Refuses tokens with more selectors than the limit, if there is one. -/
def checkLimit (limit : Option Nat) (tokens : List (Token String)) : Except QueryError Unit :=
  match limit with
  | some n =>
    if n < (tokens.filterMap Token.operand?).length then .error (.tooManySelectors n) else .ok ()
  | none => .ok ()

/-- Compiles a query of at most `limit` selectors. -/
def parseWith (limit : Option Nat) (source : String) : Except QueryError Query := do
  let tokens ← Token.tokenize source
  checkLimit limit tokens
  let operands ← Token.traverse Selector.parse tokens
  let steps := Step.ofTokens operands
  (Step.check steps).mapError .malformed
  pure ⟨source, steps⟩

/-- Compiles a query. -/
def parse (source : String) : Except QueryError Query :=
  parseWith none source

end Query

end Tabular
