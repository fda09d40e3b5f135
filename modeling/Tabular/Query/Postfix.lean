/-
Postfix order: an expression as the steps of a stack evaluation. Conversion keeps the operands in
order and lets an operator wait on a stack until a weaker one, a closing bracket or the end
releases it. A check on the number of values tells whether the steps reduce to one.
-/
import Tabular.Query.Token

namespace Tabular

/-- A step of a stack evaluation: push an operand, or join the two values on top. -/
inductive Step (α : Type) where
  | operand (value : α)
  | operator (op : SetOperator)
  deriving DecidableEq

namespace Step

/-- The operand of a step, if it is one. -/
def operand? {α : Type} : Step α → Option α
  | .operand a => some a
  | .operator _ => none

/-- Applies a function that may fail to every operand, from the first on. -/
def traverse {α β ε : Type} (f : α → Except ε β) : List (Step α) → Except ε (List (Step β))
  | [] => .ok []
  | .operand a :: steps => do
    let b ← f a
    let rest ← traverse f steps
    pure (.operand b :: rest)
  | .operator op :: steps => do
    let rest ← traverse f steps
    pure (.operator op :: rest)

/-! ## Conversion -/

/-- What waits during conversion: an operator, or a bracket that has not been closed. -/
inductive Waiting where
  | operator (op : SetOperator)
  | bracket
  deriving DecidableEq

/-- Releases the operators on top that the arriving operator yields to. -/
def releaseFor {α : Type} (op : SetOperator) : List Waiting → List (Step α) × List Waiting
  | .operator top :: stack =>
    if op.yieldsTo top then
      let (released, rest) := releaseFor op stack
      (.operator top :: released, rest)
    else ([], .operator top :: stack)
  | stack => ([], stack)

/-- Releases the operators above the nearest open bracket and drops the bracket. -/
def releaseBracket {α : Type} : List Waiting → List (Step α) × List Waiting
  | .operator top :: stack =>
    let (released, rest) := releaseBracket stack
    (.operator top :: released, rest)
  | .bracket :: stack => ([], stack)
  | [] => ([], [])

/-- Releases every operator that still waits. -/
def releaseAll {α : Type} : List Waiting → List (Step α)
  | .operator top :: stack => .operator top :: releaseAll stack
  | .bracket :: stack => releaseAll stack
  | [] => []

def convert {α : Type} (stack : List Waiting) : List (Token α) → List (Step α)
  | [] => releaseAll stack
  | .operand a :: ts => .operand a :: convert stack ts
  | .operator op :: ts =>
    let (released, rest) := releaseFor op stack
    released ++ convert (.operator op :: rest) ts
  | .opening :: ts => convert (.bracket :: stack) ts
  | .closing :: ts =>
    let (released, rest) := releaseBracket stack
    released ++ convert rest ts

/-- The steps of an expression. Any list of tokens has some; a closing bracket without a partner
releases all that waits. -/
def ofTokens {α : Type} (tokens : List (Token α)) : List (Step α) :=
  convert [] tokens

/-! ## The shape check -/

/-- Checks the steps from a number of values on: an operator finds two, and at most one is left. -/
def checkFrom {α : Type} (depth : Nat) : List (Step α) → Except Misshape Unit
  | [] => if 1 < depth then .error .unjoinedTerms else .ok ()
  | .operand _ :: steps => checkFrom (depth + 1) steps
  | .operator op :: steps =>
    if depth < 2 then .error (.missingTerm op) else checkFrom (depth - 1) steps

/-- Whether the steps reduce to at most one value. -/
def check {α : Type} (steps : List (Step α)) : Except Misshape Unit :=
  checkFrom 0 steps

/-! ## Evaluation -/

/-- What stands on the stack: an operand that has not been asked yet, or an answer. -/
inductive Term (α : Type) where
  | pending (operand : α)
  | done (answer : Bool)
  deriving DecidableEq

/-- The answer of a term; a pending operand is asked for its value now. -/
def Term.answer {α : Type} (value : α → Bool) : Term α → Bool
  | .pending a => value a
  | .done b => b

/-- Runs the steps on a stack of terms, the last first. An operator asks both terms it takes; there
is no result when it finds too few. -/
def run {α : Type} (value : α → Bool) : List (Term α) → List (Step α) → Option (List (Term α))
  | stack, [] => some stack
  | stack, .operand a :: steps => run value (.pending a :: stack) steps
  | second :: first :: stack, .operator op :: steps =>
    run value (.done (op.apply (first.answer value) (second.answer value)) :: stack) steps
  | _, .operator _ :: _ => none

end Step

end Tabular
