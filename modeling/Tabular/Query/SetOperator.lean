/-
The operators that join the terms of a query: both, one without the other, either. Both and
without bind more tightly than either, and every chain groups to the left.
-/
namespace Tabular

/-- A join of two terms. -/
inductive SetOperator where
  | intersection
  | difference
  | union
  deriving DecidableEq

namespace SetOperator

def toChar : SetOperator → Char
  | .intersection => '+'
  | .difference => '-'
  | .union => ','

def ofChar? (c : Char) : Option SetOperator :=
  if c = '+' then some .intersection
  else if c = '-' then some .difference
  else if c = ',' then some .union
  else none

/-- How tightly an operator binds. -/
def precedence : SetOperator → Nat
  | .intersection => 10
  | .difference => 10
  | .union => 0

/-- Whether equal precedence groups to the left, which it does for every operator. -/
def isLeftAssociative : SetOperator → Bool
  | _ => true

/-- The answer for a line that the two terms answered so. -/
def apply : SetOperator → Bool → Bool → Bool
  | .intersection, a, b => a && b
  | .difference, a, b => a && !b
  | .union, a, b => a || b

/-- Whether an operator that arrives after `top` lets `top` take its terms first. -/
def yieldsTo (op top : SetOperator) : Bool :=
  if op.isLeftAssociative then op.precedence ≤ top.precedence
  else op.precedence < top.precedence

theorem union_yieldsTo (top : SetOperator) : union.yieldsTo top = true := by
  cases top <;> rfl

theorem not_yieldsTo_union {op : SetOperator} (h : op ≠ .union) : op.yieldsTo .union = false := by
  cases op with
  | union => exact absurd rfl h
  | intersection | difference => rfl

theorem yieldsTo_of_ne_union {op top : SetOperator} (h : op ≠ .union) (ht : top ≠ .union) :
    op.yieldsTo top = true := by
  cases op <;> cases top <;> simp_all [yieldsTo, isLeftAssociative, precedence]

theorem ofChar?_toChar (op : SetOperator) : ofChar? op.toChar = some op := by
  cases op <;> decide

theorem toChar_of_ofChar? {c : Char} {op : SetOperator} (h : ofChar? c = some op) :
    op.toChar = c := by
  unfold ofChar? at h
  split at h
  · cases h; simp_all [toChar]
  · split at h
    · cases h; simp_all [toChar]
    · split at h
      · cases h; simp_all [toChar]
      · cases h

end SetOperator

end Tabular
