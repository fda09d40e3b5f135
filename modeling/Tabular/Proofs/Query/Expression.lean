/-
Expressions as trees: the steps of a tree in postfix order, and how many values steps leave on a
stack. The steps of a tree add exactly one value, so the shape check accepts them. Neither
conversion nor the check looks at an operand.
-/
import Tabular.Query.Postfix

namespace Tabular

/-- Operands joined by set operators. -/
inductive Expression (α : Type) where
  | operand (value : α)
  | join (op : SetOperator) (left right : Expression α)
  deriving DecidableEq

variable {α β ε : Type}

/-! ## Counting values -/

namespace Step

/-- The number of values that steps leave on a stack of `depth` values, if every operator finds
two. -/
def height? (depth : Nat) : List (Step α) → Option Nat
  | [] => some depth
  | .operand _ :: steps => height? (depth + 1) steps
  | .operator _ :: steps => if depth < 2 then none else height? (depth - 1) steps

theorem height?_append (depth : Nat) (steps more : List (Step α)) :
    height? depth (steps ++ more) = (height? depth steps).bind (height? · more) := by
  fun_induction height? depth steps with
  | case1 depth => rfl
  | case2 depth a steps ih => exact ih
  | case3 depth op steps h => simp [height?, h]
  | case4 depth op steps h ih => simpa [height?, h] using ih

theorem height?_append_operator_iff {depth e : Nat} {steps : List (Step α)} {op : SetOperator} :
    height? depth (steps ++ [.operator op]) = some e ↔
      ∃ n, e = n + 1 ∧ height? depth steps = some (n + 2) := by
  rw [height?_append]
  rcases height? depth steps with _ | _ | _ | n <;> simp [height?, eq_comm]

theorem height?_append_operator {depth e : Nat} {steps : List (Step α)} (op : SetOperator)
    (h : height? depth steps = some (e + 2)) :
    height? depth (steps ++ [.operator op]) = some (e + 1) :=
  height?_append_operator_iff.2 ⟨e, rfl, h⟩

/-- The shape check asks that at most one value is left. -/
theorem checkFrom_eq_ok_iff (depth : Nat) (steps : List (Step α)) :
    checkFrom depth steps = .ok () ↔ ∃ n ≤ 1, height? depth steps = some n := by
  fun_induction checkFrom depth steps with
  | case1 depth h => simp [height?]; omega
  | case2 depth h => simp [height?]; omega
  | case3 depth a steps ih => simpa [height?] using ih
  | case4 depth op steps h => simp [height?, h]
  | case5 depth op steps h ih => simpa [height?, h] using ih

/-- Values that stand on the stack never vanish altogether. -/
theorem height?_pos {depth e : Nat} {steps : List (Step α)} (h : height? depth steps = some e)
    (hd : 0 < depth ∨ ∃ a, .operand a ∈ steps) : 0 < e := by
  fun_induction height? depth steps with
  | case1 depth => simp_all
  | case2 depth a steps ih => exact ih h (.inl (Nat.succ_pos _))
  | case3 depth op steps hlt => cases h
  | case4 depth op steps hlt ih => exact ih h (.inl (by omega))

end Step

/-! ## Changing operands -/

def Token.map (f : α → β) : Token α → Token β
  | .operand a => .operand (f a)
  | .operator op => .operator op
  | .opening => .opening
  | .closing => .closing

def Step.map (f : α → β) : Step α → Step β
  | .operand a => .operand (f a)
  | .operator op => .operator op

/-- Changing the operands where they stand is changing one after the other. -/
theorem Token.mapM_operands (f : α → Except ε β) (ts : List (Token α)) :
    (ts.filterMap operand?).mapM f = (traverse f ts).map (·.filterMap operand?) := by
  induction ts with
  | nil => rfl
  | cons t ts ih =>
    cases t with
    | operand a =>
      rw [List.filterMap_cons_some (show operand? (.operand a) = some a from rfl), List.mapM_cons,
        ih, traverse]
      cases f a <;> cases traverse f ts <;> rfl
    | operator | opening | closing =>
      rw [List.filterMap_cons_none rfl, ih, traverse]
      cases traverse f ts <;> rfl

namespace Step

/-- Changing the operands where they stand is changing one after the other. -/
theorem mapM_operands (f : α → Except ε β) (steps : List (Step α)) :
    (steps.filterMap operand?).mapM f = (traverse f steps).map (·.filterMap operand?) := by
  induction steps with
  | nil => rfl
  | cons step steps ih =>
    cases step with
    | operand a =>
      rw [List.filterMap_cons_some (show operand? (.operand a) = some a from rfl), List.mapM_cons,
        ih, traverse]
      cases f a <;> cases traverse f steps <;> rfl
    | operator op =>
      rw [List.filterMap_cons_none rfl, ih, traverse]
      cases traverse f steps <;> rfl

theorem releaseFor_map (f : α → β) (op : SetOperator) (stack : List Waiting) :
    releaseFor op stack =
      ((releaseFor op stack).1.map (map f), (releaseFor (α := α) op stack).2) := by
  fun_induction releaseFor (α := α) op stack with
  | case1 top stack h _ _ hrest ih => simp [releaseFor, h, ih, hrest, map]
  | case2 top stack h => simp [releaseFor, h]
  | case3 stack h => rw [releaseFor.eq_2 op stack h]; rfl

theorem releaseBracket_map (f : α → β) (stack : List Waiting) :
    releaseBracket stack =
      ((releaseBracket stack).1.map (map f), (releaseBracket (α := α) stack).2) := by
  fun_induction releaseBracket (α := α) stack with
  | case1 top stack _ _ hrest ih => simp [releaseBracket, ih, hrest, map]
  | case2 stack => rfl
  | case3 => rfl

theorem releaseAll_map_steps (f : α → β) (stack : List Waiting) :
    releaseAll stack = (releaseAll stack).map (map f) := by
  fun_induction releaseAll (α := α) stack with
  | case1 top stack ih => simp [releaseAll, ih, map]
  | case2 stack ih => simpa [releaseAll] using ih
  | case3 => rfl

/-- Conversion looks at no operand. -/
theorem convert_map (f : α → β) (stack : List Waiting) (ts : List (Token α)) :
    convert stack (ts.map (Token.map f)) = (convert stack ts).map (map f) := by
  fun_induction convert stack ts with
  | case1 stack => exact releaseAll_map_steps f stack
  | case2 stack a ts ih => simp [convert, Token.map, map, ih]
  | case3 stack op ts released rest h ih =>
    simp [convert, Token.map, releaseFor_map f, h, ih]
  | case4 stack ts ih => simp [convert, Token.map, ih]
  | case5 stack ts released rest h ih =>
    simp [convert, Token.map, releaseBracket_map f, h, ih]

theorem operands_releaseFor (op : SetOperator) (stack : List Waiting) :
    (releaseFor op stack).1.filterMap (operand? (α := α)) = [] := by
  fun_induction releaseFor (α := α) op stack with
  | case1 _ _ _ _ _ hrest ih => simpa [operand?, hrest] using ih
  | case2 => rfl
  | case3 => rfl

theorem operands_releaseBracket (stack : List Waiting) :
    (releaseBracket stack).1.filterMap (operand? (α := α)) = [] := by
  fun_induction releaseBracket (α := α) stack with
  | case1 _ _ _ _ hrest ih => simpa [operand?, hrest] using ih
  | case2 => rfl
  | case3 => rfl

theorem operands_releaseAll (stack : List Waiting) :
    (releaseAll stack).filterMap (operand? (α := α)) = [] := by
  fun_induction releaseAll (α := α) stack with
  | case1 _ _ ih => simpa [operand?] using ih
  | case2 _ ih => exact ih
  | case3 => rfl

/-- Conversion keeps the operands in order. -/
theorem operands_convert (stack : List Waiting) (ts : List (Token α)) :
    (convert stack ts).filterMap operand? = ts.filterMap Token.operand? := by
  fun_induction convert stack ts with
  | case1 stack => exact operands_releaseAll stack
  | case2 stack a ts ih => simpa [operand?, Token.operand?] using ih
  | case3 stack op ts released rest h ih =>
    have hnone := operands_releaseFor (α := α) op stack
    rw [h] at hnone
    rw [List.filterMap_append, hnone]
    exact ih
  | case4 stack ts ih => exact ih
  | case5 stack ts released rest h ih =>
    have hnone := operands_releaseBracket (α := α) stack
    rw [h] at hnone
    rw [List.filterMap_append, hnone]
    exact ih

theorem operands_ofTokens (ts : List (Token α)) :
    (ofTokens ts).filterMap operand? = ts.filterMap Token.operand? :=
  operands_convert [] ts

theorem height?_map (f : α → β) (depth : Nat) (steps : List (Step α)) :
    height? depth (steps.map (map f)) = height? depth steps := by
  fun_induction height? depth steps with
  | case1 depth => rfl
  | case2 depth a steps ih => exact ih
  | case3 depth op steps h => simp [height?, map, h]
  | case4 depth op steps h ih => simpa [height?, map, h] using ih

end Step

/-! ## Trees -/

namespace Expression

/-- The steps of both terms, then the operator. -/
def steps : Expression α → List (Step α)
  | .operand a => [.operand a]
  | .join op left right => left.steps ++ right.steps ++ [.operator op]

/-- The tokens of an expression with a pair of brackets around each term of an operator. -/
def tokens : Expression α → List (Token α)
  | .operand a => [.operand a]
  | .join op left right =>
    .opening :: left.tokens ++ .closing :: .operator op :: .opening :: right.tokens ++ [.closing]

/-- Changes every operand. -/
def map (f : α → β) : Expression α → Expression β
  | .operand a => .operand (f a)
  | .join op left right => .join op (left.map f) (right.map f)

/-- The operands from left to right. -/
def operands : Expression α → List α
  | .operand a => [a]
  | .join _ left right => left.operands ++ right.operands

theorem height?_steps (e : Expression α) (depth : Nat) :
    Step.height? depth e.steps = some (depth + 1) := by
  induction e generalizing depth with
  | operand a => rfl
  | join op left right ihl ihr =>
    refine Step.height?_append_operator op ?_
    rw [Step.height?_append, ihl, Option.bind_some, ihr]

theorem check_steps (e : Expression α) : Step.check e.steps = .ok () :=
  (Step.checkFrom_eq_ok_iff 0 e.steps).2 ⟨1, Nat.le_refl 1, height?_steps e 0⟩

end Expression

end Tabular
