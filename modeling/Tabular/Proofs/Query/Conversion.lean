/-
Conversion moves operators and nothing else. Whatever the tokens are, balanced or not, the steps
are the tokens without their brackets, in an order that keeps the operands as they stood. The
invariant takes the steps and the stack together: a release passes an operator from the stack to
the steps, and what is dropped is a bracket. So the selectors of a compiled query are the selector
texts of the query, each once and from left to right.
-/
import Mathlib.Data.List.Perm.Basic
import Tabular.Proofs.Query.Evaluation

namespace Tabular

variable {α β ε : Type}

/-! ## Tokens without brackets -/

namespace Token

/-- The operator of a token, if it is one. -/
def operator? : Token α → Option SetOperator
  | .operator op => some op
  | _ => none

def isBracket : Token α → Bool
  | .opening | .closing => true
  | _ => false

/-- The operands and the operators of some tokens. -/
def unbracketed (ts : List (Token α)) : List (Token α) :=
  ts.filter (!·.isBracket)

theorem filterMap_operator?_unbracketed (ts : List (Token α)) :
    (unbracketed ts).filterMap operator? = ts.filterMap operator? := by
  induction ts with
  | nil => rfl
  | cons t ts ih =>
    cases t with
    | operand | opening | closing => exact ih
    | operator op => exact congrArg (op :: ·) ih

end Token

namespace Step

/-- The operator of a step, if it is one. -/
def operator? : Step α → Option SetOperator
  | .operand _ => none
  | .operator op => some op

/-- The token that a step comes from. -/
def token : Step α → Token α
  | .operand a => .operand a
  | .operator op => .operator op

/-- The token that waits. -/
def Waiting.token : Waiting → Token α
  | .operator op => .operator op
  | .bracket => .opening

theorem filterMap_operator?_token (steps : List (Step α)) :
    (steps.map token).filterMap Token.operator? = steps.filterMap operator? := by
  rw [List.filterMap_map]
  refine List.filterMap_congr fun step _ => ?_
  cases step <;> rfl

/-! ## Releasing and converting -/

open Token (unbracketed)

/-- What is released and what still waits are what waited. -/
theorem unbracketed_releaseFor (op : SetOperator) (stack : List Waiting) :
    (releaseFor (α := α) op stack).1.map token ++
        unbracketed ((releaseFor (α := α) op stack).2.map Waiting.token) =
      unbracketed (stack.map Waiting.token) := by
  fun_induction releaseFor (α := α) op stack with
  | case1 top stack _ _ _ hrest ih =>
    rw [hrest] at ih
    exact congrArg (Token.operator top :: ·) ih
  | case2 => rfl
  | case3 => rfl

/-- A closing bracket drops the bracket it meets and no operator. -/
theorem unbracketed_releaseBracket (stack : List Waiting) :
    (releaseBracket (α := α) stack).1.map token ++
        unbracketed ((releaseBracket (α := α) stack).2.map Waiting.token) =
      unbracketed (stack.map Waiting.token) := by
  fun_induction releaseBracket (α := α) stack with
  | case1 top stack _ _ hrest ih =>
    rw [hrest] at ih
    exact congrArg (Token.operator top :: ·) ih
  | case2 => rfl
  | case3 => rfl

theorem unbracketed_releaseAll (stack : List Waiting) :
    (releaseAll (α := α) stack).map token = unbracketed (stack.map Waiting.token) := by
  fun_induction releaseAll (α := α) stack with
  | case1 top stack ih => exact congrArg (Token.operator top :: ·) ih
  | case2 stack ih => exact ih
  | case3 => rfl

/-- The steps are what waits and what is read, without the brackets. -/
theorem perm_convert (stack : List Waiting) (ts : List (Token α)) :
    ((convert stack ts).map token).Perm (unbracketed (stack.map Waiting.token) ++ unbracketed ts) := by
  fun_induction convert stack ts with
  | case1 stack =>
    rw [unbracketed_releaseAll, unbracketed, unbracketed, List.filter_nil, List.append_nil]
  | case2 stack a ts ih => exact (ih.cons (.operand a)).trans List.perm_middle.symm
  | case3 stack op ts released rest h ih =>
    have hstack := unbracketed_releaseFor (α := α) op stack
    rw [h] at hstack
    -- the arriving operator stands before what still waits, and after it in the tokens
    rw [← hstack, List.map_append, List.append_assoc]
    exact (ih.trans List.perm_middle.symm).append_left _
  | case4 stack ts ih => exact ih
  | case5 stack ts released rest h ih =>
    have hstack := unbracketed_releaseBracket (α := α) stack
    rw [h] at hstack
    rw [← hstack, List.map_append, List.append_assoc]
    exact ih.append_left _

theorem perm_ofTokens (ts : List (Token α)) :
    ((ofTokens ts).map token).Perm (unbracketed ts) :=
  perm_convert [] ts

theorem count_operator_ofTokens (ts : List (Token α)) (op : SetOperator) :
    ((ofTokens ts).filterMap operator?).count op = (ts.filterMap Token.operator?).count op := by
  have hperm := (perm_ofTokens ts).filterMap Token.operator?
  rw [filterMap_operator?_token, Token.filterMap_operator?_unbracketed] at hperm
  exact hperm.count_eq op

end Step

/-! ## The selectors of a query -/

theorem Selector.source_of_parse {chunk : String} {s : Selector} (h : parse chunk = .ok s) :
    s.source = chunk := by
  unfold parse at h
  dsimp only at h
  split at h
  · cases h
  · split at h
    · cases h
    · cases h
      rfl

namespace Query

theorem length_le_of_checkLimit {n : Nat} {ts : List (Token String)}
    (h : checkLimit (some n) ts = .ok ()) : (ts.filterMap Token.operand?).length ≤ n := by
  rw [checkLimit] at h
  split at h
  · cases h
  · omega

/-- The selectors of a compiled query are read from the selector texts, in their order. -/
theorem selectors_of_parse {limit : Option Nat} {source : String} {q : Query}
    (h : parseWith limit source = .ok q) :
    ∃ ts, Token.tokenize source = .ok ts ∧ checkLimit limit ts = .ok () ∧
      List.Forall₂ (fun chunk s => Selector.parse chunk = .ok s) (ts.filterMap Token.operand?)
        q.selectors := by
  obtain ⟨ts, us, hts, hlimit, hus, _, rfl⟩ := parseWith_eq_ok_iff.1 h
  refine ⟨ts, hts, hlimit, ?_⟩
  rw [selectors, Step.operands_ofTokens]
  exact forall₂_of_mapM (by rw [Token.mapM_operands, hus]; rfl)

theorem map_source_eq {chunks : List String} {selectors : List Selector}
    (h : List.Forall₂ (fun chunk s => Selector.parse chunk = .ok s) chunks selectors) :
    selectors.map (·.source) = chunks := by
  induction h with
  | nil => rfl
  | cons hs _ ih => rw [List.map_cons, Selector.source_of_parse hs, ih]

end Query

/-- Conversion keeps the operands in order and every operator as often as it stands in the tokens,
and besides these only the brackets are in the tokens, none of which is a step. So the selectors of
a compiled query are those of its selector texts, each once and in their order, and no more than
the limit. -/
theorem Step.ofTokens_loses_nothing (ts : List (Token α)) :
    (ofTokens ts).filterMap operand? = ts.filterMap Token.operand? ∧
      (∀ op, ((ofTokens ts).filterMap operator?).count op =
        (ts.filterMap Token.operator?).count op) ∧
      ((ofTokens ts).map token).Perm (Token.unbracketed ts) ∧
      ∀ limit source q, Query.parseWith limit source = .ok q →
        ∃ chunks, Token.tokenize source = .ok chunks ∧
          q.selectors.map (·.source) = chunks.filterMap Token.operand? ∧
          List.Forall₂ (fun chunk s => Selector.parse chunk = .ok s)
            (chunks.filterMap Token.operand?) q.selectors ∧
          ∀ n, limit = some n → q.selectors.length ≤ n := by
  refine ⟨operands_ofTokens ts, count_operator_ofTokens ts, perm_ofTokens ts, ?_⟩
  intro limit source q hq
  obtain ⟨chunks, hchunks, hlimit, hread⟩ := Query.selectors_of_parse hq
  refine ⟨chunks, hchunks, Query.map_source_eq hread, hread, ?_⟩
  rintro n rfl
  rw [← hread.length_eq]
  exact Query.length_le_of_checkLimit hlimit

/-- A closing bracket without a partner, an operator without terms and a bracket left open; and a
query whose brackets make the second selector the first operand to be joined. -/
theorem Step.ofTokens_loses_nothing_unbalanced :
    (ofTokens [.operand 0, .operator .union, .closing, .operator .difference, .operator .union,
        .opening, .operand 1, .operand 0]).filterMap operand? = [0, 1, 0] ∧
      ((ofTokens [.operand 0, .operator .union, .closing, .operator .difference, .operator .union,
        .opening, .operand 1, .operand 0]).filterMap operator?).count .union = 2 ∧
      ∃ q, Query.parseWith (some 3) "b=1,(a=2-b=1)" = .ok q ∧
        q.selectors.map (·.source) = ["b=1", "a=2", "b=1"] ∧ q.selectors.length ≤ 3 := by
  obtain ⟨hoperands, hcount, _, hquery⟩ := ofTokens_loses_nothing [.operand 0, .operator .union,
    .closing, .operator .difference, .operator .union, .opening, .operand 1, .operand 0]
  have hq : Query.parseWith (some 3) "b=1,(a=2-b=1)" = .ok ⟨"b=1,(a=2-b=1)",
      [.operand ⟨[.named "b"], .equal, ["1"], "b=1"⟩,
        .operand ⟨[.named "a"], .equal, ["2"], "a=2"⟩,
        .operand ⟨[.named "b"], .equal, ["1"], "b=1"⟩, .operator .difference,
        .operator .union]⟩ := by decide +kernel
  obtain ⟨chunks, hchunks, hsources, _, hlimit⟩ := hquery (some 3) _ _ hq
  have htokens : Token.tokenize "b=1,(a=2-b=1)" = .ok [.operand "b=1", .operator .union, .opening,
    .operand "a=2", .operator .difference, .operand "b=1", .closing] := rfl
  cases htokens.symm.trans hchunks
  exact ⟨hoperands, hcount .union, _, hq, hsources, hlimit 3 rfl⟩

end Tabular
