/-
The grammar of expressions with precedence: union joins conjunctions, the other operators join
terms, a term is an operand or an expression in brackets, and every chain groups to the left.
Conversion gives the steps of the tree that tokens derive, and the shape check accepts them.
-/
import Tabular.Proofs.Query.Reading

namespace Tabular.Token

variable {α : Type}

/-- The phrases of the grammar. -/
inductive Phrase where
  | term
  | conjunction
  | expression

/-- The level at which a phrase is read. -/
def Phrase.level : Phrase → Level
  | .term => .run
  | .conjunction => .conjunction
  | .expression => .expression

/-- The tree of each derivation of some tokens. -/
inductive Derives : Phrase → List (Token α) → Expression α → Prop
  | operand (a : α) : Derives .term [.operand a] (.operand a)
  | bracketed {ts : List (Token α)} {e : Expression α} : Derives .expression ts e →
      Derives .term (.opening :: ts ++ [.closing]) e
  | conjunction {ts : List (Token α)} {e : Expression α} : Derives .term ts e →
      Derives .conjunction ts e
  | tight {ts us : List (Token α)} {e f : Expression α} (op : SetOperator) :
      Derives .conjunction ts e → op ≠ .union → Derives .term us f →
      Derives .conjunction (ts ++ .operator op :: us) (.join op e f)
  | expression {ts : List (Token α)} {e : Expression α} : Derives .conjunction ts e →
      Derives .expression ts e
  | union {ts us : List (Token α)} {e f : Expression α} : Derives .expression ts e →
      Derives .conjunction us f →
      Derives .expression (ts ++ .operator .union :: us) (.join .union e f)

/-- A derivation is a reading in which every run is one term. -/
theorem Derives.reads {phrase : Phrase} {ts : List (Token α)} {e : Expression α}
    (h : Derives phrase ts e) : Reads phrase.level ts e.steps := by
  induction h with
  | operand a => exact Reads.nothing.operand a
  | bracketed _ ih => exact Reads.nothing.bracketed ih
  | conjunction _ ih => exact ih.conjunction
  | tight op _ hop _ ih ih' => exact ih.tight op hop ih'
  | expression _ ih => exact ih.expression
  | union _ _ ih ih' => exact ih.union ih'

/-- The steps of derived tokens are those of their tree, and reduce to one value. -/
theorem Derives.ofTokens_eq_steps {ts : List (Token α)} {e : Expression α}
    (h : Derives .expression ts e) :
    Step.ofTokens ts = e.steps ∧ Step.check (Step.ofTokens ts) = .ok () := by
  have hsteps : Step.ofTokens ts = e.steps := h.reads.ofTokens_eq
  rw [hsteps]
  exact ⟨rfl, e.check_steps⟩

/-- A chain of tight operators inside a union, with brackets that group and brackets that do
not. -/
theorem ofTokens_mixed_chain :
    Derives .expression
        [.opening, .operand 0, .closing, .operator .difference, .opening, .operand 1,
          .operator .union, .operand 2, .closing, .operator .intersection, .operand 3,
          .operator .union, .operand 4]
        (.join .union
          (.join .intersection
            (.join .difference (.operand 0) (.join .union (.operand 1) (.operand 2)))
            (.operand 3))
          (.operand 4)) ∧
      Step.ofTokens
          [.opening, .operand 0, .closing, .operator .difference, .opening, .operand 1,
            .operator .union, .operand 2, .closing, .operator .intersection, .operand 3,
            .operator .union, .operand 4] =
        [.operand 0, .operand 1, .operand 2, .operator .union, .operator .difference, .operand 3,
          .operator .intersection, .operand 4, .operator .union] ∧
      Step.check (Step.ofTokens
          [.opening, .operand 0, .closing, .operator .difference, .opening, .operand 1,
            .operator .union, .operand 2, .closing, .operator .intersection, .operand 3,
            .operator .union, .operand 4]) = .ok () := by
  have one : ∀ n : Nat, Derives .expression [.operand n] (.operand n) := fun n =>
    .expression (.conjunction (.operand n))
  have first := Derives.conjunction (one 0).bracketed
  have group := ((one 1).union (.conjunction (.operand 2))).bracketed
  have chain := (first.tight .difference SetOperator.noConfusion group).tight .intersection
    SetOperator.noConfusion (.operand 3)
  have whole := chain.expression.union (.conjunction (.operand 4))
  exact ⟨whole, whole.ofTokens_eq_steps⟩

end Tabular.Token
