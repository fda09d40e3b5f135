/-
What a query answers for a line. The steps that the shape check accepts are none, or the steps of
exactly one expression. On a stack these never meet an operator without two terms below it, and
they leave one term, whose answer is that of the expression: an operand holds when some field of
the line satisfies its operator with some value, and the joins mean and, and not, or.
-/
import Mathlib.Data.List.Forall2
import Tabular.Proofs.Outcome
import Tabular.Proofs.Query.Expression
import Tabular.Query.Binding

namespace Tabular

variable {α β ε : Type}

/-! ## Expressions from steps -/

namespace Expression

/-- Puts expressions together again on a stack, the last first. -/
def build : List (Expression α) → List (Step α) → Option (List (Expression α))
  | stack, [] => some stack
  | stack, .operand a :: steps => build (.operand a :: stack) steps
  | right :: left :: stack, .operator op :: steps => build (.join op left right :: stack) steps
  | _, .operator _ :: _ => none

theorem build_steps_append (e : Expression α) (stack : List (Expression α))
    (rest : List (Step α)) : build stack (e.steps ++ rest) = build (e :: stack) rest := by
  induction e generalizing stack rest with
  | operand a => rfl
  | join op left right ihl ihr =>
    rw [steps, List.append_assoc, List.append_assoc, ihl, ihr]
    rfl

theorem build_steps (e : Expression α) : build [] e.steps = some [e] := by
  have h := build_steps_append e [] []
  rwa [List.append_nil] at h

theorem steps_injective {e f : Expression α} (h : e.steps = f.steps) : e = f := by
  have hb := build_steps e
  rw [h, build_steps f] at hb
  cases hb
  rfl

theorem flatMap_steps_of_build {stack trees : List (Expression α)} {p : List (Step α)}
    (h : build stack p = some trees) :
    stack.reverse.flatMap steps ++ p = trees.reverse.flatMap steps := by
  fun_induction build stack p with
  | case1 stack =>
    cases h
    exact List.append_nil _
  | case2 stack a p ih => simpa [steps] using ih h
  | case3 right left stack op p ih => simpa [steps] using ih h
  | case4 => cases h

theorem length_build (stack : List (Expression α)) (p : List (Step α)) :
    (build stack p).map List.length = Step.height? stack.length p := by
  fun_induction build stack p with
  | case1 stack => rfl
  | case2 stack a p ih => simpa [Step.height?] using ih
  | case3 right left stack op p ih =>
    have htwo : ¬ stack.length + 1 + 1 < 2 := by omega
    simpa [Step.height?, htwo] using ih
  | case4 stack op p hstack =>
    -- an operator that finds fewer than two expressions
    rcases stack with _ | ⟨e, _ | ⟨f, stack⟩⟩
    · rfl
    · rfl
    · exact absurd rfl (hstack e f stack)

/-- Steps leave one value exactly when they are the steps of an expression. -/
theorem height?_eq_one_iff {p : List (Step α)} :
    Step.height? 0 p = some 1 ↔ ∃ e : Expression α, e.steps = p := by
  constructor
  · intro h
    have hlength := length_build ([] : List (Expression α)) p
    rw [List.length_nil, h] at hlength
    obtain ⟨trees, hbuild, hone⟩ := Option.map_eq_some_iff.1 hlength
    obtain ⟨e, rfl⟩ := List.length_eq_one_iff.1 hone
    exact ⟨e, by simpa using (flatMap_steps_of_build hbuild).symm⟩
  · rintro ⟨e, rfl⟩
    exact height?_steps e 0

end Expression

namespace Step

/-- The shape check accepts no steps at all and the steps of expressions. -/
theorem check_eq_ok_iff_expression {p : List (Step α)} :
    check p = .ok () ↔ p = [] ∨ ∃ e : Expression α, e.steps = p := by
  rw [check, checkFrom_eq_ok_iff, ← Expression.height?_eq_one_iff]
  constructor
  · rintro ⟨n, hn, h⟩
    rcases p with _ | ⟨step, p⟩
    · exact .inl rfl
    · cases step with
      | operand a =>
        have hpos : 0 < n := height?_pos h (.inr ⟨a, List.mem_cons_self⟩)
        obtain rfl : n = 1 := by omega
        exact .inr h
      | operator op => cases h
  · rintro (rfl | h)
    · exact ⟨0, Nat.zero_le 1, rfl⟩
    · exact ⟨1, Nat.le_refl 1, h⟩

theorem traverse_append (f : α → Except ε β) (p q : List (Step α)) :
    traverse f (p ++ q) =
      (traverse f p >>= fun p' => traverse f q >>= fun q' => pure (p' ++ q')) := by
  induction p with
  | nil => exact (bind_pure (traverse f q)).symm
  | cons step p ih =>
    cases step <;> simp only [List.cons_append, traverse, ih, bind_assoc, pure_bind]

theorem traverse_append_eq_ok_iff {f : α → Except ε β} {p q : List (Step α)} {r : List (Step β)} :
    traverse f (p ++ q) = .ok r ↔
      ∃ p' q', traverse f p = .ok p' ∧ traverse f q = .ok q' ∧ r = p' ++ q' := by
  simp only [traverse_append, bind_eq_ok_iff, pure, Except.pure, Except.ok.injEq, eq_comm (a := r),
    exists_and_left]

end Step

/-! ## The meaning of an expression -/

/-- When a join of two terms holds. -/
def SetOperator.Holds (op : SetOperator) (left right : Prop) : Prop :=
  match op with
  | .intersection => left ∧ right
  | .difference => left ∧ ¬ right
  | .union => left ∨ right

theorem SetOperator.apply_eq_true_iff (op : SetOperator) (a b : Bool) :
    op.apply a b = true ↔ op.Holds (a = true) (b = true) := by
  cases op <;> simp [apply, Holds]

/-- When an expression holds whose operands hold so. -/
def Expression.Holds (holds : α → Prop) : Expression α → Prop
  | .operand a => holds a
  | .join op left right => op.Holds (left.Holds holds) (right.Holds holds)

/-- The cell that a field denotes for a line of a table; what the table does not have is null. -/
def Field.cell (table : TableView) (axis : Axis) (key : Nat) : Field → Cell
  | .key => .integer (Int64.ofNat (min key BoundField.maxKey))
  | .label => ((table.label? axis key).map .text).getD .null
  | .position n => (table.cell? axis key n).getD .null
  | .named name => ((table.findLabel? axis.cross name).bind (table.cell? axis key)).getD .null

/-- When a line satisfies a selector. -/
def Selector.Holds (table : TableView) (axis : Axis) (key : Nat) (s : Selector) : Prop :=
  ∃ field ∈ s.fields, ∃ value ∈ s.values,
    s.operator.holds (field.cell table axis key) value = true

/-! ## Bound selectors -/

theorem BoundField.resolve_eq {table : TableView} {axis : Axis} {field : Field} {b : BoundField}
    (h : BoundField.of? table axis field = some b) (key : Nat) :
    b.resolve table axis key = field.cell table axis key := by
  cases field with
  | key | label =>
    cases h
    rfl
  | position n =>
    rw [of?.eq_3] at h
    split at h
    · cases h
      rfl
    · cases h
  | named name =>
    obtain ⟨k, hk, rfl⟩ := Option.map_eq_some_iff.1 h
    simp [resolve, Field.cell, hk]

theorem forall₂_of_mapM {f : α → Except ε β} {as : List α} {bs : List β}
    (h : as.mapM f = .ok bs) : List.Forall₂ (fun a b => f a = .ok b) as bs := by
  induction as generalizing bs with
  | nil =>
    cases h
    exact .nil
  | cons a as ih =>
    rw [List.mapM_cons] at h
    obtain ⟨b, hb, h⟩ := bind_eq_ok_iff.1 h
    obtain ⟨bs, hbs, h⟩ := bind_eq_ok_iff.1 h
    cases h
    exact .cons hb (ih hbs)

theorem any_eq_true_iff_of_forall₂ {R : α → β → Prop} {p : β → Bool} {q : α → Prop} {as : List α}
    {bs : List β} (h : List.Forall₂ R as bs) (hpq : ∀ a b, R a b → (p b = true ↔ q a)) :
    bs.any p = true ↔ ∃ a ∈ as, q a := by
  induction h with
  | nil => simp
  | cons hab _ ih => simp [ih, hpq _ _ hab]

/-- A bound selector asks what the selector means. -/
theorem BoundSelector.holds_iff {table : TableView} {axis : Axis} {s : Selector}
    {b : BoundSelector} (h : BoundSelector.bind table axis s = .ok b) (key : Nat) :
    b.holds table axis key = true ↔ s.Holds table axis key := by
  obtain ⟨fields, hfields, h⟩ := bind_eq_ok_iff.1 h
  cases h
  refine any_eq_true_iff_of_forall₂ (forall₂_of_mapM hfields) fun field f hf => ?_
  have hof : BoundField.of? table axis field = some f := by
    split at hf
    · rename_i hof
      cases hf
      exact hof
    · cases hf
  rw [List.any_eq_true, BoundField.resolve_eq hof key]

/-! ## Missing fields -/

theorem BoundSelector.exists_of_bind_eq_error {table : TableView} {axis : Axis} {s : Selector}
    {e : QueryError} (h : BoundSelector.bind table axis s = .error e) :
    ∃ field, e = .unknownField axis.cross field := by
  rcases bind_eq_error_iff.1 h with h | ⟨_, _, h⟩
  · obtain ⟨field, _, hfield⟩ := exists_of_mapM_eq_error h
    split at hfield
    · cases hfield
    · cases hfield
      exact ⟨_, rfl⟩
  · cases h

theorem Step.exists_of_traverse_eq_error {f : α → Except ε β} {p : List (Step α)} {e : ε}
    (h : traverse f p = .error e) : ∃ a, f a = .error e := by
  have hoperands := mapM_operands f p
  rw [h] at hoperands
  obtain ⟨a, _, ha⟩ := exists_of_mapM_eq_error hoperands
  exact ⟨a, ha⟩

/-- Binding fails only at a field that names nothing on the cross axis. -/
theorem Query.exists_of_bind_eq_error {q : Query} {table : TableView} {axis : Axis} {e : QueryError}
    (h : q.bind table axis = .error e) : ∃ field, e = .unknownField axis.cross field := by
  rcases bind_eq_error_iff.1 h with h | ⟨_, _, h⟩
  · obtain ⟨_, hs⟩ := Step.exists_of_traverse_eq_error h
    exact BoundSelector.exists_of_bind_eq_error hs
  · cases h

/-! ## Running steps -/

namespace Step

/-- The steps of an expression push one term, which answers as the expression does. -/
theorem run_steps_append {f : α → Except ε β} {value : β → Bool} {holds : α → Prop}
    (hf : ∀ a b, f a = .ok b → (value b = true ↔ holds a)) {e : Expression α} {p : List (Step β)}
    (h : traverse f e.steps = .ok p) :
    ∃ term : Term β, (term.answer value = true ↔ e.Holds holds) ∧
      ∀ stack rest, run value stack (p ++ rest) = run value (term :: stack) rest := by
  induction e generalizing p with
  | operand a =>
    obtain ⟨b, hb, h⟩ := bind_eq_ok_iff.1 h
    cases h
    exact ⟨.pending b, hf a b hb, fun _ _ => rfl⟩
  | join op left right ihl ihr =>
    obtain ⟨_, _, hpq, hop, rfl⟩ := traverse_append_eq_ok_iff.1 h
    obtain ⟨p, q, hp, hq, rfl⟩ := traverse_append_eq_ok_iff.1 hpq
    cases hop
    obtain ⟨first, hfirst, hleft⟩ := ihl hp
    obtain ⟨second, hsecond, hright⟩ := ihr hq
    refine ⟨.done (op.apply (first.answer value) (second.answer value)), ?_, ?_⟩
    · rw [Term.answer, SetOperator.apply_eq_true_iff, hfirst, hsecond]
      rfl
    · intro stack rest
      rw [List.append_assoc, List.append_assoc, hleft, hright]
      rfl

end Step

namespace BoundQuery

/-- A query of one selector is asked as it would be on the stack. -/
theorem keeps_eq_answer {q : BoundQuery} {table : TableView} {key : Nat}
    {last : Step.Term BoundSelector} (hne : q.steps ≠ [])
    (h : Step.run (BoundSelector.holds table q.axis key) [] q.steps = some [last]) :
    q.keeps table key = last.answer (BoundSelector.holds table q.axis key) := by
  unfold keeps
  split
  · rename_i hnil
    exact absurd hnil hne
  · rename_i s hone
    rw [hone] at h
    cases h
    rfl
  · rw [h]

/-- A bound expression is run to its answer. -/
theorem run_of_expression {q : Query} {table : TableView} {axis : Axis} {bound : BoundQuery}
    (hb : q.bind table axis = .ok bound) {e : Expression Selector} (he : e.steps = q.steps)
    (key : Nat) :
    ∃ last, Step.run (BoundSelector.holds table axis key) [] bound.steps = some [last] ∧
      bound.keeps table key = last.answer (BoundSelector.holds table axis key) ∧
      (bound.keeps table key = true ↔ e.Holds (Selector.Holds table axis key)) := by
  obtain ⟨steps, hsteps, hb⟩ := bind_eq_ok_iff.1 hb
  cases hb
  rw [← he] at hsteps
  obtain ⟨last, hlast, hrun⟩ := Step.run_steps_append
    (fun s b h => BoundSelector.holds_iff h key) hsteps
  have hrun : Step.run (BoundSelector.holds table axis key) [] steps = some [last] := by
    simpa [Step.run] using hrun [] []
  have hne : steps ≠ [] := by
    rintro rfl
    cases hrun
  have hkeeps := keeps_eq_answer (q := ⟨axis, steps⟩) hne hrun
  exact ⟨last, hrun, hkeeps, by rw [hkeeps, hlast]⟩

end BoundQuery

namespace Query

/-- Compiling succeeds when each of its parts does. -/
theorem parseWith_eq_ok_iff {limit : Option Nat} {source : String} {q : Query} :
    parseWith limit source = .ok q ↔ ∃ ts us, Token.tokenize source = .ok ts ∧
      checkLimit limit ts = .ok () ∧ Token.traverse Selector.parse ts = .ok us ∧
      Step.check (Step.ofTokens us) = .ok () ∧ ⟨source, Step.ofTokens us⟩ = q := by
  constructor
  · intro h
    obtain ⟨ts, hts, h⟩ := bind_eq_ok_iff.1 h
    obtain ⟨_, hlimit, h⟩ := bind_eq_ok_iff.1 h
    obtain ⟨us, hus, h⟩ := bind_eq_ok_iff.1 h
    obtain ⟨_, hcheck, h⟩ := bind_eq_ok_iff.1 h
    cases h
    exact ⟨ts, us, hts, hlimit, hus, mapError_eq_ok_iff.1 hcheck, rfl⟩
  · rintro ⟨ts, us, hts, hlimit, hus, hcheck, rfl⟩
    exact bind_eq_ok_iff.2 ⟨ts, hts, bind_eq_ok_iff.2 ⟨(), hlimit, bind_eq_ok_iff.2 ⟨us, hus,
      bind_eq_ok_iff.2 ⟨(), mapError_eq_ok_iff.2 hcheck, rfl⟩⟩⟩⟩

/-- Compiling a text gives no steps or the steps of an expression. -/
theorem exists_expression_of_parse {limit : Option Nat} {source : String} {q : Query}
    (h : parseWith limit source = .ok q) (hne : q.steps ≠ []) :
    ∃ e : Expression Selector, e.steps = q.steps := by
  obtain ⟨_, _, _, _, _, hcheck, rfl⟩ := parseWith_eq_ok_iff.1 h
  exact (Step.check_eq_ok_iff_expression.1 hcheck).resolve_left hne

/-- When a query matches a line: it has no steps, or its expression holds for the line. -/
def Matches (q : Query) (table : TableView) (axis : Axis) (key : Nat) : Prop :=
  q.steps = [] ∨
    ∃ e : Expression Selector, e.steps = q.steps ∧ e.Holds (Selector.Holds table axis key)

/-- A bound query keeps the lines that match. -/
theorem keeps_iff_matches {limit : Option Nat} {source : String} {q : Query}
    (hq : parseWith limit source = .ok q) {table : TableView} {axis : Axis} {bound : BoundQuery}
    (hb : q.bind table axis = .ok bound) (key : Nat) :
    bound.keeps table key = true ↔ q.Matches table axis key := by
  by_cases hnil : q.steps = []
  · obtain ⟨steps, hsteps, hb⟩ := bind_eq_ok_iff.1 hb
    rw [hnil] at hsteps
    cases hsteps
    cases hb
    exact iff_of_true rfl (.inl hnil)
  · obtain ⟨e, he⟩ := exists_expression_of_parse hq hnil
    obtain ⟨_, _, _, hkeeps⟩ := BoundQuery.run_of_expression hb he key
    rw [hkeeps, Matches, or_iff_right hnil]
    constructor
    · exact fun h => ⟨e, he, h⟩
    · rintro ⟨f, hf, h⟩
      exact Expression.steps_injective (hf.trans he.symm) ▸ h

/-- A query without steps keeps every line. Any other query is one expression; its steps run to
one term without ever finding too few, whether or not the query is a single selector, and a line is
kept exactly when the expression holds for it. -/
theorem keeps_iff_holds {limit : Option Nat} {source : String} {q : Query}
    (hq : parseWith limit source = .ok q) {table : TableView} {axis : Axis} {bound : BoundQuery}
    (hb : q.bind table axis = .ok bound) (key : Nat) :
    (q.steps = [] → bound.keeps table key = true) ∧
      (q.steps ≠ [] → ∃ e : Expression Selector, e.steps = q.steps ∧
        (∀ f : Expression Selector, f.steps = q.steps → f = e) ∧
        ∃ last, Step.run (BoundSelector.holds table axis key) [] bound.steps = some [last] ∧
          bound.keeps table key = last.answer (BoundSelector.holds table axis key) ∧
          (bound.keeps table key = true ↔ e.Holds (Selector.Holds table axis key))) := by
  constructor
  · intro hnil
    obtain ⟨steps, hsteps, hb⟩ := bind_eq_ok_iff.1 hb
    rw [hnil] at hsteps
    cases hsteps
    cases hb
    rfl
  · intro hne
    obtain ⟨e, he⟩ := exists_expression_of_parse hq hne
    exact ⟨e, he, fun f hf => Expression.steps_injective (hf.trans he.symm),
      BoundQuery.run_of_expression hb he key⟩

/-- In a table of ones, the first line has the left term of a difference alone and the second has
both. -/
theorem keeps_iff_holds_difference :
    parseWith (some 2) "a=1-(/>0)" = .ok ⟨"a=1-(/>0)",
        [.operand ⟨[.named "a"], .equal, ["1"], "a=1"⟩, .operand ⟨[.key], .greater, ["0"], "/>0"⟩,
          .operator .difference]⟩ ∧
      ∃ e : Expression Selector, e.steps =
          [.operand ⟨[.named "a"], .equal, ["1"], "a=1"⟩,
            .operand ⟨[.key], .greater, ["0"], "/>0"⟩, .operator .difference] ∧
        e.Holds (Selector.Holds
          ⟨fun _ => 2, fun _ _ => none, fun _ _ _ => some (.text "1"), fun _ _ => some 0⟩ .row 0) ∧
        ¬ e.Holds (Selector.Holds
          ⟨fun _ => 2, fun _ _ => none, fun _ _ _ => some (.text "1"), fun _ _ => some 0⟩ .row 1) := by
  have hq : parseWith (some 2) "a=1-(/>0)" = .ok ⟨"a=1-(/>0)",
      [.operand ⟨[.named "a"], .equal, ["1"], "a=1"⟩, .operand ⟨[.key], .greater, ["0"], "/>0"⟩,
        .operator .difference]⟩ := by decide +kernel
  have hb : bind ⟨"a=1-(/>0)",
      [.operand ⟨[.named "a"], .equal, ["1"], "a=1"⟩, .operand ⟨[.key], .greater, ["0"], "/>0"⟩,
        .operator .difference]⟩
      ⟨fun _ => 2, fun _ _ => none, fun _ _ _ => some (.text "1"), fun _ _ => some 0⟩ .row =
        .ok ⟨.row, [.operand ⟨[.cross 0], .equal, ["1"]⟩, .operand ⟨[.key], .greater, ["0"]⟩,
          .operator .difference]⟩ := rfl
  obtain ⟨e, he, honly, _, _, _, hkept⟩ := (keeps_iff_holds hq hb 0).2 (List.cons_ne_nil _ _)
  obtain ⟨f, hf, _, _, _, _, hdropped⟩ := (keeps_iff_holds hq hb 1).2 (List.cons_ne_nil _ _)
  obtain rfl := honly f hf
  refine ⟨hq, f, hf, hkept.1 (by decide +kernel), fun h => ?_⟩
  exact absurd (hdropped.2 h) (by decide +kernel)

end Query

end Tabular
