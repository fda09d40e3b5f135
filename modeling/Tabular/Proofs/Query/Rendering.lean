/-
Cells and their texts. An integer, and no value at all, are answered as the text that they are
written as; a float is too, unless it is infinite and the operand is a number too large for a double,
because the text of an infinity is no number. Two integers that are written differently are equal for
a query when one double is nearest to both, though it still tells which of them is the greater.
-/
import Tabular.Proofs.Query.Agreement
import Tabular.Proofs.Text.Saturation

namespace Tabular

/-! ## Cells with one text -/

/-- Cells with one text and one integer differ at most in what they equal. -/
theorem Operator.holds_eq_iff {x y : Cell} (htext : x.asText = y.asText)
    (hinteger : x.toInteger = y.toInteger) (op : Operator) (operand : String) :
    op.holds x operand = op.holds y operand ↔
      (op = .equal ∨ op = .notEqual → x.looselyEquals operand = y.looselyEquals operand) := by
  cases op with
  | equal | notEqual => simp [holds]
  | greater | less | greaterOrEqual | lessOrEqual => simp [holds, integerOrder, hinteger]
  | contains | startsWith | endsWith => simp [holds, htext]

theorem Cell.alike_integer_text (n : Int64) :
    Cell.Alike (.integer n) (.text (Cell.integer n).asText) := by
  intro op operand
  have htext : (Cell.integer n).asText = (Cell.text (Cell.integer n).asText).asText := rfl
  have hinteger : (Cell.integer n).toInteger = (Cell.text (Cell.integer n).asText).toInteger :=
    (Text.castInteger_toString n).symm
  refine (Operator.holds_eq_iff htext hinteger op operand).2 fun _ => ?_
  show _ = (Cell.text (toString n.toInt)).looselyEquals operand
  rw [looselyEquals, looselyEquals, Text.number?_toString]
  cases Text.number? operand <;> rfl

/-- No operator tells an integer from its text, nor nothing from the empty text. -/
theorem Cell.alike_asText :
    (∀ n : Int64, Cell.Alike (.integer n) (.text (Cell.integer n).asText)) ∧
      Cell.Alike .null (.text Cell.null.asText) :=
  ⟨alike_integer_text, alike_null_text⟩

/-! ## Floats -/

/-- The text of what is not finite is no number. -/
theorem Text.number?_plain_eq_none {d : Double} (hd : d.isFinite = false) :
    number? d.plain = none := by
  have hnan : number? "NaN" = none := by decide +kernel
  have hinf : number? "inf" = none := by decide +kernel
  have hneg : number? "-inf" = none := by decide +kernel
  have hle : Double.infinite ≤ d.magnitude := Nat.not_lt.1 (of_decide_eq_false hd)
  rw [Double.plain]
  split
  · exact hnan
  · rename_i hnumber
    have hinfinite : d.isInfinite = true := by
      have hnot : ¬ Double.infinite < d.magnitude := fun h => hnumber (decide_eq_true h)
      exact beq_iff_eq.2 (by omega)
    rw [if_pos hinfinite]
    split
    · exact hneg
    · exact hinf

/-- A number equals an infinity only when it is the infinity. -/
theorem Double.equals_iff_of_isInfinite {d x : Double} (hd : d.isInfinite = true) :
    d.equals x = true ↔ x = d := by
  have hmagnitude : d.magnitude = infinite := beq_iff_eq.1 hd
  have hnan : d.isNaN = false := decide_eq_false (by omega)
  have hpos : 0 < d.magnitude := by
    rw [hmagnitude]
    decide
  rw [equals_iff hnan]
  constructor
  · exact fun h => (rank_inj hpos h.2).symm
  · rintro rfl
    exact ⟨hnan, rfl⟩

/-- A float equals what its text equals, unless the operand denotes the float and is infinite. -/
theorem Cell.looselyEquals_plain_iff (d : Double) (operand : String) :
    (Cell.float d).looselyEquals operand = (Cell.text d.plain).looselyEquals operand ↔
      ¬ (d.isInfinite = true ∧ Text.number? operand = some d) := by
  rw [looselyEquals, looselyEquals]
  cases hd : d.isFinite with
  | true =>
    have hlt : d.magnitude < Double.infinite := of_decide_eq_true hd
    have hinfinite : d.isInfinite = false := beq_eq_false_iff_ne.2 (by omega)
    rw [Text.number?_plain hd, hinfinite]
    cases Text.number? operand <;> simp
  | false =>
    have hplain := Text.number?_plain_eq_none hd
    rw [hplain]
    cases hoperand : Text.number? operand with
    | none => simp
    | some x =>
      -- the operand is a number, so it is not the text of the float
      have hne : (d.plain == operand) = false := by
        rw [beq_eq_false_iff_ne]
        rintro rfl
        rw [hplain] at hoperand
        cases hoperand
      show d.equals x = (d.plain == operand) ↔ _
      rw [hne, ← Bool.not_eq_true, Option.some.injEq, not_iff_not]
      cases hinfinite : d.isInfinite with
      | true => simp [Double.equals_iff_of_isInfinite hinfinite]
      | false =>
        have hnan : d.isNaN = true := by
          have hge : ¬ d.magnitude < Double.infinite := of_decide_eq_false hd
          have hother : d.magnitude ≠ Double.infinite := beq_eq_false_iff_ne.1 hinfinite
          exact decide_eq_true (by omega)
        simp [Double.equals, Double.compare?, hnan]

/-- A float and its text are told apart by equality alone, and only when the float is infinite and
the operand denotes it: the operand is a number and the text of the float is none. -/
theorem Operator.holds_float_iff (op : Operator) (d : Double) (operand : String) :
    op.holds (.float d) operand = op.holds (.text (Cell.float d).asText) operand ↔
      ¬ ((op = .equal ∨ op = .notEqual) ∧ d.isInfinite = true ∧ Text.number? operand = some d) := by
  have htext : (Cell.float d).asText = (Cell.text (Cell.float d).asText).asText := rfl
  have hinteger : (Cell.float d).toInteger = (Cell.text (Cell.float d).asText).toInteger := rfl
  rw [holds_eq_iff htext hinteger, not_and]
  exact imp_congr_right fun _ => Cell.looselyEquals_plain_iff d operand

/-- A number past the largest double is inferred to be an infinity, which it equals; the text of the
infinity it does not equal. -/
theorem Operator.holds_float_infinite :
    Cell.infer "1e999" = .float (.ofMagnitude false Double.infinite) ∧
      (Cell.float (.ofMagnitude false Double.infinite)).asText = "inf" ∧
      Operator.equal.holds (.float (.ofMagnitude false Double.infinite)) "1e999" = true ∧
      Operator.equal.holds (.text "inf") "1e999" = false := by
  decide +kernel

/-! ## Integers -/

section

variable {n m : Int64}

/-- Against the text of an integer, an integer is ordered by value. -/
theorem Operator.integerOrder_toString (n m : Int64) :
    integerOrder (.integer n) (toString m.toInt) = compare n.toInt m.toInt := by
  rw [integerOrder, Text.castInteger_toString]
  rfl

theorem Operator.equal_toString_iff :
    Operator.equal.holds (.integer n) (toString m.toInt) = true ↔
      Double.ofInt n.toInt = Double.ofInt m.toInt := by
  show (Cell.integer n).looselyEquals (toString m.toInt) = true ↔ _
  rw [Cell.looselyEquals, Text.number?_toString]
  exact Double.equals_ofInt_iff

theorem Operator.greater_toString_iff :
    Operator.greater.holds (.integer n) (toString m.toInt) = true ↔ m.toInt < n.toInt := by
  show (integerOrder (.integer n) (toString m.toInt)).isGT = true ↔ _
  rw [integerOrder_toString, Ordering.isGT_iff_eq_gt, Int.compare_eq_gt]

theorem Operator.less_toString_iff :
    Operator.less.holds (.integer n) (toString m.toInt) = true ↔ n.toInt < m.toInt := by
  show (integerOrder (.integer n) (toString m.toInt)).isLT = true ↔ _
  rw [integerOrder_toString, Ordering.isLT_iff_eq_lt, Int.compare_eq_lt]

/-- Two integers are told apart as equality must when they are the same or have different doubles. -/
theorem Operator.equal_exact_iff :
    (Operator.equal.holds (.integer n) (toString m.toInt) = true ↔ n = m) ↔
      n = m ∨ Double.ofInt n.toInt ≠ Double.ofInt m.toInt := by
  rw [equal_toString_iff]
  constructor
  · intro h
    by_cases hdouble : Double.ofInt n.toInt = Double.ofInt m.toInt
    · exact .inl (h.1 hdouble)
    · exact .inr hdouble
  · rintro (rfl | hdouble)
    · simp
    · exact ⟨fun h => absurd h hdouble, fun h => congrArg (Double.ofInt ∘ Int64.toInt) h⟩

/-- Exactly one of the three comparisons holds in the same case: the two strict ones exclude each
other, and equality excludes them when the doubles differ. -/
theorem Operator.countP_comparison_iff :
    [Operator.equal, .greater, .less].countP (·.holds (.integer n) (toString m.toInt)) = 1 ↔
      n = m ∨ Double.ofInt n.toInt ≠ Double.ofInt m.toInt := by
  simp only [List.countP_cons, List.countP_nil, equal_toString_iff, greater_toString_iff,
    less_toString_iff, ← Int64.toInt_inj]
  rcases Int.lt_trichotomy n.toInt m.toInt with hlt | heq | hgt
  · rw [if_neg (Int.lt_asymm hlt), if_pos hlt]
    by_cases hdouble : Double.ofInt n.toInt = Double.ofInt m.toInt
    · simp [hdouble, Int.ne_of_lt hlt]
    · simp [hdouble]
  · simp [heq]
  · rw [if_pos hgt, if_neg (Int.lt_asymm hgt)]
    by_cases hdouble : Double.ofInt n.toInt = Double.ofInt m.toInt
    · simp [hdouble, Int.ne_of_gt hgt]
    · simp [hdouble]

end

/-- An integer meets the text of another by value in the ordering operators, and by its nearest
double in equality. So equality is exact, and exactly one of the three comparisons holds, when the
integers are the same or have different doubles, as any two up to `2 ^ 53` have; otherwise two
different integers are equal and ordered at once. -/
theorem Operator.integer_comparisons (n m : Int64) :
    (Operator.equal.holds (.integer n) (toString m.toInt) = true ↔
      Double.ofInt n.toInt = Double.ofInt m.toInt) ∧
    (Operator.greater.holds (.integer n) (toString m.toInt) = true ↔ m.toInt < n.toInt) ∧
    (Operator.less.holds (.integer n) (toString m.toInt) = true ↔ n.toInt < m.toInt) ∧
    ((Operator.equal.holds (.integer n) (toString m.toInt) = true ↔ n = m) ↔
      n = m ∨ Double.ofInt n.toInt ≠ Double.ofInt m.toInt) ∧
    ([Operator.equal, .greater, .less].countP (·.holds (.integer n) (toString m.toInt)) = 1 ↔
      n = m ∨ Double.ofInt n.toInt ≠ Double.ofInt m.toInt) ∧
    (n.toInt.natAbs ≤ 9007199254740992 → m.toInt.natAbs ≤ 9007199254740992 →
      n = m ∨ Double.ofInt n.toInt ≠ Double.ofInt m.toInt) := by
  refine ⟨equal_toString_iff, greater_toString_iff, less_toString_iff, equal_exact_iff,
    countP_comparison_iff, fun hn hm => ?_⟩
  by_cases hdouble : Double.ofInt n.toInt = Double.ofInt m.toInt
  · exact .inl (Int64.toInt_inj.1 (Double.ofInt_inj hn hm hdouble))
  · exact .inr hdouble

/-- The last integers that doubles still tell apart, on the negative side. -/
theorem Operator.integer_comparisons_apart :
    Operator.equal.holds (.integer (-9007199254740992)) "-9007199254740991" = false ∧
      [Operator.equal, .greater, .less].countP
        (·.holds (.integer (-9007199254740992)) "-9007199254740991") = 1 := by
  obtain ⟨hequal, _, _, _, hcount, hsmall⟩ :=
    integer_comparisons (-9007199254740992) (-9007199254740991)
  have htext : toString (-9007199254740991 : Int64).toInt = "-9007199254740991" := by decide +kernel
  have happart := hsmall (by decide) (by decide)
  rw [htext] at hequal hcount
  refine ⟨?_, hcount.2 happart⟩
  rw [← Bool.not_eq_true, hequal]
  exact happart.resolve_left (by decide)

/-- One more than `2 ^ 53` equals `2 ^ 53` for a query, and is greater as well. -/
theorem Operator.integer_comparisons_confused :
    Operator.equal.holds (.integer 9007199254740993) "9007199254740992" = true ∧
      Operator.greater.holds (.integer 9007199254740993) "9007199254740992" = true ∧
      toString (9007199254740992 : Int64).toInt = "9007199254740992" ∧
      (9007199254740993 : Int64) ≠ 9007199254740992 := by
  decide +kernel

end Tabular
