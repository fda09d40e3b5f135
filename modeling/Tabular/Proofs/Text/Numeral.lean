/-
Numerals that are read back. Digits after an optional minus are read as the integer they denote,
and digits around a point as a decimal with one place for each digit behind the point. So the text
of an integer is read as this integer and as the double nearest to it, and the plain text of a
finite double as this double.
-/
import Tabular.Double.Notation
import Tabular.Proofs.Double.Decimal
import Tabular.Proofs.Text.Blank
import Tabular.Text.Numeral

namespace Tabular.Text

/-! ## Digits -/

section

variable {digits whole fraction rest cs : List Char}

theorem isDigit_of_mem_toDigits {n : Nat} {c : Char} (h : c ∈ Nat.toDigits 10 n) :
    c.isDigit = true :=
  Nat.isDigit_of_mem_toDigits (by decide) (by decide) h

theorem splitDigits_append (hd : ∀ c ∈ digits, c.isDigit = true)
    (hr : ∀ c ∈ rest.head?, c.isDigit = false) : splitDigits (digits ++ rest) = (digits, rest) := by
  have hrest : rest.takeWhile Char.isDigit = [] ∧ rest.dropWhile Char.isDigit = rest := by
    cases rest with
    | nil => exact ⟨rfl, rfl⟩
    | cons c rest => simp [hr c rfl]
  rw [splitDigits, List.takeWhile_append_of_pos hd, List.dropWhile_append_of_pos hd, hrest.1,
    hrest.2, List.append_nil]

theorem splitDigits_self (hd : ∀ c ∈ digits, c.isDigit = true) :
    splitDigits digits = (digits, []) := by
  have hsplit : splitDigits (digits ++ []) = (digits, []) := splitDigits_append hd nofun
  rwa [List.append_nil] at hsplit

theorem digitsValue_toDigits (n : Nat) : digitsValue (Nat.toDigits 10 n) = n :=
  Nat.ofDigitChars_ten_toDigits

theorem digitsValue_append_zeros (n : Nat) :
    digitsValue (digits ++ List.replicate n '0') = digitsValue digits * tenTo n := by
  rw [digitsValue, Nat.ofDigitChars_append, Nat.ofDigitChars_replicate_zero, Nat.mul_comm]
  rfl

theorem digitsValue_zeros_append (n : Nat) :
    digitsValue (List.replicate n '0' ++ digits) = digitsValue digits := by
  rw [digitsValue, Nat.ofDigitChars_append, Nat.ofDigitChars_replicate_zero, Nat.mul_zero]
  rfl

/-! ## Signs -/

/-- The sign of a numeral: a minus or nothing. -/
def minusSign (negative : Bool) : List Char :=
  if negative then ['-'] else []

theorem splitSign_minusSign (negative : Bool) (h : ∀ c ∈ cs.head?, c.isDigit = true) :
    splitSign (minusSign negative ++ cs) = (negative, cs) := by
  cases negative with
  | true => rfl
  | false =>
    cases cs with
    | nil => rfl
    | cons c cs =>
      have hc := h c rfl
      refine splitSign.eq_3 _ ?_ ?_
      · rintro _ heq
        cases heq
        exact absurd hc (by decide)
      · rintro _ heq
        cases heq
        exact absurd hc (by decide)

theorem isDigit_head? (hd : ∀ c ∈ digits, c.isDigit = true) (hne : digits ≠ [])
    (rest : List Char) : ∀ c ∈ (digits ++ rest).head?, c.isDigit = true := by
  intro c hc
  obtain ⟨d, digits, rfl⟩ := List.exists_cons_of_ne_nil hne
  cases hc
  exact hd _ List.mem_cons_self

/-- Digits alone are a decimal without places. -/
theorem decimal?_whole (negative : Bool) (hne : digits ≠ [])
    (hd : ∀ c ∈ digits, c.isDigit = true) :
    decimal? (minusSign negative ++ digits) = some (negative, ⟨digitsValue digits, 0⟩) := by
  have hsign := splitSign_minusSign negative fun c hc => hd c (List.mem_of_mem_head? hc)
  simp [decimal?, hsign, splitDigits_self hd, splitFraction, exponent?, hne]

/-- Each digit behind the point is one place. -/
theorem decimal?_point (negative : Bool) (hne : whole ≠ [])
    (hw : ∀ c ∈ whole, c.isDigit = true) (hf : ∀ c ∈ fraction, c.isDigit = true) :
    decimal? (minusSign negative ++ (whole ++ '.' :: fraction)) =
      some (negative, ⟨digitsValue (whole ++ fraction), -fraction.length⟩) := by
  have hsign := splitSign_minusSign negative (isDigit_head? hw hne ('.' :: fraction))
  have hwhole : splitDigits (whole ++ '.' :: fraction) = (whole, '.' :: fraction) := by
    refine splitDigits_append hw fun c hc => ?_
    cases hc
    decide
  simp [decimal?, hsign, hwhole, splitFraction, splitDigits_self hf, exponent?, hne]

end

/-! ## Scanning and converting -/

section

variable {cs : List Char}

/-- Digits fill a text when there are some and nothing is left behind them. -/
theorem filled_iff (cs : List Char) :
    (!(splitDigits cs).1.isEmpty && (splitDigits cs).2.isEmpty) =
      !(cs.isEmpty || !cs.all Char.isDigit) := by
  have hrest : (splitDigits cs).2.isEmpty = cs.all Char.isDigit := by
    rw [Bool.eq_iff_iff, List.isEmpty_iff, List.all_eq_true]
    exact List.dropWhile_eq_nil_iff
  rw [hrest]
  by_cases hall : cs.all Char.isDigit = true
  · rw [splitDigits_self (List.all_eq_true.1 hall), hall]
    simp
  · rw [Bool.not_eq_true] at hall
    simp [hall]

theorem scansExponent_eq (cs : List Char) : scansExponent cs = (exponent? cs).isSome := by
  cases cs with
  | nil => rfl
  | cons c cs =>
    have hscan : scansExponent (c :: cs) =
        ((c == 'e' || c == 'E') &&
          !((splitSign cs).2.isEmpty || !(splitSign cs).2.all Char.isDigit)) := by
      rw [← filled_iff]
      rfl
    rw [hscan, exponent?]
    by_cases hmark : c = 'e' ∨ c = 'E'
    · have htrue : (c == 'e' || c == 'E') = true := by simpa using hmark
      rw [if_pos hmark, htrue, Bool.true_and]
      show _ = Option.isSome (if (splitSign cs).2.isEmpty || !(splitSign cs).2.all Char.isDigit then
        none else some _)
      cases (splitSign cs).2.isEmpty || !(splitSign cs).2.all Char.isDigit <;> rfl
    · have hfalse : (c == 'e' || c == 'E') = false := by simpa using hmark
      rw [if_neg hmark, hfalse]
      rfl

/-- What is scanned as a number is a decimal number for the library, and nothing else is. -/
theorem scansNumber_eq (cs : List Char) : scansNumber cs = (decimal? cs).isSome := by
  rcases hsign : splitSign cs with ⟨negative, unsigned⟩
  rcases hwhole : splitDigits unsigned with ⟨whole, afterWhole⟩
  rcases hfraction : splitFraction afterWhole with ⟨fraction, rest⟩
  have hdigits : (whole.length + fraction.length != 0) =
      !(whole.isEmpty && fraction.isEmpty) := by
    cases whole <;> cases fraction <;> rfl
  simp only [scansNumber, decimal?, hsign, hwhole, hfraction, scansExponent_eq, hdigits]
  split
  · rename_i hnone
    rw [hnone]
    rfl
  · rename_i hsome
    rw [Bool.not_eq_true] at hsome
    rw [hsome]
    cases exponent? rest <;> rfl

/-- The library converts every text that is scanned as a number. -/
theorem isSome_double?_of_scansNumber (h : scansNumber cs = true) : (double? cs).isSome := by
  rw [scansNumber_eq, Option.isSome_iff_exists] at h
  obtain ⟨⟨negative, d⟩, hd⟩ := h
  rw [double?, hd]
  rfl

/-- The names, which the library converts too, are no decimal numbers. -/
theorem number?_eq (s : String) :
    number? s = (decimal? (trim s.toList)).map fun (negative, d) => d.toDouble negative := by
  rw [number?, scansNumber_eq, double?]
  cases decimal? (trim s.toList) <;> rfl

/-- A name is converted and not scanned. -/
example : double? "-Infinity".toList = some (.ofMagnitude true Double.infinite) ∧
    number? "-Infinity" = none := by
  decide +kernel

end

/-! ## Positional notation -/

open Double

section

variable {digits : List Char}

theorem isDigit_of_mem_wholeDigits (hd : ∀ c ∈ digits, c.isDigit = true) (exponent : Int) :
    ∀ c ∈ wholeDigits digits exponent, c.isDigit = true := by
  intro c hc
  simp only [wholeDigits] at hc
  split at hc
  · rcases List.mem_append.1 hc with hc | hc
    · exact hd c hc
    · rw [List.eq_of_mem_replicate hc]
      decide
  · split at hc
    · exact hd c (List.mem_of_mem_take hc)
    · rw [List.mem_singleton.1 hc]
      decide

theorem isDigit_of_mem_fractionDigits (hd : ∀ c ∈ digits, c.isDigit = true) (exponent : Int) :
    ∀ c ∈ fractionDigits digits exponent, c.isDigit = true := by
  intro c hc
  simp only [fractionDigits] at hc
  split at hc
  · exact hd c (List.mem_of_mem_drop hc)
  · rcases List.mem_append.1 hc with hc | hc
    · rw [List.eq_of_mem_replicate hc]
      decide
    · exact hd c hc

theorem wholeDigits_ne_nil (hne : digits ≠ []) (exponent : Int) :
    wholeDigits digits exponent ≠ [] := by
  simp only [wholeDigits]
  split
  · simp [hne]
  · split
    · rw [← List.length_pos_iff, List.length_take]
      omega
    · simp

/-- There is one place for each power of ten below one, and the digits keep their value. -/
theorem fractionDigits_spec (digits : List Char) {exponent : Int} (h : exponent < 0) :
    digitsValue (wholeDigits digits exponent ++ fractionDigits digits exponent) =
        digitsValue digits ∧
      -((fractionDigits digits exponent).length : Int) = exponent := by
  simp only [wholeDigits, fractionDigits, if_neg (Int.not_le.2 h)]
  by_cases hplaces : (-exponent).toNat < digits.length
  · simp only [if_pos hplaces, List.take_append_drop, List.length_drop, true_and]
    omega
  · simp only [if_neg hplaces, List.length_append, List.length_replicate]
    -- a zero before the point, then the missing places
    exact ⟨digitsValue_zeros_append (_ + 1), by omega⟩

end

/-- A written decimal is read as one with the same double. -/
theorem exists_decimal?_positional (negative : Bool) (d : Decimal) :
    ∃ d', decimal? (minusSign negative ++ positional d) = some (negative, d') ∧
      d'.magnitude = d.magnitude := by
  obtain ⟨digits, exponent⟩ := d
  have hdigits : ∀ c ∈ Nat.toDigits 10 digits, c.isDigit = true := fun _ =>
    isDigit_of_mem_toDigits
  have hne : Nat.toDigits 10 digits ≠ [] := Nat.toDigits_ne_nil
  have hwhole := isDigit_of_mem_wholeDigits hdigits exponent
  have hnonempty := wholeDigits_ne_nil hne exponent
  simp only [positional]
  by_cases hexponent : 0 ≤ exponent
  · rw [if_pos hexponent]
    refine ⟨_, decimal?_whole negative hnonempty hwhole, Decimal.magnitude_congr ?_⟩
    -- the zeros stand for the power of ten
    have hplaces : (-exponent).toNat = 0 := by omega
    rw [wholeDigits, if_pos hexponent, digitsValue_append_zeros, digitsValue_toDigits]
    simp only [Decimal.numerator, Decimal.denominator, hplaces, Int.neg_zero, Int.toNat_zero,
      tenTo_zero, Nat.mul_one]
  · rw [if_neg hexponent]
    obtain ⟨hvalue, hplaces⟩ := fractionDigits_spec (Nat.toDigits 10 digits)
      (Int.not_le.1 hexponent)
    refine ⟨_, decimal?_point negative hnonempty hwhole
      (isDigit_of_mem_fractionDigits hdigits exponent), ?_⟩
    rw [hvalue, hplaces, digitsValue_toDigits]

/-- A written decimal starts and ends with a digit. -/
theorem isDigit_ends_positional (d : Decimal) :
    (∀ c ∈ (positional d).head?, c.isDigit = true) ∧
      ∀ c ∈ (positional d).getLast?, c.isDigit = true := by
  have hdigits : ∀ c ∈ Nat.toDigits 10 d.digits, c.isDigit = true := fun _ =>
    isDigit_of_mem_toDigits
  have hwhole := isDigit_of_mem_wholeDigits hdigits d.exponent
  simp only [positional]
  by_cases hexponent : 0 ≤ d.exponent
  · rw [if_pos hexponent]
    exact ⟨fun c hc => hwhole c (List.mem_of_mem_head? hc),
      fun c hc => hwhole c (List.mem_of_mem_getLast? hc)⟩
  · rw [if_neg hexponent]
    refine ⟨isDigit_head? hwhole (wholeDigits_ne_nil Nat.toDigits_ne_nil _) _, fun c hc => ?_⟩
    -- there is a place, and the last one is the last character
    have hplaces := (fractionDigits_spec (Nat.toDigits 10 d.digits)
      (Int.not_le.1 hexponent)).2
    have hne : fractionDigits (Nat.toDigits 10 d.digits) d.exponent ≠ [] := by
      intro hnil
      rw [hnil] at hplaces
      exact hexponent (Int.le_of_eq hplaces)
    rw [List.getLast?_append_of_ne_nil _ (List.cons_ne_nil _ _),
      List.getLast?_cons_of_ne_nil hne] at hc
    exact isDigit_of_mem_fractionDigits hdigits _ c (List.mem_of_mem_getLast? hc)

/-! ## Texts of numbers -/

theorem isBlank_of_isDigit {c : Char} (h : c.isDigit = true) : isBlank c = false := by
  have hrange : 48 ≤ c.toNat ∧ c.toNat ≤ 57 := by
    simpa [Char.isDigit, UInt32.le_iff_toNat_le] using h
  simp [isBlank, blankRanges]
  omega

theorem isSeparator_of_isDigit {c : Char} (h : c.isDigit = true) : isSeparator c = false := by
  have hne : ∀ d, d.isDigit = false → (c == d) = false := by
    intro d hd
    rw [beq_eq_false_iff_ne]
    rintro rfl
    rw [h] at hd
    cases hd
  rw [isSeparator, hne ' ' (by decide), hne ',' (by decide), hne '.' (by decide)]
  rfl

section

variable {cs : List Char}

theorem isBlank_head?_numeral (negative : Bool) (h : ∀ c ∈ cs.head?, c.isDigit = true) :
    ∀ c ∈ (minusSign negative ++ cs).head?, isBlank c = false := by
  intro c hc
  cases negative with
  | true =>
    cases hc
    decide
  | false => exact isBlank_of_isDigit (h c hc)

/-- A numeral has no blanks at its ends. -/
theorem trim_numeral (negative : Bool) (hfirst : ∀ c ∈ cs.head?, c.isDigit = true)
    (hlast : ∀ c ∈ cs.getLast?, c.isDigit = true) :
    trim (minusSign negative ++ cs) = minusSign negative ++ cs := by
  refine trim_eq_self (isBlank_head?_numeral negative hfirst) fun c hc => ?_
  rcases List.eq_nil_or_concat cs with rfl | ⟨cs, d, rfl⟩
  · cases negative with
    | true =>
      cases hc
      decide
    | false => cases hc
  · rw [List.concat_eq_append, ← List.append_assoc, List.getLast?_concat] at hc
    cases hc
    exact isBlank_of_isDigit (hlast _ (by simp))

end

theorem toList_toString (n : Int) :
    (toString n).toList = minusSign (n < 0) ++ Nat.toDigits 10 n.natAbs := by
  rw [Int.toString_eq_repr, Int.repr_eq_if]
  by_cases hn : n < 0
  · have habs : (-n).toNat = n.natAbs := by omega
    rw [if_neg (by omega), habs]
    simp [minusSign, hn]
  · have habs : n.toNat = n.natAbs := by omega
    rw [if_pos (by omega), habs]
    simp [minusSign, hn]

/-- The text of an integer denotes the double nearest to it. -/
theorem number?_toString (n : Int) : number? (toString n) = some (Double.ofInt n) := by
  have hdigits : ∀ c ∈ Nat.toDigits 10 n.natAbs, c.isDigit = true := fun _ =>
    isDigit_of_mem_toDigits
  have htrim := trim_numeral (decide (n < 0)) (fun c hc => hdigits c (List.mem_of_mem_head? hc))
    (fun c hc => hdigits c (List.mem_of_mem_getLast? hc))
  rw [number?_eq, toList_toString, htrim, decimal?_whole _ Nat.toDigits_ne_nil hdigits,
    digitsValue_toDigits]
  simp only [Option.map_some, Decimal.toDouble, Decimal.magnitude_integer]
  rfl

/-- The plain text of a finite double denotes this double, the sign of a zero included. -/
theorem number?_plain {d : Double} (hd : d.isFinite = true) : number? d.plain = some d := by
  obtain ⟨d', hread, hmagnitude⟩ := exists_decimal?_positional d.negative (d.shortest .up)
  obtain ⟨hfirst, hlast⟩ := isDigit_ends_positional (d.shortest .up)
  have hplain : d.plain = String.ofList (minusSign d.negative ++ positional (d.shortest .up)) := by
    have hlt : d.magnitude < infinite := of_decide_eq_true hd
    have hnan : d.isNaN = false := decide_eq_false (by omega)
    have hinfinite : d.isInfinite = false := beq_eq_false_iff_ne.2 (by omega)
    rw [plain, hnan, hinfinite]
    rfl
  rw [number?_eq, hplain, String.toList_ofList, trim_numeral d.negative hfirst hlast, hread]
  simp only [Option.map_some, Decimal.toDouble, hmagnitude]
  exact congrArg some (toDouble_shortest .up hd)

end Tabular.Text
