/-
Decimals as doubles. The nearest double depends on the value of a quotient alone, so a decimal may
be written with more zeros or fewer, and one far outside the range of doubles is rounded as any
other would be. What is printed for a finite double, the shortest decimal that reads back, does read
back.
-/
import Mathlib.Tactic.Common
import Tabular.Double.Decimal
import Tabular.Proofs.Double.Integer

namespace Tabular

theorem tenTo_add (m n : Nat) : tenTo (m + n) = tenTo m * tenTo n :=
  Nat.pow_add 10 m n

theorem tenTo_le {m n : Nat} (h : m ≤ n) : tenTo m ≤ tenTo n :=
  Nat.pow_le_pow_right (by decide) h

namespace Double

variable {num den num' den' : Nat}

/-! ## Quotients with one value -/

theorem divToEven_scale {k : Nat} (hk : 0 < k) (num den : Nat) :
    divToEven (num * k) (den * k) = divToEven num den := by
  have hlt : 2 * (num % den * k) < den * k ↔ 2 * (num % den) < den := by
    rw [← Nat.mul_assoc]
    exact Nat.mul_lt_mul_right hk
  have heq : 2 * (num % den * k) = den * k ↔ 2 * (num % den) = den := by
    rw [← Nat.mul_assoc]
    exact Nat.mul_left_inj (Nat.ne_of_gt hk)
  simp only [divToEven, Nat.mul_div_mul_right num den hk, Nat.mul_mod_mul_right, hlt, heq]

/-- A quotient keeps its double when both its terms are multiplied. -/
theorem nearestMagnitude_scale {k : Nat} (hk : 0 < k) (num den : Nat) :
    nearestMagnitude (num * k) (den * k) = nearestMagnitude num den := by
  have hnum : num * k * twoTo 1074 = num * twoTo 1074 * k := Nat.mul_right_comm ..
  have hshift : unitShift (num * k) (den * k) = unitShift num den := by
    rw [unitShift, unitShift, hnum, Nat.mul_div_mul_right _ _ hk]
  have hden : den * k * twoTo (unitShift num den) = den * twoTo (unitShift num den) * k :=
    Nat.mul_right_comm ..
  rw [nearestMagnitude_eq, nearestMagnitude_eq, significand, significand, hshift, hnum, hden,
    divToEven_scale hk]

/-- The larger of two quotients has the larger double. -/
theorem nearestMagnitude_le_of_mul_le (hden : 0 < den) (hden' : 0 < den')
    (h : num * den' ≤ num' * den) : nearestMagnitude num den ≤ nearestMagnitude num' den' :=
  calc nearestMagnitude num den
      = nearestMagnitude (num * den') (den * den') := (nearestMagnitude_scale hden' num den).symm
    _ ≤ nearestMagnitude (num' * den) (den * den') :=
        nearestMagnitude_mono (Nat.mul_pos hden hden') h
    _ = nearestMagnitude (num' * den) (den' * den) := by rw [Nat.mul_comm den den']
    _ = nearestMagnitude num' den' := nearestMagnitude_scale hden num' den'

/-- Equal quotients have one double. -/
theorem nearestMagnitude_congr (hden : 0 < den) (hden' : 0 < den')
    (h : num * den' = num' * den) : nearestMagnitude num den = nearestMagnitude num' den' :=
  Nat.le_antisymm (nearestMagnitude_le_of_mul_le hden hden' (Nat.le_of_eq h))
    (nearestMagnitude_le_of_mul_le hden' hden (Nat.le_of_eq h.symm))

/-! ## Doubles as quotients -/

/-- The unit of a finite magnitude can be read off its exponent field. -/
theorem unitShift_units (m : Nat) : unitShift (units m) (twoTo 1074) = m / exponentWeight - 1 := by
  rw [unitShift, Nat.mul_div_cancel _ (twoTo_pos _), units]
  split
  · rename_i hsmall
    rw [Nat.div_eq_of_lt hsmall]
    by_cases hm : m = 0
    · subst hm
      rfl
    · have hlog : m.log2 < 52 := (Nat.log2_lt hm).2 hsmall
      omega
  · rename_i hlarge
    -- fifty-three bits, shifted
    have hrest : m % exponentWeight < exponentWeight := Nat.mod_lt _ (by decide)
    have hlog : ((exponentWeight + m % exponentWeight) * twoTo (m / exponentWeight - 1)).log2 =
        52 + (m / exponentWeight - 1) := by
      refine (Nat.log2_eq_iff ?_).2 ⟨?_, ?_⟩
      · exact Nat.ne_of_gt (Nat.mul_pos (by simp only [exponentWeight]; omega) (twoTo_pos _))
      · rw [Nat.pow_add]
        exact Nat.mul_le_mul_right _ (Nat.le_add_right _ _)
      · rw [show 52 + (m / exponentWeight - 1) + 1 = 53 + (m / exponentWeight - 1) by omega,
          Nat.pow_add]
        refine Nat.mul_lt_mul_of_pos_right ?_ (twoTo_pos _)
        show exponentWeight + m % exponentWeight < 2 * exponentWeight
        omega
    omega

/-- A finite magnitude is the one nearest to its own value. -/
theorem nearestMagnitude_units {m : Nat} (hm : m < infinite) :
    nearestMagnitude (units m) (twoTo 1074) = m := by
  have hround : ∀ q shift, units m = q * twoTo shift →
      divToEven (units m * twoTo 1074) (twoTo 1074 * twoTo shift) = q := by
    intro q shift hq
    have hnum : units m * twoTo 1074 = q * (twoTo 1074 * twoTo shift) := by
      rw [hq, Nat.mul_assoc, Nat.mul_comm (twoTo shift)]
    rw [hnum]
    exact divToEven_mul (Nat.mul_pos (twoTo_pos _) (twoTo_pos _)) q
  rw [nearestMagnitude_eq, significand, unitShift_units]
  by_cases hsmall : m < exponentWeight
  · have hunits : units m = m := if_pos hsmall
    rw [Nat.div_eq_of_lt hsmall, hround m 0 (by rw [hunits, twoTo_zero, Nat.mul_one])]
    omega
  · have hunits : units m = (exponentWeight + m % exponentWeight) * twoTo (m / exponentWeight - 1) :=
      if_neg hsmall
    rw [hround _ _ hunits]
    simp only [exponentWeight] at hsmall ⊢
    omega

end Double

/-! ## The double of a decimal -/

namespace Decimal

open Double

theorem denominator_pos (d : Decimal) : 0 < d.denominator :=
  tenTo_pos _

theorem tenTo_digitCount_le {n : Nat} (hn : n ≠ 0) : tenTo (digitCount n - 1) ≤ n := by
  by_cases hone : digitCount n - 1 = 0
  · rw [hone]
    exact Nat.pos_of_ne_zero hn
  · -- fewer digits would do otherwise
    refine Nat.not_lt.1 fun hlt => ?_
    have hle := (Nat.length_toDigits_le_iff (by decide) (Nat.pos_of_ne_zero hone)).2 hlt
    have hcount : digitCount n = (Nat.toDigits 10 n).length := rfl
    omega

theorem lt_tenTo_digitCount (n : Nat) : n < tenTo (digitCount n) :=
  (Nat.length_toDigits_le_iff (by decide) Nat.length_toDigits_pos).1 (Nat.le_refl _)

/-- Telling by the first digit what is too large or too small changes nothing. -/
theorem magnitude_eq (d : Decimal) : d.magnitude = nearestMagnitude d.numerator d.denominator := by
  obtain ⟨digits, exponent⟩ := d
  have hlower := @tenTo_digitCount_le digits
  have hupper := lt_tenTo_digitCount digits
  have hpos := Nat.length_toDigits_pos (b := 10) (n := digits)
  simp only [magnitude, numerator, denominator]
  change 0 < digitCount digits at hpos
  generalize digitCount digits = count at *
  split
  · rename_i hzero
    have hnothing : nearestMagnitude 0 1 = 0 := by decide +kernel
    rw [hzero, Nat.zero_mul]
    refine hnothing.symm.trans (nearestMagnitude_congr Nat.one_pos (tenTo_pos _) ?_)
    rw [Nat.zero_mul, Nat.zero_mul]
  · rename_i hne
    split
    · -- at least `10 ^ 400`
      rename_i hlarge
      have hhuge : nearestMagnitude (tenTo 400) 1 = infinite := by decide +kernel
      refine Nat.le_antisymm (hhuge ▸ ?_) (nearestMagnitude_le _ _)
      refine nearestMagnitude_le_of_mul_le Nat.one_pos (tenTo_pos _) ?_
      rw [Nat.mul_one, ← tenTo_add]
      calc tenTo (400 + (-exponent).toNat) ≤ tenTo (count - 1 + exponent.toNat) :=
            tenTo_le (by omega)
        _ = tenTo (count - 1) * tenTo exponent.toNat := tenTo_add _ _
        _ ≤ digits * tenTo exponent.toNat := Nat.mul_le_mul_right _ (hlower hne)
    · split
      · -- at most `10 ^ (-400)`
        rename_i hsmall
        have htiny : nearestMagnitude 1 (tenTo 400) = 0 := by decide +kernel
        refine (Nat.le_zero.1 (htiny ▸ ?_)).symm
        refine nearestMagnitude_le_of_mul_le (tenTo_pos _) (tenTo_pos _) ?_
        rw [show exponent.toNat = 0 by omega, tenTo_zero, Nat.mul_one, Nat.one_mul]
        calc digits * tenTo 400 ≤ tenTo count * tenTo 400 :=
              Nat.mul_le_mul_right _ (Nat.le_of_lt hupper)
          _ = tenTo (count + 400) := (tenTo_add _ _).symm
          _ ≤ tenTo (-exponent).toNat := tenTo_le (by omega)
      · rfl

/-- Two ways to write one number have one double. -/
theorem magnitude_congr {d d' : Decimal}
    (h : d.numerator * d'.denominator = d'.numerator * d.denominator) :
    d.magnitude = d'.magnitude := by
  rw [magnitude_eq, magnitude_eq]
  exact nearestMagnitude_congr d.denominator_pos d'.denominator_pos h

/-- The nearest double of an integer, reached through a decimal or directly. -/
theorem magnitude_integer (n : Nat) : magnitude ⟨n, 0⟩ = nearestMagnitude n 1 := by
  rw [magnitude_eq]
  show nearestMagnitude (n * 1) 1 = _
  rw [Nat.mul_one]

/-- A zero at the end of the digits can be taken off. -/
theorem magnitude_dropZero {digits : Nat} (h : digits % 10 = 0) (exponent : Int) :
    magnitude ⟨digits / 10, exponent + 1⟩ = magnitude ⟨digits, exponent⟩ := by
  obtain ⟨q, rfl⟩ := Nat.dvd_of_mod_eq_zero h
  refine magnitude_congr ?_
  simp only [numerator, denominator]
  rw [Nat.mul_div_cancel_left q (by decide)]
  by_cases hexponent : 0 ≤ exponent
  · rw [show (exponent + 1).toNat = exponent.toNat + 1 by omega,
      show (-exponent).toNat = (-(exponent + 1)).toNat by omega, tenTo_succ]
    ac_rfl
  · rw [show (-exponent).toNat = (-(exponent + 1)).toNat + 1 by omega,
      show (exponent + 1).toNat = exponent.toNat by omega, tenTo_succ]
    ac_rfl

theorem magnitude_dropZeros (fuel : Nat) (d : Decimal) :
    (dropZeros fuel d).magnitude = d.magnitude := by
  induction fuel generalizing d with
  | zero => rfl
  | succ fuel ih =>
    rw [dropZeros]
    split
    · rename_i hzero
      rw [ih, magnitude_dropZero hzero.2]
    · rfl

theorem magnitude_normalize (d : Decimal) : d.normalize.magnitude = d.magnitude :=
  magnitude_dropZeros _ d

end Decimal

/-! ## The shortest decimal -/

namespace Double

theorem magnitude_of_onGrid? {tie : Tie} {m : Nat} {exponent : Int} {d : Decimal}
    (h : onGrid? tie m exponent = some d) : d.magnitude = m := by
  simp only [onGrid?] at h
  split at h
  · rename_i hdown _
    cases h
    exact beq_iff_eq.1 hdown
  · rename_i _ hup
    cases h
    exact beq_iff_eq.1 hup
  · cases h
  · -- both neighbours read back, and one of them is chosen
    rename_i hdown hup
    split at h
    · cases h
      exact beq_iff_eq.1 hdown
    · split at h
      · cases h
        exact beq_iff_eq.1 hup
      · cases tie with
        | up =>
          cases h
          exact beq_iff_eq.1 hup
        | even =>
          cases h
          split
          · exact beq_iff_eq.1 hdown
          · exact beq_iff_eq.1 hup

theorem magnitude_exactDecimal {m : Nat} (hm : m < infinite) :
    (exactDecimal m).magnitude = m := by
  have hpower : tenTo 1074 / twoTo 1074 * twoTo 1074 = tenTo 1074 := by decide +kernel
  rw [Decimal.magnitude_eq]
  refine Eq.trans ?_ (nearestMagnitude_units hm)
  refine nearestMagnitude_congr (Decimal.denominator_pos _) (twoTo_pos _) ?_
  show units m * (tenTo 1074 / twoTo 1074) * 1 * twoTo 1074 = units m * tenTo 1074
  rw [Nat.mul_one, Nat.mul_assoc, hpower]

theorem magnitude_shortestMagnitude (tie : Tie) {m : Nat} (hm : m < infinite) :
    (shortestMagnitude tie m).magnitude = m := by
  rw [shortestMagnitude, Decimal.magnitude_normalize]
  cases hfound : (List.range 17).findSome? fun (n : Nat) => onGrid? tie m (leadingExponent m - n) with
  | none => exact magnitude_exactDecimal hm
  | some d =>
    obtain ⟨n, _, hgrid⟩ := List.exists_of_findSome?_eq_some hfound
    exact magnitude_of_onGrid? hgrid

theorem magnitude_shortest (tie : Tie) {d : Double} (hd : d.isFinite = true) :
    (d.shortest tie).magnitude = d.magnitude := by
  rw [shortest]
  split
  · rename_i hzero
    rw [hzero]
    rfl
  · exact magnitude_shortestMagnitude tie (of_decide_eq_true hd)

theorem ofMagnitude_self (d : Double) : ofMagnitude d.negative d.magnitude = d := by
  obtain ⟨negative, magnitude, hlt⟩ := d
  simp [ofMagnitude, Nat.mod_eq_of_lt hlt]

/-- A finite double is the nearest one to the shortest decimal that is printed for it. -/
theorem toDouble_shortest (tie : Tie) {d : Double} (hd : d.isFinite = true) :
    (d.shortest tie).toDouble d.negative = d := by
  rw [Decimal.toDouble, magnitude_shortest tie hd, ofMagnitude_self]

end Double

end Tabular
