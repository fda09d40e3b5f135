/-
Integers as doubles. The nearest double never falls while the integer grows, so rounding does not
turn two integers round; it can make them the same, but not up to `2 ^ 53`, since every integer of
that size is a double.
-/
import Tabular.Double.Rounding

namespace Tabular

theorem twoTo_add (m n : Nat) : twoTo (m + n) = twoTo m * twoTo n :=
  Nat.pow_add 2 m n

theorem twoTo_dvd {m n : Nat} (h : m ≤ n) : twoTo m ∣ twoTo n :=
  Nat.pow_dvd_pow 2 h

/-- A multiple of a power that is less than twice another has no larger exponent. -/
theorem le_of_mul_twoTo_lt {c m n : Nat} (h : c * twoTo m < 2 * c * twoTo n) : m ≤ n := by
  have hsucc : 2 * c * twoTo n = c * twoTo (n + 1) := by
    rw [twoTo_succ]
    ac_rfl
  rw [hsucc] at h
  have hlt := (Nat.pow_lt_pow_iff_right (by decide)).1 (Nat.lt_of_mul_lt_mul_left h)
  omega

namespace Double

/-! ## Rounding a quotient -/

theorem div_le_divToEven (num den : Nat) : num / den ≤ divToEven num den := by
  simp only [divToEven]
  split
  · omega
  · split <;> omega

theorem divToEven_le_succ (num den : Nat) : divToEven num den ≤ num / den + 1 := by
  simp only [divToEven]
  split
  · omega
  · split <;> omega

/-- Rounding keeps the order of quotients by one number. -/
theorem divToEven_mono {a b : Nat} (den : Nat) (h : a ≤ b) : divToEven a den ≤ divToEven b den := by
  rcases Nat.lt_or_eq_of_le (Nat.div_le_div_right (c := den) h) with hlt | heq
  · have hup := divToEven_le_succ a den
    have hdown := div_le_divToEven b den
    omega
  · -- the quotients agree, so the rests decide
    have ha := Nat.div_add_mod a den
    have hb := Nat.div_add_mod b den
    rw [heq] at ha
    simp only [divToEven, heq]
    generalize b / den = q at *
    generalize den * q = whole at *
    split
    · split
      · omega
      · split <;> omega
    · split
      · split
        · omega
        · split <;> omega
      · split
        · omega
        · split <;> omega

theorem divToEven_mul {den : Nat} (hden : 0 < den) (k : Nat) : divToEven (k * den) den = k := by
  simp [divToEven, Nat.mul_div_cancel k hden, hden]

/-! ## Significands -/

variable {num den : Nat}

/-- What is left of a quotient after its shift has at most 53 bits. -/
theorem scaled_lt (num : Nat) (hden : 0 < den) :
    num * twoTo 1074 < 2 * exponentWeight * (den * twoTo (unitShift num den)) := by
  have hlog : num * twoTo 1074 / den < twoTo (unitShift num den + 53) := by
    refine Nat.lt_of_lt_of_le Nat.lt_log2_self ?_
    refine Nat.pow_le_pow_right (by decide) ?_
    simp only [unitShift]
    omega
  rw [Nat.div_lt_iff_lt_mul hden, twoTo_add] at hlog
  calc num * twoTo 1074 < twoTo (unitShift num den) * twoTo 53 * den := hlog
    _ = twoTo 53 * (den * twoTo (unitShift num den)) := by ac_rfl

/-- A quotient that is shifted at all keeps 53 bits. -/
theorem le_scaled (hden : 0 < den) (hshift : unitShift num den ≠ 0) :
    exponentWeight * (den * twoTo (unitShift num den)) ≤ num * twoTo 1074 := by
  have hne : num * twoTo 1074 / den ≠ 0 := by
    intro hzero
    simp [unitShift, hzero] at hshift
  have hlog : twoTo (unitShift num den + 52) ≤ num * twoTo 1074 / den := by
    refine Nat.le_trans (Nat.pow_le_pow_right (by decide) ?_) (Nat.log2_self_le hne)
    simp only [unitShift] at hshift ⊢
    omega
  rw [Nat.le_div_iff_mul_le hden, twoTo_add] at hlog
  calc exponentWeight * (den * twoTo (unitShift num den))
      = twoTo (unitShift num den) * twoTo 52 * den := by
        show twoTo 52 * (den * twoTo (unitShift num den)) = _
        ac_rfl
    _ ≤ num * twoTo 1074 := hlog

/-- The bits that are kept of a quotient, as a multiple of its shifted unit. -/
def significand (num den : Nat) : Nat :=
  divToEven (num * twoTo 1074) (den * twoTo (unitShift num den))

theorem nearestMagnitude_eq (num den : Nat) :
    nearestMagnitude num den =
      min infinite (unitShift num den * exponentWeight + significand num den) := rfl

theorem scale_pos (hden : 0 < den) : 0 < den * twoTo (unitShift num den) :=
  Nat.mul_pos hden (twoTo_pos _)

theorem significand_le (num : Nat) (hden : 0 < den) : significand num den ≤ 2 * exponentWeight := by
  rw [← divToEven_mul (scale_pos hden) (2 * exponentWeight)]
  exact divToEven_mono _ (Nat.le_of_lt (scaled_lt num hden))

theorem le_significand (hden : 0 < den) (hshift : unitShift num den ≠ 0) :
    exponentWeight ≤ significand num den := by
  rw [← divToEven_mul (scale_pos hden) exponentWeight]
  exact divToEven_mono _ (le_scaled hden hshift)

theorem unitShift_mono {a b : Nat} (hden : 0 < den) (h : a ≤ b) :
    unitShift a den ≤ unitShift b den := by
  by_cases hshift : unitShift a den = 0
  · omega
  · -- the smaller quotient fills its 53 bits, which have to fit into those of the larger
    have hlow := le_scaled hden hshift
    have hhigh := scaled_lt b hden
    have hscaled : a * twoTo 1074 ≤ b * twoTo 1074 := Nat.mul_le_mul_right _ h
    refine le_of_mul_twoTo_lt (c := exponentWeight * den) ?_
    rw [← Nat.mul_assoc] at hlow hhigh
    rw [Nat.mul_assoc 2] at hhigh
    exact Nat.lt_of_le_of_lt hlow (Nat.lt_of_le_of_lt hscaled hhigh)

/-- The larger of two quotients by one number has the larger double. -/
theorem nearestMagnitude_mono {a b : Nat} (hden : 0 < den) (h : a ≤ b) :
    nearestMagnitude a den ≤ nearestMagnitude b den := by
  rw [nearestMagnitude_eq, nearestMagnitude_eq]
  have hle : unitShift a den * exponentWeight + significand a den ≤
      unitShift b den * exponentWeight + significand b den := by
    rcases Nat.lt_or_eq_of_le (unitShift_mono hden h) with hlt | heq
    · -- a significand that has been rounded up to the next power ends where the next shift begins
      have ha := significand_le a hden
      have hb := le_significand hden (show unitShift b den ≠ 0 by omega)
      have hweight : (unitShift a den + 1) * exponentWeight ≤ unitShift b den * exponentWeight :=
        Nat.mul_le_mul_right _ hlt
      rw [Nat.succ_mul] at hweight
      omega
    · have hsignificand : significand a den ≤ significand b den := by
        rw [significand, significand, heq]
        exact divToEven_mono _ (Nat.mul_le_mul_right _ h)
      rw [heq]
      exact Nat.add_le_add_left hsignificand _
  omega

/-! ## Exact quotients -/

/-- A shift and a significand stand for the significand shifted. -/
theorem units_shifted {shift q : Nat} (hlt : q < 2 * exponentWeight)
    (hle : shift ≠ 0 → exponentWeight ≤ q) :
    units (shift * exponentWeight + q) = q * twoTo shift := by
  by_cases hq : q < exponentWeight
  · -- only what is not shifted at all may be that short
    have hshift : shift = 0 := by
      by_cases hne : shift = 0
      · exact hne
      · exact absurd hq (Nat.not_lt.2 (hle hne))
    simp [hshift, units, hq, twoTo_zero]
  · have hdiv : (shift * exponentWeight + q) / exponentWeight = shift + 1 := by
      simp only [exponentWeight] at hlt hq ⊢
      omega
    have hmod : exponentWeight + (shift * exponentWeight + q) % exponentWeight = q := by
      simp only [exponentWeight] at hlt hq ⊢
      omega
    rw [units, if_neg (by omega), hdiv, hmod, Nat.add_sub_cancel]

/-- A quotient that loses nothing by its shift, and is not too large, is a double. -/
theorem units_nearestMagnitude (hden : 0 < den)
    (hdvd : den * twoTo (unitShift num den) ∣ num * twoTo 1074) (hfinite : unitShift num den ≤ 2045) :
    units (nearestMagnitude num den) * den = num * twoTo 1074 := by
  obtain ⟨q, hq⟩ := hdvd
  have hsignificand : significand num den = q := by
    rw [significand, hq, Nat.mul_comm]
    exact divToEven_mul (scale_pos hden) q
  have hlt : q < 2 * exponentWeight := by
    have hscaled := scaled_lt num hden
    rw [hq, Nat.mul_comm] at hscaled
    exact Nat.lt_of_mul_lt_mul_right hscaled
  have hle : unitShift num den ≠ 0 → exponentWeight ≤ q :=
    fun hshift => hsignificand ▸ le_significand hden hshift
  have hmin : nearestMagnitude num den = unitShift num den * exponentWeight + q := by
    rw [nearestMagnitude_eq, hsignificand]
    simp only [infinite, exponentWeight] at hlt ⊢
    omega
  rw [hmin, units_shifted hlt hle, hq]
  ac_rfl

/-! ## Integers -/

/-- Every integer up to `2 ^ 53` is a double. -/
theorem units_nearestMagnitude_integer {n : Nat} (h : n ≤ 2 * exponentWeight) :
    units (nearestMagnitude n 1) = n * twoTo 1074 := by
  have hexact := @units_nearestMagnitude n 1 Nat.one_pos
  rw [Nat.mul_one, Nat.one_mul] at hexact
  rcases Nat.lt_or_eq_of_le h with hlt | rfl
  · -- a shorter integer is shifted by at most the units of the number one
    have hshift : unitShift n 1 ≤ 1074 := by
      by_cases hzero : unitShift n 1 = 0
      · omega
      · have hfull := le_scaled Nat.one_pos hzero
        rw [Nat.one_mul] at hfull
        refine le_of_mul_twoTo_lt (Nat.lt_of_le_of_lt hfull ?_)
        exact Nat.mul_lt_mul_of_pos_right hlt (twoTo_pos _)
    refine hexact ?_ (Nat.le_trans hshift (by decide))
    exact Nat.dvd_trans (twoTo_dvd hshift) (Nat.dvd_mul_left ..)
  · have hshift : unitShift (2 * exponentWeight) 1 = 1075 := by decide +kernel
    refine hexact ?_ (by omega)
    rw [hshift]
    exact ⟨exponentWeight, by decide +kernel⟩

theorem magnitude_ofInt (n : Int) : (ofInt n).magnitude = nearestMagnitude n.natAbs 1 := by
  refine Nat.mod_eq_of_lt (Nat.lt_of_le_of_lt (nearestMagnitude_le _ _) ?_)
  decide

theorem negative_ofInt (n : Int) : (ofInt n).negative = decide (n < 0) := rfl

theorem totalRank_inj {a b : Double} (h : a.totalRank = b.totalRank) : a = b := by
  obtain ⟨s, m, _⟩ := a
  obtain ⟨t, n, _⟩ := b
  simp only [totalRank] at h
  cases s <;> cases t <;> simp at h ⊢ <;> omega

theorem totalRank_ofInt (n : Int) : (ofInt n).totalRank =
    if n < 0 then -(nearestMagnitude n.natAbs 1 : Int) - 1 else nearestMagnitude n.natAbs 1 := by
  simp only [totalRank, magnitude_ofInt, negative_ofInt, decide_eq_true_eq]

/-- Rounding integers to doubles never turns two of them round. -/
theorem totalRank_ofInt_mono {a b : Int} (h : a ≤ b) :
    (ofInt a).totalRank ≤ (ofInt b).totalRank := by
  rw [totalRank_ofInt, totalRank_ofInt]
  split
  · split
    · have hmagnitude := nearestMagnitude_mono Nat.one_pos
        (show b.natAbs ≤ a.natAbs by omega)
      omega
    · omega
  · split
    · omega
    · have hmagnitude := nearestMagnitude_mono Nat.one_pos
        (show a.natAbs ≤ b.natAbs by omega)
      omega

/-- Up to `2 ^ 53` two integers do not round to one double. -/
theorem ofInt_inj {a b : Int} (ha : a.natAbs ≤ 2 * exponentWeight)
    (hb : b.natAbs ≤ 2 * exponentWeight) (h : ofInt a = ofInt b) : a = b := by
  -- the sign and the absolute value can be read off the double
  have hsign : decide (a < 0) = decide (b < 0) := congrArg negative h
  have hmagnitude := congrArg (fun d => units d.magnitude) h
  simp only [magnitude_ofInt] at hmagnitude
  rw [units_nearestMagnitude_integer ha, units_nearestMagnitude_integer hb] at hmagnitude
  have habs : a.natAbs = b.natAbs := Nat.eq_of_mul_eq_mul_right (twoTo_pos _) hmagnitude
  rw [decide_eq_decide] at hsign
  omega

theorem isNaN_ofInt (n : Int) : (ofInt n).isNaN = false := by
  have hle := nearestMagnitude_le n.natAbs 1
  rw [isNaN, magnitude_ofInt]
  exact decide_eq_false (Nat.not_lt.2 hle)

/-- Only zero rounds to zero. -/
theorem magnitude_ofInt_pos {n : Int} (hn : n ≠ 0) : 0 < (ofInt n).magnitude := by
  have hone : 0 < nearestMagnitude 1 1 := by decide +kernel
  rw [magnitude_ofInt]
  exact Nat.lt_of_lt_of_le hone (nearestMagnitude_mono Nat.one_pos (by omega))

/-- Away from zero a number is told from every other double by its rank. -/
theorem rank_inj {a b : Double} (ha : 0 < a.magnitude) (h : a.rank = b.rank) : a = b := by
  obtain ⟨s, m, _⟩ := a
  obtain ⟨t, n, _⟩ := b
  simp only [rank] at ha h
  cases s <;> cases t <;> simp at h ⊢ <;> omega

theorem equals_iff {a b : Double} (ha : a.isNaN = false) :
    a.equals b = true ↔ b.isNaN = false ∧ a.rank = b.rank := by
  rw [equals, compare?, ha]
  cases hb : b.isNaN <;> simp

/-- Doubles of integers are equal by value only when they are the same. -/
theorem equals_ofInt_iff {a b : Int} : (ofInt a).equals (ofInt b) = true ↔ ofInt a = ofInt b := by
  rw [equals_iff (isNaN_ofInt a)]
  refine ⟨fun h => ?_, fun h => ⟨isNaN_ofInt b, congrArg rank h⟩⟩
  by_cases ha : a = 0
  · by_cases hb : b = 0
    · rw [ha, hb]
    · exact (rank_inj (magnitude_ofInt_pos hb) h.2.symm).symm
  · exact rank_inj (magnitude_ofInt_pos ha) h.2

/-- One past `2 ^ 53` lies half way between two doubles and rounds to the even one. -/
theorem ofInt_confused : ofInt 9007199254740993 = ofInt 9007199254740992 := by
  decide +kernel

end Double

end Tabular
