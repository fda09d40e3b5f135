/-
The lenient integer in closed form. A value of 64 bits takes the digits in one after the other, and
each product and each sum stops at the bounds. Once at a bound the value stays there, because the
digits of one number all push the same way, so the whole gives the integer that the digits denote,
held at the bounds once.
-/
import Tabular.Proofs.Text.Grammar

namespace Tabular.Text

/-! ## Arithmetic that stops at the bounds -/

/-- The integer of 64 bits nearest to an integer. -/
def clamp (n : Int) : Int :=
  max Int64.minValue.toInt (min n Int64.maxValue.toInt)

theorem clamp_eq (n : Int) : clamp n = max (-9223372036854775808) (min n 9223372036854775807) := rfl

theorem toInt_ofIntClamp (n : Int) : (Int64.ofIntClamp n).toInt = clamp n := by
  have hmin : Int64.minValue.toInt = -9223372036854775808 := rfl
  have hmax : Int64.maxValue.toInt = 9223372036854775807 := rfl
  unfold Int64.ofIntClamp
  rw [clamp_eq]
  split
  · split
    · rw [Int64.toInt_ofIntLE]
      omega
    · omega
  · omega

/-- A digit that is taken in after the value was held at a bound changes what the number would be,
and the bound is the same for both. -/
theorem takeDigit_ofIntClamp (negative : Bool) (n : Nat) (c : Char) :
    takeDigit negative (Int64.ofIntClamp (signedValue negative n)) c =
      Int64.ofIntClamp (signedValue negative (10 * n + (c.toNat - '0'.toNat))) := by
  rw [← Int64.toInt_inj]
  simp only [takeDigit, toInt_ofIntClamp, clamp_eq, signedValue]
  generalize c.toNat - '0'.toNat = digit
  cases negative with
  | true =>
    simp only [if_true]
    omega
  | false =>
    simp only [Bool.false_eq_true, if_false]
    omega

/-- Digit by digit gives the same as all digits at once. -/
theorem foldl_takeDigit (negative : Bool) (digits : List Char) :
    digits.foldl (takeDigit negative) 0 =
      Int64.ofIntClamp (signedValue negative (digitsValue digits)) := by
  have hfrom : ∀ n : Nat, digits.foldl (takeDigit negative)
      (Int64.ofIntClamp (signedValue negative n)) =
        Int64.ofIntClamp (signedValue negative (Nat.ofDigitChars 10 digits n)) := by
    induction digits with
    | nil => exact fun _ => rfl
    | cons c digits ih =>
      intro n
      rw [List.foldl_cons, takeDigit_ofIntClamp, ih]
      rfl
  have hzero : Int64.ofIntClamp (signedValue negative 0) = 0 := by cases negative <;> rfl
  rw [← hzero, hfrom, digitsValue]

/-! ## The lenient integer -/

/-- The sign and the digits that a text opens with: there is a sign whenever there can be one, and
the digits go on for as long as they can. -/
inductive Opens : List Char → Bool → List Char → Prop
  | mk {sign digits rest : List Char} {negative : Bool} : IsSign sign negative →
      (sign = [] → ∀ c ∈ (digits ++ rest).head?, c ≠ '+' ∧ c ≠ '-') → AreDigits digits →
      (∀ c ∈ rest.head?, c.isDigit = false) → Opens (sign ++ (digits ++ rest)) negative digits

theorem exists_opens (cs : List Char) : ∃ negative digits, Opens cs negative digits := by
  rcases hsplit : splitSign cs with ⟨negative, unsigned⟩
  obtain ⟨sign, hsign, rfl, hnone⟩ := exists_sign hsplit
  rcases hrun : splitDigits unsigned with ⟨digits, rest⟩
  obtain ⟨rfl, hdigits, hrest⟩ := splitDigits_eq_iff.1 hrun
  exact ⟨negative, digits, .mk hsign hnone hdigits hrest⟩

theorem Opens.split_eq {cs digits : List Char} {negative : Bool} (h : Opens cs negative digits) :
    (splitSign cs).1 = negative ∧ (splitSign cs).2.takeWhile Char.isDigit = digits := by
  obtain ⟨hsign, hnone, hdigits, hrest⟩ := h
  rw [splitSign_append hsign hnone]
  exact ⟨rfl, congrArg Prod.fst (splitDigits_append hdigits hrest)⟩

/-- The lenient integer is what taking in the digits one by one gives, however many they are: the
integer that they denote, held at the bounds. -/
theorem castInteger_of_opens {s : String} {negative : Bool} {digits : List Char}
    (h : Opens (unseparated s) negative digits) :
    castInteger s = digits.foldl (takeDigit negative) 0 ∧
      (castInteger s).toInt = clamp (signedValue negative (digitsValue digits)) := by
  obtain ⟨hnegative, hdigits⟩ := h.split_eq
  have hcast : castInteger s = digits.foldl (takeDigit negative) 0 := by
    rw [← hnegative, ← hdigits]
    rfl
  rw [hcast, foldl_takeDigit, toInt_ofIntClamp]
  exact ⟨rfl, rfl⟩

theorem unseparated_toString (n : Int) :
    unseparated (toString n) = minusSign (n < 0) ++ Nat.toDigits 10 n.natAbs := by
  have hdigits : ∀ c ∈ Nat.toDigits 10 n.natAbs, c.isDigit = true := fun _ =>
    isDigit_of_mem_toDigits
  have hminus : (minusSign (n < 0)).filter (!isSeparator ·) = minusSign (n < 0) := by
    cases decide (n < 0) <;> rfl
  rw [unseparated, toList_toString, List.filter_append, hminus, List.filter_eq_self.2 fun c hc => ?_]
  · exact trimStart_eq_self (isBlank_head?_numeral _ fun c hc =>
      hdigits c (List.mem_of_mem_head? hc))
  · rw [isSeparator_of_isDigit (hdigits c hc)]
    rfl

/-- The lenient reading gives an integer of 64 bits back. -/
theorem castInteger_toString (n : Int64) : castInteger (toString n.toInt) = n := by
  have hdigits : ∀ c ∈ Nat.toDigits 10 n.toInt.natAbs, c.isDigit = true := fun _ =>
    isDigit_of_mem_toDigits
  have hvalue : signedValue (decide (n.toInt < 0)) n.toInt.natAbs = n.toInt := by
    simp only [signedValue, decide_eq_true_eq]
    split <;> omega
  have htake : (Nat.toDigits 10 n.toInt.natAbs).takeWhile Char.isDigit =
      Nat.toDigits 10 n.toInt.natAbs := congrArg Prod.fst (splitDigits_self hdigits)
  rw [castInteger, unseparated_toString,
    splitSign_minusSign _ fun c hc => hdigits c (List.mem_of_mem_head? hc)]
  simp only [htake, foldl_takeDigit, digitsValue_toDigits, hvalue, Int64.ofIntClamp_toInt]

/-! ## Separators -/

/-- The second text is the first with separators put in, anywhere and any number of them. -/
inductive Spaced : List Char → List Char → Prop
  | nil : Spaced [] []
  | keep {cs ds : List Char} (c : Char) : Spaced cs ds → Spaced (c :: cs) (c :: ds)
  | insert {cs ds : List Char} {c : Char} : isSeparator c = true → Spaced cs ds → Spaced cs (c :: ds)

theorem Spaced.filter_eq {cs ds : List Char} (h : Spaced cs ds) :
    ds.filter (!isSeparator ·) = cs.filter (!isSeparator ·) := by
  induction h with
  | nil => rfl
  | keep c _ ih => rw [List.filter_cons, List.filter_cons, ih]
  | insert hc _ ih => simp [hc, ih]

theorem castInteger_of_spaced {s t : String} (h : Spaced s.toList t.toList) :
    castInteger t = castInteger s := by
  rw [castInteger, castInteger, unseparated, unseparated, h.filter_eq]

end Tabular.Text
