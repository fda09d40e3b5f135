/-
How scalars are spelt. The text of a truth value, an integer or a string is scanned as one lexeme
that has this value. Strings and words end by themselves; an integer needs to be followed by what
can follow a value in a container, which is no part of a number.
-/
import Mathlib.Tactic.Common
import Tabular.Json.Reader
import Tabular.Json.Writer
import Tabular.Proofs.Text.Numeral

namespace Tabular.Json

namespace Lexeme

variable {c : Char} {l : Lexeme} {cs rest : List Char}

/-! ## Single lexemes -/

theorem scan_nil : scan [] = [] := by
  rw [scan]

theorem scan_of_next (hc : isBlank c = false) (h : next? (c :: cs) = some (l, rest)) :
    scan (c :: cs) = l :: scan rest := by
  rw [scan, hc, if_neg Bool.false_ne_true]
  split
  · rename_i l' rest' h'
    rw [h] at h'
    cases h'
    rfl
  · rename_i h'
    rw [h] at h'
    cases h'

theorem scan_punctuation (hc : isBlank c = false) (h : punctuation? c = some l) :
    scan (c :: cs) = l :: scan cs := by
  refine scan_of_next hc ?_
  unfold next?
  simp only [h]

theorem scan_nullText (rest : List Char) : scan (nullText ++ rest) = .null :: scan rest :=
  scan_of_next rfl rfl

theorem scan_boolText (b : Bool) (rest : List Char) :
    scan (boolText b ++ rest) = .bool b :: scan rest := by
  cases b <;> exact scan_of_next rfl rfl

/-! ## Strings -/

theorem hexValue?_hexDigit (n : Nat) : hexValue? (hexDigit n) = some (n % 16) := by
  have hall : ∀ m < 16, hexValue? (Nat.digitChar m) = some m := by decide
  exact hall (n % 16) (Nat.mod_lt n (by decide))

theorem unit?_hexDigit {n : Nat} (h : n < 0x20) (rest : List Char) :
    unit? ('0' :: '0' :: hexDigit (n / 16) :: hexDigit n :: rest) = some (n, rest) := by
  have hzero : hexValue? '0' = some 0 := by decide
  have hvalue : n / 16 % 16 * 16 + n % 16 = n := by omega
  simp [unit?, hzero, hexValue?_hexDigit, hvalue]

/-- The three ways to write a character of a string: by a letter, by its number, or as it is. -/
theorem escapeChar_cases (c : Char) :
    (∃ letter, escapeChar c = ['\\', letter] ∧ letter ≠ 'u' ∧ escapedLetter? letter = some c) ∨
      (c.toNat < 0x20 ∧
        escapeChar c = ['\\', 'u', '0', '0', hexDigit (c.toNat / 16), hexDigit c.toNat]) ∨
      (c ≠ '"' ∧ c ≠ '\\' ∧ ¬ c.toNat < 0x20 ∧ escapeChar c = [c]) := by
  fun_cases escapeChar c with
  | case8 _ _ _ _ _ _ _ hcontrol => exact .inr (.inl ⟨hcontrol, rfl⟩)
  | case9 hquote hbackslash _ _ _ _ _ hcontrol =>
    exact .inr (.inr ⟨hquote, hbackslash, hcontrol, rfl⟩)
  | _ => exact .inl ⟨_, rfl, by decide, by subst c; decide⟩

theorem stringChar?_escapeChar (c : Char) (rest : List Char) :
    stringChar? (escapeChar c ++ rest) = some (some c, rest) := by
  rcases escapeChar_cases c with ⟨letter, hc, hu, hletter⟩ | ⟨hcontrol, hc⟩ |
    ⟨_, hbackslash, hcontrol, hc⟩
  · rw [hc]
    show stringChar? ('\\' :: letter :: rest) = _
    rw [stringChar?.eq_2 _ _ hu, hletter]
    rfl
  · rw [hc]
    show escapedUnit? ('0' :: '0' :: hexDigit (c.toNat / 16) :: hexDigit c.toNat :: rest) = _
    have hlow : isLowSurrogate c.toNat = false := by
      simp only [isLowSurrogate, Bool.and_eq_false_iff, decide_eq_false_iff_not]
      omega
    have hhigh : isHighSurrogate c.toNat = false := by
      simp only [isHighSurrogate, Bool.and_eq_false_iff, decide_eq_false_iff_not]
      omega
    simp [escapedUnit?, unit?_hexDigit hcontrol, hlow, hhigh]
  · rw [hc]
    show stringChar? (c :: rest) = _
    rw [stringChar?.eq_4 c rest (fun _ h _ => hbackslash h) (fun _ _ h _ => hbackslash h)
      (fun h _ => hbackslash h), if_neg hcontrol]

theorem stringBody?_escapeChar (c : Char) (rest : List Char) :
    stringBody? (escapeChar c ++ rest) =
      (stringBody? rest).map fun (content, after) => (content.map (c :: ·), after) := by
  have hread := stringChar?_escapeChar c rest
  obtain ⟨first, more, hfirst, hquote⟩ : ∃ first more,
      escapeChar c ++ rest = first :: more ∧ first ≠ '"' := by
    rcases escapeChar_cases c with ⟨letter, hc, _⟩ | ⟨_, hc⟩ | ⟨hquote, _, _, hc⟩
    · exact ⟨'\\', _, by rw [hc]; rfl, by decide⟩
    · exact ⟨'\\', _, by rw [hc]; rfl, by decide⟩
    · exact ⟨c, _, by rw [hc]; rfl, hquote⟩
  rw [hfirst] at hread ⊢
  rw [stringBody?, if_neg hquote]
  split
  · rename_i hnone
    rw [hread] at hnone
    cases hnone
  · rename_i d after hsome
    rw [hread] at hsome
    cases hsome
    rfl

theorem stringBody?_escaped (s rest : List Char) :
    stringBody? (s.flatMap escapeChar ++ '"' :: rest) = some (some s, rest) := by
  induction s with
  | nil =>
    show stringBody? ('"' :: rest) = _
    rw [stringBody?, if_pos rfl]
  | cons c s ih =>
    rw [List.flatMap_cons, List.append_assoc, stringBody?_escapeChar, ih]
    rfl

theorem scan_quoted (s : String) (rest : List Char) :
    scan (quoted s ++ rest) = .string (some s.toList) :: scan rest := by
  have hbody := stringBody?_escaped s.toList rest
  rw [quoted, List.append_assoc, List.cons_append]
  refine scan_of_next rfl ?_
  show (stringBody? (s.toList.flatMap escapeChar ++ (['"'] ++ rest))).map _ = _
  rw [List.singleton_append, hbody]
  rfl

/-! ## Integers -/

/-- What is no part of a number: the end, or a character that continues none. -/
def EndsNumber (rest : List Char) : Prop :=
  ∀ c, rest.head? = some c → c.isDigit = false ∧ c ≠ '.' ∧ c ≠ 'e' ∧ c ≠ 'E'

/-- The parts of a written integer. -/
def integerParts (n : Int) : NumberText :=
  ⟨n < 0, Nat.toDigits 10 n.natAbs, none, none⟩

theorem integerText_eq (n : Int) :
    integerText n = Text.minusSign (n < 0) ++ Nat.toDigits 10 n.natAbs :=
  Text.toList_toString n

theorem exists_toDigits_eq_cons (n : Nat) :
    ∃ d digits, Nat.toDigits 10 n = d :: digits ∧ d.isDigit = true := by
  obtain ⟨d, digits, hd⟩ := List.exists_cons_of_ne_nil
    (Nat.toDigits_ne_nil : Nat.toDigits 10 n ≠ [])
  exact ⟨d, digits, hd, Text.isDigit_of_mem_toDigits (hd ▸ List.mem_cons_self)⟩

/-- Only zero is written with a leading zero. -/
theorem head?_toDigits {n : Nat} (h : (Nat.toDigits 10 n).head? = some '0') : n = 0 := by
  induction n using Nat.strongRecOn with
  | ind n ih =>
    by_cases hn : n < 10
    · rw [Nat.toDigits_of_lt_base hn] at h
      simpa using h
    · obtain ⟨d, digits, hd, _⟩ := exists_toDigits_eq_cons (n / 10)
      rw [Nat.toDigits_of_base_le (by decide) (by omega), hd] at h
      have hquotient := ih (n / 10) (by omega) (by rw [hd]; exact h)
      omega

theorem wholeDigits?_toDigits (n : Nat) (hr : EndsNumber rest) :
    wholeDigits? (Nat.toDigits 10 n ++ rest) = some (Nat.toDigits 10 n, rest) := by
  have hsplit : Text.splitDigits (Nat.toDigits 10 n ++ rest) = (Nat.toDigits 10 n, rest) :=
    Text.splitDigits_append (fun _ hc => Text.isDigit_of_mem_toDigits hc) fun c hc => (hr c hc).1
  unfold wholeDigits?
  split
  · rename_i hnone
    rw [hsplit] at hnone
    exact absurd (Prod.mk.inj hnone).1 Nat.toDigits_ne_nil
  · rename_i hzero
    rw [hsplit] at hzero
    have hdigits := (Prod.mk.inj hzero).1
    have hn := head?_toDigits (n := n) (by rw [hdigits]; rfl)
    rw [hn] at hdigits
    cases hdigits
  · rw [hsplit]

theorem splitMinus_integerText (n : Int) (rest : List Char) :
    splitMinus (integerText n ++ rest) =
      (decide (n < 0), Nat.toDigits 10 n.natAbs ++ rest) := by
  rw [integerText_eq]
  cases decide (n < 0) with
  | true => rfl
  | false =>
    obtain ⟨d, digits, hd, hdigit⟩ := exists_toDigits_eq_cons n.natAbs
    have hminus : d ≠ '-' := by
      rintro rfl
      exact absurd hdigit (by decide)
    rw [hd]
    exact splitMinus.eq_2 _ fun _ h => hminus (List.cons.inj h).1

theorem number?_integerText (n : Int) (hr : EndsNumber rest) :
    number? (integerText n ++ rest) = some (integerParts n, rest) := by
  have hends : fraction? rest = some (none, rest) ∧ exponent? rest = some (none, rest) := by
    cases rest with
    | nil => exact ⟨rfl, rfl⟩
    | cons c rest =>
      obtain ⟨_, hpoint, hlower, hupper⟩ := hr c rfl
      refine ⟨fraction?.eq_2 _ fun _ h => hpoint (List.cons.inj h).1, ?_⟩
      rw [exponent?, if_neg (not_or.2 ⟨hlower, hupper⟩)]
  simp [number?, splitMinus_integerText, wholeDigits?_toDigits _ hr, hends.1, hends.2, integerParts]

theorem scan_integerText (n : Int) (hr : EndsNumber rest) :
    scan (integerText n ++ rest) = .number (integerParts n) :: scan rest := by
  have hnumber := number?_integerText n hr
  obtain ⟨c, more, hc, hstart⟩ : ∃ c more, integerText n ++ rest = c :: more ∧
      (c = '-' ∨ c.isDigit = true) := by
    obtain ⟨d, digits, hd, hdigit⟩ := exists_toDigits_eq_cons n.natAbs
    rw [integerText_eq, hd]
    cases decide (n < 0) with
    | true => exact ⟨'-', _, rfl, .inl rfl⟩
    | false => exact ⟨d, _, rfl, .inr hdigit⟩
  -- neither a minus nor a digit is one of the characters that are tried before them
  have hother : ∀ d ∈ ['[', ']', '{', '}', ',', ':', '"', ' ', '\n', '\t', '\r'], c ≠ d := by
    rintro d hd rfl
    have hnone : ['[', ']', '{', '}', ',', ':', '"', ' ', '\n', '\t', '\r'].any
        (fun d => d == '-' || d.isDigit) = false := by decide
    exact List.any_eq_false.1 hnone c hd (by simpa using hstart)
  simp only [List.forall_mem_cons] at hother
  rw [hc] at hnumber ⊢
  refine scan_of_next (by simp [isBlank, hother]) ?_
  simp [next?, punctuation?, hother, hstart, hnumber]

end Lexeme

/-! ## The values of integers -/

namespace NumberText

theorem le_ofDigitChars (digits : List Char) (n : Nat) : n ≤ Nat.ofDigitChars 10 digits n := by
  induction digits generalizing n with
  | nil => exact Nat.le_refl n
  | cons c digits ih =>
    rw [Nat.ofDigitChars_cons]
    have hnext := ih (10 * n + (c.toNat - '0'.toNat))
    omega

/-- Digits are all taken while the number they denote is within the limit. -/
theorem absorb_eq {digits : List Char} {n : Nat}
    (h : Nat.ofDigitChars 10 digits n ≤ significandLimit) :
    absorb n digits = (Nat.ofDigitChars 10 digits n, digits.length, 0) := by
  induction digits generalizing n with
  | nil => rfl
  | cons c digits ih =>
    have hnext : n * 10 + Text.digitsValue [c] = 10 * n + (c.toNat - '0'.toNat) := by
      simp [Text.digitsValue, Nat.ofDigitChars_cons, Nat.mul_comm]
    rw [Nat.ofDigitChars_cons, ← hnext] at h ⊢
    have hle := Nat.le_trans (le_ofDigitChars digits _) h
    simp only [absorb, if_pos hle, ih h, List.length_cons]

/-- An integer that 64 bits can hold, with or without a sign, is read as itself. -/
theorem value?_integerParts {n : Int} (hlow : -(Double.signWeight : Int) ≤ n)
    (hhigh : n ≤ significandLimit) : (Lexeme.integerParts n).value? = some (.integer n) := by
  have hlimit : Double.signWeight ≤ significandLimit := by decide
  have habs : Nat.ofDigitChars 10 (Nat.toDigits 10 n.natAbs) 0 = n.natAbs :=
    Nat.ofDigitChars_ten_toDigits
  have hsmall : Nat.ofDigitChars 10 (Nat.toDigits 10 n.natAbs) 0 ≤ significandLimit := by
    rw [habs]
    omega
  have hdigits := absorb_eq hsmall
  rw [habs] at hdigits
  have hvalue : integerValue (decide (n < 0)) n.natAbs = .integer n := by
    unfold integerValue
    by_cases hn : n < 0
    · rw [if_neg (by simp [hn]), if_neg (by omega)]
      congr
      omega
    · rw [if_pos (by simp [hn])]
      congr
      omega
  simp [value?, Lexeme.integerParts, hdigits, hvalue]

end NumberText

end Tabular.Json
