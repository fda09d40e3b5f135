/-
The grammar of numerals. An integer is an optional sign and at least one digit; a decimal is an
optional sign, digits around an optional point, at least one in all, and an optional exponent. The
strict integer and the decimal number are read from these texts, with the values that the grammar
gives them, and from no others.
-/
import Tabular.Proofs.Text.Numeral

namespace Tabular.Text

variable {cs rest digits whole fraction : List Char} {negative : Bool}

/-! ## The grammar -/

/-- An optional sign, with whether it is a minus. -/
inductive IsSign : List Char → Bool → Prop
  | nothing : IsSign [] false
  | plus : IsSign ['+'] false
  | minus : IsSign ['-'] true

/-- Digits and nothing else, possibly none. -/
abbrev AreDigits (cs : List Char) : Prop :=
  ∀ c ∈ cs, c.isDigit = true

/-- An optional sign and at least one digit, with the integer they denote. -/
inductive IsInteger : List Char → Int → Prop
  | mk {sign digits : List Char} {negative : Bool} : IsSign sign negative → digits ≠ [] →
      AreDigits digits → IsInteger (sign ++ digits) (signedValue negative (digitsValue digits))

/-- Digits around an optional point, at least one in all, with those before it and those behind. -/
inductive IsMantissa : List Char → List Char → List Char → Prop
  | whole {digits : List Char} : digits ≠ [] → AreDigits digits → IsMantissa digits digits []
  | point {whole fraction : List Char} : AreDigits whole → AreDigits fraction →
      whole ++ fraction ≠ [] → IsMantissa (whole ++ '.' :: fraction) whole fraction

/-- An optional exponent, with its value. -/
inductive IsExponent : List Char → Int → Prop
  | nothing : IsExponent [] 0
  | marked {mark : Char} {cs : List Char} {e : Int} : mark = 'e' ∨ mark = 'E' → IsInteger cs e →
      IsExponent (mark :: cs) e

/-- A decimal number, with its sign and the decimal it denotes: the digits without the point, with
one place less in the exponent for each digit behind it. -/
inductive IsDecimal : List Char → Bool → Decimal → Prop
  | mk {sign mantissa whole fraction exponent : List Char} {negative : Bool} {e : Int} :
      IsSign sign negative → IsMantissa mantissa whole fraction → IsExponent exponent e →
      IsDecimal (sign ++ mantissa ++ exponent) negative
        ⟨digitsValue (whole ++ fraction), e - fraction.length⟩

/-! ## Parts -/

/-- A sign is split off, whatever follows it; where there is none, no sign may follow. -/
theorem splitSign_append {sign : List Char} (hsign : IsSign sign negative)
    (hrest : sign = [] → ∀ c ∈ rest.head?, c ≠ '+' ∧ c ≠ '-') :
    splitSign (sign ++ rest) = (negative, rest) := by
  cases hsign with
  | plus | minus => rfl
  | nothing =>
    refine splitSign.eq_3 _ ?_ ?_
    · rintro tail rfl
      exact (hrest rfl '+' rfl).1 rfl
    · rintro tail rfl
      exact (hrest rfl '-' rfl).2 rfl

/-- What is split off is a sign. It is empty only when the text starts with none. -/
theorem exists_sign (h : splitSign cs = (negative, rest)) :
    ∃ sign, IsSign sign negative ∧ cs = sign ++ rest ∧
      (sign = [] → ∀ c ∈ rest.head?, c ≠ '+' ∧ c ≠ '-') := by
  unfold splitSign at h
  split at h <;> obtain ⟨rfl, rfl⟩ := Prod.mk.inj h
  · exact ⟨['+'], .plus, rfl, nofun⟩
  · exact ⟨['-'], .minus, rfl, nofun⟩
  · rename_i hplus hminus
    refine ⟨[], .nothing, rfl, ?_⟩
    rintro - c hc
    obtain ⟨tail, htail⟩ := List.head?_eq_some_iff.1 hc
    constructor
    · rintro rfl
      exact hplus tail htail
    · rintro rfl
      exact hminus tail htail

theorem ne_sign_of_isDigit {c : Char} (h : c.isDigit = true) : c ≠ '+' ∧ c ≠ '-' := by
  constructor <;> rintro rfl <;> exact absurd h (by decide)

theorem splitDigits_eq_iff : splitDigits cs = (digits, rest) ↔
    cs = digits ++ rest ∧ AreDigits digits ∧ ∀ c ∈ rest.head?, c.isDigit = false := by
  constructor
  · intro h
    obtain ⟨rfl, rfl⟩ := Prod.mk.inj h
    refine ⟨List.takeWhile_append_dropWhile.symm, ?_, ?_⟩
    · intro c hc
      exact List.all_eq_true.1 List.all_takeWhile c hc
    · intro c hc
      have hkept := List.head?_dropWhile_not Char.isDigit cs
      rw [hc] at hkept
      simpa using hkept
  · rintro ⟨rfl, hdigits, hrest⟩
    exact splitDigits_append hdigits hrest

/-- The condition under which a sign and digits are read, here for both readers of them. -/
theorem isInteger_iff {n : Int} (h : splitSign cs = (negative, digits)) :
    IsInteger cs n ↔ (digits.isEmpty || !digits.all Char.isDigit) = false ∧
      signedValue negative (digitsValue digits) = n := by
  simp only [Bool.or_eq_false_iff, List.isEmpty_eq_false_iff, Bool.not_eq_false', List.all_eq_true]
  constructor
  · rintro ⟨hsign, hne, hdigits⟩
    rw [splitSign_append hsign fun _ c hc => ne_sign_of_isDigit (hdigits c (List.mem_of_mem_head? hc))]
      at h
    obtain ⟨rfl, rfl⟩ := Prod.mk.inj h
    exact ⟨⟨hne, hdigits⟩, rfl⟩
  · rintro ⟨⟨hne, hdigits⟩, rfl⟩
    obtain ⟨sign, hsign, rfl, -⟩ := exists_sign h
    exact .mk hsign hne hdigits

/-! ## What is read -/

/-- The strict integer is an integer of 64 bits. -/
theorem integer?_eq_some_iff {n : Int64} : integer? cs = some n ↔ IsInteger cs n.toInt := by
  rcases hsign : splitSign cs with ⟨negative, digits⟩
  simp only [integer?, hsign, isInteger_iff hsign]
  cases digits.isEmpty || !digits.all Char.isDigit with
  | true => simp
  | false =>
    generalize signedValue negative (digitsValue digits) = m
    simp only [Bool.false_eq_true, if_false, true_and, Option.ite_none_right_eq_some,
      Option.some.injEq]
    constructor
    · rintro ⟨⟨hlow, hhigh⟩, rfl⟩
      rw [← Int64.ofIntLE_eq_ofInt hlow hhigh, Int64.toInt_ofIntLE]
    · rintro rfl
      exact ⟨⟨n.minValue_le_toInt, n.toInt_le⟩, Int64.ofInt_toInt n⟩

theorem exponent?_eq_some_iff {e : Int} : exponent? cs = some e ↔ IsExponent cs e := by
  cases cs with
  | nil =>
    constructor
    · rintro ⟨⟩
      exact .nothing
    · rintro ⟨⟩
      rfl
  | cons c cs =>
    have hmarked : IsExponent (c :: cs) e ↔ (c = 'e' ∨ c = 'E') ∧ IsInteger cs e := by
      constructor
      · rintro (_ | ⟨hmark, hinteger⟩)
        exact ⟨hmark, hinteger⟩
      · rintro ⟨hmark, hinteger⟩
        exact .marked hmark hinteger
    rcases hsign : splitSign cs with ⟨negative, digits⟩
    rw [hmarked, isInteger_iff hsign]
    by_cases hmark : c = 'e' ∨ c = 'E'
    · simp [exponent?, hmark, hsign]
    · simp [exponent?, hmark]

theorem splitFraction_cons_of_ne {c : Char} (h : c ≠ '.') (cs : List Char) :
    splitFraction (c :: cs) = ([], c :: cs) := by
  refine splitFraction.eq_2 _ ?_
  rintro tail heq
  cases heq
  exact h rfl

/-- A mantissa is split into its two runs of digits, whatever follows that is neither a digit nor a
point. -/
theorem split_mantissa {mantissa : List Char} (h : IsMantissa mantissa whole fraction)
    (hrest : ∀ c ∈ rest.head?, c.isDigit = false ∧ c ≠ '.') :
    ∃ afterWhole, splitDigits (mantissa ++ rest) = (whole, afterWhole) ∧
      splitFraction afterWhole = (fraction, rest) ∧ (whole.isEmpty && fraction.isEmpty) = false := by
  have hstop : ∀ c ∈ rest.head?, c.isDigit = false := fun c hc => (hrest c hc).1
  cases h with
  | whole hne hdigits =>
    refine ⟨rest, splitDigits_append hdigits hstop, ?_, by simp [hne]⟩
    cases rest with
    | nil => rfl
    | cons c rest => exact splitFraction_cons_of_ne (hrest c rfl).2 rest
  | point hwhole hfraction hne =>
    refine ⟨'.' :: (fraction ++ rest), ?_, splitDigits_append hfraction hstop, ?_⟩
    · rw [List.append_assoc, List.cons_append]
      refine splitDigits_append hwhole ?_
      rintro c ⟨⟩
      decide
    · simpa [Decidable.imp_iff_not_or] using hne

/-- What is split off is a mantissa, if it has a digit. -/
theorem exists_mantissa {afterWhole : List Char} (hwhole : splitDigits cs = (whole, afterWhole))
    (hfraction : splitFraction afterWhole = (fraction, rest))
    (hne : (whole.isEmpty && fraction.isEmpty) = false) :
    ∃ mantissa, IsMantissa mantissa whole fraction ∧ cs = mantissa ++ rest := by
  obtain ⟨rfl, hdigits, -⟩ := splitDigits_eq_iff.1 hwhole
  unfold splitFraction at hfraction
  split at hfraction
  · rename_i tail
    obtain ⟨rfl, hplaces, -⟩ := splitDigits_eq_iff.1 hfraction
    refine ⟨whole ++ '.' :: fraction, .point hdigits hplaces ?_, by simp⟩
    simpa [Decidable.imp_iff_not_or] using hne
  · obtain ⟨rfl, rfl⟩ := Prod.mk.inj hfraction
    refine ⟨whole, .whole ?_ hdigits, rfl⟩
    simpa using hne

/-- A mantissa starts with a digit or with the point, so no sign can be taken for a part of it. -/
theorem ne_sign_of_mantissa {mantissa : List Char} (h : IsMantissa mantissa whole fraction)
    (rest : List Char) : ∀ c ∈ (mantissa ++ rest).head?, c ≠ '+' ∧ c ≠ '-' := by
  intro c hc
  cases h with
  | whole hne hdigits => exact ne_sign_of_isDigit (isDigit_head? hdigits hne rest c hc)
  | point hwhole _ _ =>
    rw [List.append_assoc] at hc
    by_cases hne : whole = []
    · subst hne
      cases hc
      decide
    · exact ne_sign_of_isDigit (isDigit_head? hwhole hne _ c hc)

/-- The decimal number is a text of the grammar, read as the decimal it denotes. -/
theorem decimal?_eq_some_iff {d : Decimal} :
    decimal? cs = some (negative, d) ↔ IsDecimal cs negative d := by
  constructor
  · intro h
    rcases hsign : splitSign cs with ⟨negative', unsigned⟩
    rcases hwhole : splitDigits unsigned with ⟨whole, afterWhole⟩
    rcases hfraction : splitFraction afterWhole with ⟨fraction, rest⟩
    simp only [decimal?, hsign, hwhole, hfraction] at h
    split at h
    · cases h
    · rename_i hne
      obtain ⟨e, he, hd⟩ := Option.bind_eq_some_iff.1 h
      cases hd
      obtain ⟨sign, hsigned, rfl, -⟩ := exists_sign hsign
      obtain ⟨mantissa, hmantissa, rfl⟩ :=
        exists_mantissa hwhole hfraction (Bool.not_eq_true _ ▸ hne)
      rw [← List.append_assoc]
      exact .mk hsigned hmantissa (exponent?_eq_some_iff.1 he)
  · rintro ⟨hsign, hmantissa, hexponent⟩
    rename_i sign mantissa whole fraction exponent e
    have hfollow : ∀ c ∈ exponent.head?, c.isDigit = false ∧ c ≠ '.' := by
      cases hexponent with
      | nothing => rintro c ⟨⟩
      | marked hmark _ =>
        rintro c ⟨⟩
        rcases hmark with rfl | rfl <;> decide
    obtain ⟨afterWhole, hwhole, hfraction, hne⟩ := split_mantissa hmantissa hfollow
    rw [List.append_assoc]
    simp [decimal?, splitSign_append hsign fun _ => ne_sign_of_mantissa hmantissa exponent,
      hwhole, hfraction, hne, exponent?_eq_some_iff.2 hexponent]

/-- A text is scanned as a number exactly when it is in the grammar. -/
theorem scansNumber_iff : scansNumber cs = true ↔ ∃ negative d, IsDecimal cs negative d := by
  rw [scansNumber_eq, Option.isSome_iff_exists, Prod.exists]
  exact exists_congr fun _ => exists_congr fun _ => decimal?_eq_some_iff

end Tabular.Text
