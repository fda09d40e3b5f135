/-
Literal parts of a text. The text operators lowercase the whole of both sides, so an operand that
stands in a text as it is is found where it is lowercased in the text as it is alone; this fails at
a capital sigma that ends a word on one side only. An operand that leaves no sigma open is found in
every text that it is a part of, and every other one is missed in some.
-/
import Tabular.Proofs.Text.Lowercase
import Tabular.Query.Operator

namespace Tabular

namespace Text

variable {part cs rest before after : List Char}

/-! ## Ends of a text -/

/-- The start of a text is lowercased as it is alone unless it ends in an open sigma and the word
goes on. -/
theorem lower_prefix_iff : lower part <+: lower (part ++ rest) ↔
    ¬ (endsInSigma part = true ∧ casedNext rest = true) := by
  have hnothing : casedNext [] = false := rfl
  have hlength := length_lowerWithin [] part rest
  have hsplit : lower (part ++ rest) =
      lowerWithin [] part rest ++ lowerFrom (part.reverse ++ []) rest :=
    lowerFrom_append [] part rest
  rw [← lowerWithin_eq_lower_iff_after hnothing, hsplit, List.prefix_iff_eq_take,
    List.take_left' hlength, eq_comm]

/-- The end of a text is lowercased as it is alone unless it starts with an open sigma and the word
has begun before. -/
theorem lower_suffix_iff : lower part <:+ lower (rest ++ part) ↔
    ¬ (startsWithSigma part = true ∧ casedNext rest.reverse = true) := by
  have hnothing : casedNext [] = false := rfl
  have hlength := length_lowerWithin rest.reverse part []
  have hsplit : lower (rest ++ part) =
      lowerWithin [] rest part ++ lowerWithin rest.reverse part [] := by
    rw [lower, lowerFrom_append, List.append_nil, lowerFrom_eq_lowerWithin]
  have hdrop : (lowerWithin [] rest part).length =
      (lowerWithin [] rest part ++ lowerWithin rest.reverse part []).length -
        (lower part).length := by
    rw [List.length_append, hlength, Nat.add_sub_cancel]
  rw [← lowerWithin_eq_lower_iff_before hnothing, hsplit, List.suffix_iff_eq_drop,
    List.drop_left' hdrop, eq_comm]

/-- The end of a trimmed text is trimmed at its start alone. -/
theorem exists_trim_of_suffix (h : trim cs = rest ++ part) :
    ∃ blanks, part = blanks ++ trim part ∧ blanks.all isBlank = true := by
  obtain ⟨blanks, more, hpart, hblanks, hmore⟩ := exists_trim part
  rcases List.eq_nil_or_concat more with rfl | ⟨more, c, rfl⟩
  · exact ⟨blanks, by rwa [List.append_nil] at hpart, hblanks⟩
  · -- a blank at its end would end the trimmed text
    have hlast : (trim cs).getLast? = some c := by
      rw [h, hpart]
      simp
    have hblank : isBlank c = true := List.all_eq_true.1 hmore c (by simp)
    rw [isBlank_getLast?_trim hlast] at hblank
    cases hblank

/-- Trimming the end of a text makes no difference: a sigma after a blank ends no word, whether the
blank is left or not. -/
theorem lower_trim_suffix_iff (h : trim cs = rest ++ part) :
    lower (trim part) <:+ lower (trim cs) ↔
      ¬ (startsWithSigma part = true ∧ casedNext rest.reverse = true) := by
  obtain ⟨blanks, hpart, hblanks⟩ := exists_trim_of_suffix h
  have hcs : trim cs = rest ++ blanks ++ trim part := by
    rw [List.append_assoc, ← hpart]
    exact h
  rw [hcs, lower_suffix_iff]
  rcases List.eq_nil_or_concat blanks with rfl | ⟨blanks, c, rfl⟩
  · rw [List.append_nil, ← show part = trim part from hpart]
  · have hlast : isBlank c = true := List.all_eq_true.1 hblanks c (by simp)
    have huncased : casedNext (rest ++ blanks.concat c).reverse = false := by
      rw [List.concat_eq_append, ← List.append_assoc, List.reverse_append]
      exact casedNext_cons_blank hlast _
    have hsettled : startsWithSigma part = false := by
      cases blanks with
      | nil =>
        rw [hpart]
        exact startsWithSigma_cons_blank hlast _
      | cons d blanks =>
        rw [hpart]
        exact startsWithSigma_cons_blank (List.all_eq_true.1 hblanks d (by simp)) _
    rw [huncased]
    simp [hsettled]

/-! ## The middle of a text -/

theorem lower_infix (hend : ¬ (endsInSigma part = true ∧ casedNext after = true))
    (hstart : ¬ (startsWithSigma part = true ∧ casedNext before.reverse = true)) :
    lower part <:+: lower (before ++ (part ++ after)) := by
  have hpart := lowerWithin_eq_lower hend hstart
  refine ⟨lowerWithin [] before (part ++ after), lowerFrom (part.reverse ++ before.reverse) after,
    ?_⟩
  rw [lower.eq_1 (before ++ _), lowerFrom_append, lowerFrom_append, List.append_nil, hpart,
    List.append_assoc]

/-- Whatever a text starts or ends with, some cased letter is something else. -/
theorem exists_cased_ne (o : Option Char) : ∃ c : Char, c.toNat < 0x80 ∧ c.toLower = c ∧
    (∀ cs, casedNext (c :: cs) = true) ∧ o ≠ some c := by
  have hcased : ∀ c, isCaseIgnorable c = false → isCased c = true →
      ∀ cs, casedNext (c :: cs) = true := by
    intro c hcounts hc cs
    simp [casedNext, hcounts, hc]
  have ha : isCaseIgnorable 'a' = false := by decide +kernel
  have hb : isCaseIgnorable 'b' = false := by decide +kernel
  by_cases ho : o = some 'a'
  · exact ⟨'b', by decide, by decide, hcased 'b' hb (by decide), by rw [ho]; decide⟩
  · exact ⟨'a', by decide, by decide, hcased 'a' ha (by decide), ho⟩

/-- One character longer, a text could only hold the part at its start or at its end. -/
theorem not_infix_concat {xs ys : List Char} {c : Char} (hlength : ys.length = xs.length)
    (hne : ys ≠ xs) (hlast : xs.getLast? ≠ some c) : ¬ xs <:+: ys ++ [c] := by
  intro hfound
  rw [List.infix_concat_iff] at hfound
  rcases hfound with hsuffix | hfound
  · rcases List.suffix_concat_iff.1 hsuffix with rfl | ⟨init, hxs, _⟩
    · exact hne (List.eq_nil_of_length_eq_zero hlength)
    · exact hlast (by rw [hxs]; simp)
  · exact hne (hfound.eq_of_length hlength.symm).symm

theorem not_infix_cons {xs ys : List Char} {c : Char} (hlength : ys.length = xs.length)
    (hne : ys ≠ xs) (hfirst : xs.head? ≠ some c) : ¬ xs <:+: c :: ys := by
  rw [← List.reverse_infix, List.reverse_cons]
  refine not_infix_concat ?_ (fun h => hne (List.reverse_inj.1 h)) ?_
  · rw [List.length_reverse, List.length_reverse, hlength]
  · rwa [List.getLast?_reverse]

/-- A part that ends in an open sigma is missed in some text that starts with it. -/
theorem exists_missed_of_endsInSigma (h : endsInSigma part = true) :
    ∃ c, ¬ lower part <:+: lower (part ++ [c]) := by
  obtain ⟨c, hascii, hlower, hcased, hother⟩ := exists_cased_ne (lower part).getLast?
  have hnothing : casedNext [] = false := rfl
  have hchanged : lowerWithin [] part [c] ≠ lower part := fun heq =>
    (lowerWithin_eq_lower_iff_after hnothing).1 heq ⟨h, hcased []⟩
  have hsplit : lower (part ++ [c]) = lowerWithin [] part [c] ++ [c] := by
    rw [lower, lowerFrom_append, lowerFrom_of_ascii (by simpa using hascii), List.map_singleton,
      hlower]
  refine ⟨c, ?_⟩
  rw [hsplit]
  exact not_infix_concat (length_lowerWithin [] part [c]) hchanged hother

/-- A part that starts with an open sigma is missed in some text that ends in it. -/
theorem exists_missed_of_startsWithSigma (h : startsWithSigma part = true) :
    ∃ c, ¬ lower part <:+: lower (c :: part) := by
  obtain ⟨c, hascii, hlower, hcased, hother⟩ := exists_cased_ne (lower part).head?
  have hnothing : casedNext [] = false := rfl
  have hchanged : lowerWithin [c] part [] ≠ lower part := fun heq =>
    (lowerWithin_eq_lower_iff_before hnothing).1 heq ⟨h, hcased []⟩
  have hsigma : c ≠ 'Σ' := by
    rintro rfl
    exact absurd hascii (by decide)
  have hsplit : lower (c :: part) = c :: lowerWithin [c] part [] := by
    rw [lower, lowerFrom, if_neg hsigma, lowerChar, if_pos hascii, hlower,
      lowerFrom_eq_lowerWithin]
    rfl
  refine ⟨c, ?_⟩
  rw [hsplit]
  exact not_infix_cons (length_lowerWithin [c] part []) hchanged hother

end Text

/-! ## The text operators -/

namespace Operator

open Text

theorem contains_text_iff {t s : String} : contains.holds (.text t) s = true ↔
    lower s.toList <:+: lower t.toList :=
  occursIn_iff

theorem startsWith_text_iff {t s : String} : startsWith.holds (.text t) s = true ↔
    lower s.toList <+: lower (trim t.toList) :=
  List.isPrefixOf_iff_prefix

theorem endsWith_text_iff {t s : String} : endsWith.holds (.text t) s = true ↔
    lower (trim s.toList) <:+ lower (trim t.toList) :=
  List.isSuffixOf_iff_suffix

/-- An operand is found in every text that it is a part of exactly when it leaves no sigma open. -/
theorem contains_literal_iff (s : String) :
    (∀ t : String, s.toList <:+: t.toList → contains.holds (.text t) s = true) ↔
      endsInSigma s.toList = false ∧ startsWithSigma s.toList = false := by
  constructor
  · intro hfound
    -- a text that misses an open sigma is one letter longer than the operand
    have hlonger : ∀ cs, s.toList <:+: cs → lower s.toList <:+: lower cs := by
      intro cs hpart
      have hcontains := hfound (String.ofList cs) (by rwa [String.toList_ofList])
      rwa [contains_text_iff, String.toList_ofList] at hcontains
    constructor
    · by_contra hend
      obtain ⟨c, hmissed⟩ := exists_missed_of_endsInSigma (Bool.not_eq_false _ ▸ hend)
      exact hmissed (hlonger _ (List.prefix_append _ _).isInfix)
    · by_contra hstart
      obtain ⟨c, hmissed⟩ := exists_missed_of_startsWithSigma (Bool.not_eq_false _ ▸ hstart)
      exact hmissed (hlonger _ (List.suffix_cons _ _).isInfix)
  · rintro ⟨hend, hstart⟩ t ⟨before, after, ht⟩
    rw [contains_text_iff, ← ht, List.append_assoc]
    exact lower_infix (by simp [hend]) (by simp [hstart])

/-- What the text operators find of what stands in a text literally. An operand inside the text is
found unless an open sigma at one of its ends meets a cased character there, and in every text
exactly when it leaves no sigma open; at the start of the trimmed text it is found unless it ends in
an open sigma and the word goes on; at the end, unless it starts with an open sigma and the word has
begun before. -/
theorem finds_literal (s : String) :
    (∀ (t : String) (before after : List Char), t.toList = before ++ (s.toList ++ after) →
      ¬ (endsInSigma s.toList = true ∧ casedNext after = true) →
      ¬ (startsWithSigma s.toList = true ∧ casedNext before.reverse = true) →
        contains.holds (.text t) s = true) ∧
    ((∀ t : String, s.toList <:+: t.toList → contains.holds (.text t) s = true) ↔
      endsInSigma s.toList = false ∧ startsWithSigma s.toList = false) ∧
    (∀ (t : String) (rest : List Char), trim t.toList = s.toList ++ rest →
      (startsWith.holds (.text t) s = true ↔
        ¬ (endsInSigma s.toList = true ∧ casedNext rest = true))) ∧
    ∀ (t : String) (rest : List Char), trim t.toList = rest ++ s.toList →
      (endsWith.holds (.text t) s = true ↔
        ¬ (startsWithSigma s.toList = true ∧ casedNext rest.reverse = true)) := by
  refine ⟨fun t before after ht hend hstart => ?_, contains_literal_iff s, fun t rest ht => ?_,
    fun t rest ht => ?_⟩
  · rw [contains_text_iff, ht]
    exact lower_infix hend hstart
  · rw [startsWith_text_iff, ht]
    exact lower_prefix_iff
  · rw [endsWith_text_iff]
    exact lower_trim_suffix_iff ht

/-- A name in capitals, with sigmas inside and at its end: a part that ends where the name does is
found, and so is every end, but a start only up to a letter that is no sigma. -/
theorem finds_literal_capitals :
    contains.holds (.text " ΟΔΥΣΣΕΥΣ ") "ΣΕΥΣ" = true ∧
      startsWith.holds (.text " ΟΔΥΣΣΕΥΣ ") "ΟΔΥ" = true ∧
      startsWith.holds (.text " ΟΔΥΣΣΕΥΣ ") "ΟΔΥΣ" = false ∧
      endsWith.holds (.text " ΟΔΥΣΣΕΥΣ ") "ΣΕΥΣ" = true := by
  obtain ⟨hpart, _, _, hend⟩ := finds_literal "ΣΕΥΣ"
  obtain ⟨_, _, hstart, _⟩ := finds_literal "ΟΔΥ"
  obtain ⟨_, _, hopen, _⟩ := finds_literal "ΟΔΥΣ"
  refine ⟨?_, ?_, ?_, ?_⟩
  · exact hpart " ΟΔΥΣΣΕΥΣ " " ΟΔΥΣ".toList " ".toList (by decide +kernel) (by decide +kernel)
      (by decide +kernel)
  · exact (hstart " ΟΔΥΣΣΕΥΣ " "ΣΣΕΥΣ".toList (by decide +kernel)).2 (by decide +kernel)
  · rw [← Bool.not_eq_true, hopen " ΟΔΥΣΣΕΥΣ " "ΣΕΥΣ".toList (by decide +kernel)]
    decide +kernel
  · exact (hend " ΟΔΥΣΣΕΥΣ " "ΟΔΥΣ".toList (by decide +kernel)).2 (by decide +kernel)

/-- Inside a word a capital sigma is not final, and alone in an operand it is never final, so a
start, a part and an end of one text are all missed. -/
theorem misses_literal_sigma :
    "ΑΣ".toList <:+: "ΑΣΒΣ".toList ∧ contains.holds (.text "ΑΣΒΣ") "ΑΣ" = false ∧
      "ΑΣ".toList <+: trim "ΑΣΒΣ".toList ∧ startsWith.holds (.text "ΑΣΒΣ") "ΑΣ" = false ∧
      "Σ".toList <:+ trim "ΑΣΒΣ".toList ∧ endsWith.holds (.text "ΑΣΒΣ") "Σ" = false := by
  decide +kernel

end Operator

end Tabular
