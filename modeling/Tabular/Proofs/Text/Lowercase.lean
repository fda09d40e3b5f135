/-
Lowercasing a part of a text. All characters but the capital sigma are lowercased by themselves, and
its two forms are one character long; so a part is lowercased in its text as it is alone, place by
place, except for a capital sigma whose form the part leaves open. Only the first or the last
character of the part that counts can be one: the first when no cased character follows it, the last
when one comes before it.
-/
import Mathlib.Data.List.Basic
import Tabular.Proofs.Text.Blank
import Tabular.Text.Lowercase

namespace Tabular.Text

variable {cs before after before' after' : List Char}

/-! ## The next character that counts -/

/-- What follows a part decides only when nothing in the part counts. -/
theorem casedNext_append (cs more : List Char) :
    casedNext (cs ++ more) = if cs.all isCaseIgnorable then casedNext more else casedNext cs := by
  induction cs with
  | nil => rfl
  | cons c cs ih =>
    unfold casedNext at ih ⊢
    cases hc : isCaseIgnorable c with
    | true => simpa [hc] using ih
    | false => simp [hc]

theorem casedNext_of_all (h : cs.all isCaseIgnorable = true) : casedNext cs = false := by
  have happend := casedNext_append cs []
  rwa [List.append_nil, if_pos h] at happend

/-- What has no cased character next makes no difference to a part before it. -/
theorem casedNext_append_of_eq_false (h : casedNext after = false) (cs : List Char) :
    casedNext (cs ++ after) = casedNext cs := by
  rw [casedNext_append, h]
  split
  · rename_i hall
    exact (casedNext_of_all hall).symm
  · rfl

/-! ## Parts of a text -/

/-- Lowercases a part of a text that stands between `before`, the nearest character first, and
`after`. -/
def lowerWithin (before : List Char) : List Char → List Char → List Char
  | [], _ => []
  | c :: cs, after =>
    (if c = 'Σ' then [lowerSigma before (cs ++ after)] else lowerChar c) ++
      lowerWithin (c :: before) cs after

theorem lowerFrom_append (before cs after : List Char) :
    lowerFrom before (cs ++ after) =
      lowerWithin before cs after ++ lowerFrom (cs.reverse ++ before) after := by
  induction cs generalizing before with
  | nil => rfl
  | cons c cs ih => simp [lowerFrom, lowerWithin, ih]

theorem lowerFrom_eq_lowerWithin (before cs : List Char) :
    lowerFrom before cs = lowerWithin before cs [] := by
  have happend := lowerFrom_append before cs []
  rwa [List.append_nil, lowerFrom, List.append_nil] at happend

theorem lower_eq_lowerWithin (cs : List Char) : lower cs = lowerWithin [] cs [] :=
  lowerFrom_eq_lowerWithin [] cs

/-- The length of a lowercased part is that of the part alone. -/
theorem length_lowerWithin (before cs after : List Char) :
    (lowerWithin before cs after).length = (lower cs).length := by
  have hany : ∀ before', (lowerWithin before cs after).length =
      (lowerWithin before' cs []).length := by
    induction cs generalizing before with
    | nil => exact fun _ => rfl
    | cons c cs ih =>
      intro before'
      rw [lowerWithin, lowerWithin, List.length_append, List.length_append,
        ih (c :: before) (c :: before')]
      split <;> rfl
  rw [lower_eq_lowerWithin, hany []]

/-- Two surroundings lowercase a part alike when they give each of its capital sigmas one form. -/
theorem lowerWithin_eq_iff : lowerWithin before cs after = lowerWithin before' cs after' ↔
    ∀ l r, cs = l ++ 'Σ' :: r →
      lowerSigma (l.reverse ++ before) (r ++ after) =
        lowerSigma (l.reverse ++ before') (r ++ after') := by
  induction cs generalizing before before' with
  | nil => simp [lowerWithin]
  | cons c cs ih =>
    have hlength : (if c = 'Σ' then [lowerSigma before (cs ++ after)] else lowerChar c).length =
        (if c = 'Σ' then [lowerSigma before' (cs ++ after')] else lowerChar c).length := by
      split <;> rfl
    have hhead : (if c = 'Σ' then [lowerSigma before (cs ++ after)] else lowerChar c) =
          (if c = 'Σ' then [lowerSigma before' (cs ++ after')] else lowerChar c) ↔
        (c = 'Σ' → lowerSigma before (cs ++ after) = lowerSigma before' (cs ++ after')) := by
      split <;> simp_all
    rw [lowerWithin, lowerWithin]
    constructor
    · -- a sigma is the first character or one of the others
      intro heq l r h
      obtain ⟨hfirst, hothers⟩ := List.append_inj heq hlength
      rw [hhead] at hfirst
      rw [ih] at hothers
      cases l with
      | nil =>
        cases h
        exact hfirst rfl
      | cons d l =>
        cases h
        simpa using hothers l r rfl
    · intro h
      have hfirst := hhead.2 fun hc => h [] cs (by rw [hc]; rfl)
      have hothers := (@ih (c :: before) (c :: before')).2 fun l r hcs => by
        simpa using h (c :: l) r (by rw [hcs]; rfl)
      rw [hfirst, hothers]

/-! ## Open sigmas -/

/-- Whether the first character that counts is a capital sigma with no cased character after it: it
ends a word as soon as a cased character comes before it. -/
def startsWithSigma (cs : List Char) : Bool :=
  match cs.dropWhile isCaseIgnorable with
  | 'Σ' :: rest => !casedNext rest
  | _ => false

/-- Whether the last character that counts is a capital sigma with a cased character before it: it
ends a word unless a cased character comes after it. -/
def endsInSigma (cs : List Char) : Bool :=
  match cs.reverse.dropWhile isCaseIgnorable with
  | 'Σ' :: rest => casedNext rest
  | _ => false

theorem dropWhile_eq_sigma_iff {rest : List Char} :
    cs.dropWhile isCaseIgnorable = 'Σ' :: rest ↔
      ∃ l, cs = l ++ 'Σ' :: rest ∧ l.all isCaseIgnorable = true := by
  constructor
  · intro h
    exact ⟨cs.takeWhile isCaseIgnorable, by rw [← h, List.takeWhile_append_dropWhile],
      List.all_takeWhile⟩
  · rintro ⟨l, rfl, hl⟩
    have hsigma : isCaseIgnorable 'Σ' = false := by decide +kernel
    rw [List.dropWhile_append_of_pos (List.all_eq_true.1 hl), List.dropWhile_cons, hsigma]
    rfl

theorem startsWithSigma_iff : startsWithSigma cs = true ↔
    ∃ l r, cs = l ++ 'Σ' :: r ∧ l.all isCaseIgnorable = true ∧ casedNext r = false := by
  constructor
  · intro h
    unfold startsWithSigma at h
    split at h
    · rename_i rest hrest
      obtain ⟨l, hcs, hl⟩ := dropWhile_eq_sigma_iff.1 hrest
      exact ⟨l, rest, hcs, hl, by simpa using h⟩
    · cases h
  · rintro ⟨l, r, hcs, hl, hr⟩
    rw [startsWithSigma, dropWhile_eq_sigma_iff.2 ⟨l, hcs, hl⟩]
    simp [hr]

theorem endsInSigma_iff : endsInSigma cs = true ↔
    ∃ l r, cs = l ++ 'Σ' :: r ∧ casedNext l.reverse = true ∧ r.all isCaseIgnorable = true := by
  constructor
  · intro h
    unfold endsInSigma at h
    split at h
    · rename_i rest hrest
      obtain ⟨r, hcs, hr⟩ := dropWhile_eq_sigma_iff.1 hrest
      refine ⟨rest.reverse, r.reverse, ?_, by rwa [List.reverse_reverse], by rwa [List.all_reverse]⟩
      rw [← List.reverse_reverse cs, hcs]
      simp
    · cases h
  · rintro ⟨l, r, rfl, hl, hr⟩
    have hrest : (l ++ 'Σ' :: r).reverse.dropWhile isCaseIgnorable = 'Σ' :: l.reverse :=
      dropWhile_eq_sigma_iff.2 ⟨r.reverse, by simp, by rwa [List.all_reverse]⟩
    rw [endsInSigma, hrest]
    exact hl

theorem lowerSigma_eq_iff : lowerSigma before after = lowerSigma before' after' ↔
    (casedNext before && !casedNext after) = (casedNext before' && !casedNext after') := by
  have hforms : 'ς' ≠ 'σ' := by decide
  unfold lowerSigma
  cases casedNext before && !casedNext after <;>
    cases casedNext before' && !casedNext after' <;> simp [hforms, hforms.symm]

/-- A part is lowercased as it is alone unless an open sigma at one of its ends meets a cased
character there. -/
theorem lowerWithin_eq_lower (hend : ¬ (endsInSigma cs = true ∧ casedNext after = true))
    (hstart : ¬ (startsWithSigma cs = true ∧ casedNext before = true)) :
    lowerWithin before cs after = lower cs := by
  rw [lower_eq_lowerWithin, lowerWithin_eq_iff]
  intro l r hcs
  -- the surroundings matter on a side where nothing in the part counts, and there the sigma is open
  have hafter : casedNext l.reverse = true → r.all isCaseIgnorable = true →
      casedNext after = false := fun hl hr =>
    eq_false_of_ne_true fun h => hend ⟨endsInSigma_iff.2 ⟨l, r, hcs, hl, hr⟩, h⟩
  have hbefore : l.all isCaseIgnorable = true → casedNext r = false →
      casedNext before = false := fun hl hr =>
    eq_false_of_ne_true fun h => hstart ⟨startsWithSigma_iff.2 ⟨l, r, hcs, hl, hr⟩, h⟩
  have hl : l.all isCaseIgnorable = true → casedNext l.reverse = false := fun h =>
    casedNext_of_all (by rwa [List.all_reverse])
  have hr : r.all isCaseIgnorable = true → casedNext r = false := casedNext_of_all
  rw [lowerSigma_eq_iff, casedNext_append, casedNext_append, List.append_nil, List.append_nil,
    List.all_reverse]
  generalize l.all isCaseIgnorable = openBefore at hbefore hl ⊢
  generalize r.all isCaseIgnorable = openAfter at hafter hr ⊢
  generalize casedNext r = casedAfter at hbefore hr ⊢
  cases openBefore <;> cases openAfter <;> cases casedAfter <;> simp_all

/-- With nothing cased before it, a part is lowercased as it is alone exactly when it does not end in
an open sigma that meets a cased character. -/
theorem lowerWithin_eq_lower_iff_after (hbefore : casedNext before = false) :
    lowerWithin before cs after = lower cs ↔
      ¬ (endsInSigma cs = true ∧ casedNext after = true) := by
  constructor
  · rintro h ⟨hend, hafter⟩
    obtain ⟨l, r, hcs, hl, hr⟩ := endsInSigma_iff.1 hend
    rw [lower_eq_lowerWithin, lowerWithin_eq_iff] at h
    have hforms := lowerSigma_eq_iff.1 (h l r hcs)
    rw [casedNext_append_of_eq_false hbefore, casedNext_append, if_pos hr, List.append_nil,
      List.append_nil, hl, hafter, casedNext_of_all hr] at hforms
    cases hforms
  · exact fun hend => lowerWithin_eq_lower hend (by simp [hbefore])

/-- With nothing cased after it, a part is lowercased as it is alone exactly when it does not start
with an open sigma that meets a cased character. -/
theorem lowerWithin_eq_lower_iff_before (hafter : casedNext after = false) :
    lowerWithin before cs after = lower cs ↔
      ¬ (startsWithSigma cs = true ∧ casedNext before = true) := by
  constructor
  · rintro h ⟨hstart, hbefore⟩
    obtain ⟨l, r, hcs, hl, hr⟩ := startsWithSigma_iff.1 hstart
    rw [← List.all_reverse] at hl
    rw [lower_eq_lowerWithin, lowerWithin_eq_iff] at h
    have hforms := lowerSigma_eq_iff.1 (h l r hcs)
    rw [casedNext_append_of_eq_false hafter, casedNext_append, if_pos hl, List.append_nil,
      List.append_nil, hr, hbefore, casedNext_of_all hl] at hforms
    cases hforms
  · exact fun hstart => lowerWithin_eq_lower (by simp [hafter]) hstart

/-! ## Blanks -/

/-- Whether two lists of ranges are disjoint, range by range. -/
def disjointRanges (ranges others : List (Nat × Nat)) : Bool :=
  ranges.all fun r => others.all fun q => r.2 < q.1 || q.2 < r.1

theorem inRanges_eq_false_of_disjoint {ranges others : List (Nat × Nat)}
    (h : disjointRanges ranges others = true) {n : Nat} (hn : inRanges others n = true) :
    inRanges ranges n = false := by
  simp only [inRanges, List.any_eq_true, Bool.and_eq_true, decide_eq_true_eq] at hn
  obtain ⟨q, hq, hlow, hhigh⟩ := hn
  rw [inRanges, List.any_eq_false]
  intro r hr
  have hdisjoint := List.all_eq_true.1 (List.all_eq_true.1 h r hr) q hq
  simp only [Bool.and_eq_true, Bool.or_eq_true, decide_eq_true_eq, not_and] at hdisjoint ⊢
  omega

theorem isCaseIgnorable_of_isBlank {c : Char} (h : isBlank c = true) : isCaseIgnorable c = false :=
  have hblank : inRanges blankRanges c.toNat = true := h
  inRanges_eq_false_of_disjoint (by decide +kernel) hblank

theorem isCased_of_isBlank {c : Char} (h : isBlank c = true) : isCased c = false := by
  have hblank : inRanges blankRanges c.toNat = true := h
  have hletter : ∀ n < 0x80, isBlank (Char.ofNat n) = true → (Char.ofNat n).isAlpha = false := by
    decide
  unfold isCased
  split
  · rename_i hascii
    rw [← Char.ofNat_toNat c] at h ⊢
    exact hletter _ hascii h
  · exact inRanges_eq_false_of_disjoint (by decide +kernel) hblank

/-- A blank counts, and it is neither cased nor a sigma. -/
theorem casedNext_cons_blank {c : Char} (h : isBlank c = true) (cs : List Char) :
    casedNext (c :: cs) = false := by
  simp [casedNext, isCaseIgnorable_of_isBlank h, isCased_of_isBlank h]

theorem startsWithSigma_cons_blank {c : Char} (h : isBlank c = true) (cs : List Char) :
    startsWithSigma (c :: cs) = false := by
  have hsigma : isBlank 'Σ' = false := by decide
  rw [startsWithSigma, List.dropWhile_cons, isCaseIgnorable_of_isBlank h, if_neg Bool.false_ne_true]
  split
  · rename_i heq
    cases heq
    rw [hsigma] at h
    cases h
  · rfl

end Tabular.Text
