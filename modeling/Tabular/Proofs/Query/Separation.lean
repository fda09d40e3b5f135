/-
The token lists that texts have. Between two brackets or set operators stands at most one selector
text. It is trimmed, nothing outside its quotes would end it, and its quotes are closed unless it
comes last. Every such list whose brackets balance is the tokens of some text, and then of its own
texts side by side. Both ways, a selector text reads its quotes as it does on its own: before it
stands a token, which is no backslash, and the blanks that trimming takes off are neither quotes
nor backslashes.
-/
import Mathlib.Data.List.Chain
import Tabular.Proofs.Query.Brackets

namespace Tabular.Token

/-! ## Quotes across a join -/

section

variable {quote previous previous' : Option Char} {cs ds : List Char}

theorem openQuote_congr (h : previous' = some '\\' ↔ previous = some '\\') :
    openQuote quote previous' cs = openQuote quote previous cs := by
  cases cs with
  | nil => rfl
  | cons c cs => rw [openQuote, openQuote, quoteAfter_congr h]

theorem marks_congr (h : previous' = some '\\' ↔ previous = some '\\') :
    marks quote previous' cs = marks quote previous cs := by
  cases cs with
  | nil => rfl
  | cons c cs =>
    unfold marks
    rw [outside, outside, quoteAfter_congr h]

theorem getLast?_cons_or (c : Char) (cs : List Char) :
    (c :: cs).getLast?.or previous = cs.getLast?.or (some c) := by
  rw [List.getLast?_cons]
  cases cs.getLast? <;> rfl

theorem openQuote_append : openQuote quote previous (cs ++ ds) =
    openQuote (openQuote quote previous cs) (cs.getLast?.or previous) ds := by
  induction cs generalizing quote previous with
  | nil => rfl
  | cons c cs ih => rw [List.cons_append, openQuote, openQuote, ih, getLast?_cons_or]

theorem outside_append : outside quote previous (cs ++ ds) = outside quote previous cs ++
    outside (openQuote quote previous cs) (cs.getLast?.or previous) ds := by
  induction cs generalizing quote previous with
  | nil => rfl
  | cons c cs ih =>
    rw [List.cons_append, outside, outside, openQuote, ih, getLast?_cons_or, List.append_assoc]

theorem marks_append : marks quote previous (cs ++ ds) = marks quote previous cs ++
    marks (openQuote quote previous cs) (cs.getLast?.or previous) ds := by
  unfold marks
  rw [outside_append, List.filterMap_append]

theorem openQuote_plain (h : cs.all isPlain = true) : openQuote quote previous cs = quote := by
  induction cs generalizing previous with
  | nil => rfl
  | cons c cs ih =>
    rw [List.all_cons, Bool.and_eq_true] at h
    rw [openQuote, quoteAfter_of_not_mark (isPlain_iff.1 h.1).2.1, ih h.2]

theorem marks_plain (h : cs.all isPlain = true) : marks quote previous cs = [] := by
  induction cs generalizing previous with
  | nil => rfl
  | cons c cs ih =>
    rw [List.all_cons, Bool.and_eq_true] at h
    obtain ⟨hs, hq, _⟩ := isPlain_iff.1 h.1
    have hne : ∀ t : Token String, quote = none → structural? c ≠ some t := by
      rintro t - ht
      rw [hs] at ht
      cases ht
    rw [marks_cons_of_ne hne, quoteAfter_of_not_mark hq, ih h.2]

/-- Trimming changes neither the quotes of a text nor what stands outside them. -/
theorem trim_quotes (cs : List Char) : openQuote none none (Text.trim cs) = openQuote none none cs ∧
    marks none none (Text.trim cs) = marks none none cs := by
  obtain ⟨before, after, hcs, hbefore, hafter⟩ := Text.exists_trim cs
  have hbefore := all_isPlain_of_blank hbefore
  have hafter := all_isPlain_of_blank hafter
  -- the blank before the trimmed text does not escape a quote at its start
  have hprevious : before.getLast?.or none = some '\\' ↔ (none : Option Char) = some '\\' := by
    refine iff_of_false (fun hlast => ?_) nofun
    rw [Option.or_none] at hlast
    have hplain := List.all_eq_true.1 hbefore '\\' (List.mem_of_getLast? hlast)
    exact (isPlain_iff.1 hplain).2.2 rfl
  constructor
  · conv_rhs => rw [hcs]
    rw [openQuote_append, openQuote_append, openQuote_plain hbefore, openQuote_plain hafter,
      openQuote_congr hprevious]
  · conv_rhs => rw [hcs]
    rw [marks_append, marks_append, marks_plain hbefore, marks_plain hafter,
      openQuote_plain hbefore, marks_congr hprevious, List.nil_append, List.append_nil]

end

/-! ## Separable tokens -/

def spelling : Token String → List Char
  | .operand s => s.toList
  | .operator op => [op.toChar]
  | .opening => ['(']
  | .closing => [')']

/-- The texts of tokens side by side. -/
def spelled (ts : List (Token String)) : String :=
  String.ofList (ts.flatMap spelling)

/-- A text that is one selector: there is something in it, no blanks at its ends and no bracket or
set operator outside its quotes. -/
structure Whole (s : String) : Prop where
  ne_empty : s ≠ ""
  trimmed : Text.trimmed s = s
  uncut : ∀ c ∈ outside none none s.toList, c ∉ ['(', ')', '+', '-', ',']

/-- Tokens that do not run into each other: no two selectors stand side by side, and only the last
token may leave a quote open. -/
structure Chunked (ts : List (Token String)) : Prop where
  apart : ts.IsChain fun t u => t.operand? = none ∨ u.operand? = none
  whole : ∀ s, .operand s ∈ ts → Whole s
  closed : ∀ s, .operand s ∈ ts.dropLast → openQuote none none s.toList = none

/-- Tokens that do not run into each other and whose brackets balance. -/
structure Separable (ts : List (Token String)) : Prop extends Chunked ts where
  nested : ∀ us, us <+: ts → us.count .closing ≤ us.count .opening
  balanced : ts.count .closing = ts.count .opening

theorem structural?_eq_none_iff {c : Char} :
    structural? (α := String) c = none ↔ c ∉ ['(', ')', '+', '-', ','] := by
  unfold structural? SetOperator.ofChar?
  constructor
  · intro h
    simp only [List.mem_cons, List.not_mem_nil, or_false]
    rintro (rfl | rfl | rfl | rfl | rfl) <;> cases h
  · intro h
    simp only [List.mem_cons, List.not_mem_nil, or_false, not_or] at h
    obtain ⟨ho, hc, hi, hd, hu⟩ := h
    rw [if_neg ho, if_neg hc, if_neg hi, if_neg hd, if_neg hu]
    rfl

theorem marks_eq_nil_iff {quote previous : Option Char} {cs : List Char} :
    marks quote previous cs = [] ↔
      ∀ c ∈ outside quote previous cs, c ∉ ['(', ')', '+', '-', ','] := by
  unfold marks
  simp only [List.filterMap_eq_nil_iff, structural?_eq_none_iff]

theorem separable_iff {ts : List (Token String)} :
    Separable ts ↔ Chunked ts ∧ Balanced ts := by
  rw [Balanced, depth?_eq_some_iff]
  simp only [Nat.zero_add]
  constructor
  · intro h
    exact ⟨h.toChunked, h.nested, h.balanced.symm⟩
  · rintro ⟨hchunked, hnested, hbalanced⟩
    exact ⟨hchunked, hnested, hbalanced.symm⟩

section

variable {t : Token String} {ts : List (Token String)} {s : String}

theorem exists_structural (ht : t.operand? = none) :
    ∃ c, spelling t = [c] ∧ structural? c = some t := by
  cases t with
  | operand s => cases ht
  | operator op =>
    refine ⟨op.toChar, rfl, ?_⟩
    cases op <;> rfl
  | opening => exact ⟨'(', rfl, rfl⟩
  | closing => exact ⟨')', rfl, rfl⟩

theorem operand?_of_structural {c : Char} (h : structural? c = some t) : t.operand? = none := by
  unfold structural? at h
  split at h
  · cases h
    rfl
  · split at h
    · cases h
      rfl
    · obtain ⟨op, _, rfl⟩ := Option.map_eq_some_iff.1 h
      rfl

theorem ne_backslash_of_structural {c : Char} (h : structural? c = some t) : c ≠ '\\' := by
  rintro rfl
  cases h

theorem chunked_nil : Chunked [] :=
  ⟨.nil, nofun, nofun⟩

theorem Whole.chunked (hs : Whole s) : Chunked [.operand s] := by
  refine ⟨.singleton _, fun s' hs' => ?_, nofun⟩
  cases List.mem_singleton.1 hs'
  exact hs

theorem mem_dropLast_cons {u : Token String} (h : u ∈ ts.dropLast) : u ∈ (t :: ts).dropLast := by
  rw [List.dropLast_cons_of_ne_nil (by rintro rfl; cases h)]
  exact List.mem_cons_of_mem t h

theorem Chunked.tail (h : Chunked (t :: ts)) : Chunked ts :=
  ⟨h.apart.tail, fun s hs => h.whole s (List.mem_cons_of_mem t hs),
    fun s hs => h.closed s (mem_dropLast_cons hs)⟩

theorem Chunked.cons (h : Chunked ts) (ht : t.operand? = none) : Chunked (t :: ts) := by
  have hne : ∀ s, .operand s ≠ t := by
    rintro s rfl
    cases ht
  refine ⟨List.isChain_cons.2 ⟨fun _ _ => .inl ht, h.apart⟩, fun s hs => ?_, fun s hs => ?_⟩
  · exact h.whole s ((List.mem_cons.1 hs).resolve_left (hne s))
  · cases ts with
    | nil => cases hs
    | cons u us => exact h.closed s ((List.mem_cons.1 hs).resolve_left (hne s))

theorem Chunked.cons_operand (h : Chunked (t :: ts)) (ht : t.operand? = none) (hs : Whole s)
    (hclosed : openQuote none none s.toList = none) : Chunked (.operand s :: t :: ts) := by
  refine ⟨List.isChain_cons_cons.2 ⟨.inr ht, h.apart⟩, ?_, ?_⟩
  · intro s' hs'
    rcases List.mem_cons.1 hs' with heq | hs'
    · cases heq
      exact hs
    · exact h.whole s' hs'
  · intro s' hs'
    rcases List.mem_cons.1 hs' with heq | hs'
    · cases heq
      exact hclosed
    · exact h.closed s' hs'

end

/-! ## The tokens of a text are separable -/

/-- Collected text gives at most one selector, which reads its quotes as the collected text does. -/
theorem chunk_cases {collected : List Char} (h : marks none none collected.reverse = []) :
    chunk collected = [] ∨ ∃ s, chunk collected = [.operand s] ∧ Whole s ∧
      openQuote none none s.toList = openQuote none none collected.reverse := by
  obtain ⟨hquote, hmarks⟩ := trim_quotes collected.reverse
  unfold chunk
  dsimp only
  split
  · exact .inl rfl
  · rename_i hempty
    refine .inr ⟨_, rfl, ⟨?_, ?_, ?_⟩, ?_⟩
    · rintro hs
      rw [← String.toList_inj, String.toList_ofList] at hs
      exact hempty (List.isEmpty_iff.2 hs)
    · rw [Text.trimmed, String.toList_ofList, Text.trim_trim]
    · rw [String.toList_ofList, ← marks_eq_nil_iff, hmarks, h]
    · rw [String.toList_ofList, hquote]

theorem Chunked.chunk_append {collected : List Char} {t : Token String} {ts : List (Token String)}
    (h : Chunked ts) (ht : t.operand? = none) (hmarks : marks none none collected.reverse = [])
    (hquote : openQuote none none collected.reverse = none) :
    Chunked (chunk collected ++ t :: ts) := by
  rcases chunk_cases hmarks with hchunk | ⟨s, hchunk, hs, hopen⟩
  · rw [hchunk]
    exact h.cons ht
  · rw [hchunk]
    exact (h.cons ht).cons_operand ht hs (hopen.trans hquote)

/-- The tokens of a text do not run into each other. The invariant of scanning is that the collected
text has nothing outside its quotes that would end it, and the open quote is its own. -/
theorem chunked_of_scan {quote previous : Option Char} {depth : Nat} {collected cs : List Char}
    {ts : List (Token String)} (h : scan quote previous depth collected cs = .ok ts)
    (hmarks : marks none none collected.reverse = [])
    (hquote : openQuote none none collected.reverse = quote)
    (hprevious : collected.head? = some '\\' ↔ previous = some '\\') : Chunked ts := by
  have hstart : ∀ {c : Char} {t : Token String}, structural? c = some t →
      (([] : List Char).head? = some '\\' ↔ some c = some '\\') := fun hc =>
    iff_of_false nofun fun heq => ne_backslash_of_structural hc (Option.some.inj heq)
  fun_induction scan quote previous depth collected cs generalizing ts with
  | case1 =>
    cases h
    rcases chunk_cases hmarks with hchunk | ⟨s, hchunk, hs, _⟩
    · rw [hchunk]
      exact chunked_nil
    · rw [hchunk]
      exact hs.chunked
  | case2 => cases h
  | case3 previous depth collected c cs hc ih =>
    obtain ⟨us, hus, rfl⟩ := map_eq_ok_iff.1 h
    exact (ih hus rfl rfl (hstart hc)).chunk_append rfl hmarks hquote
  | case4 => cases h
  | case5 previous depth collected c cs hc hd ih =>
    obtain ⟨us, hus, rfl⟩ := map_eq_ok_iff.1 h
    exact (ih hus rfl rfl (hstart hc)).chunk_append rfl hmarks hquote
  | case6 previous depth collected c cs t hopening hclosing hc ih =>
    obtain ⟨us, hus, rfl⟩ := map_eq_ok_iff.1 h
    exact (ih hus rfl rfl (hstart hc)).chunk_append (operand?_of_structural hc) hmarks hquote
  | case7 previous depth collected c cs quote hopening hclosing hc ih =>
    have hlast : collected.reverse.getLast?.or none = some '\\' ↔ previous = some '\\' := by
      rw [List.getLast?_reverse, Option.or_none, hprevious]
    refine ih h ?_ ?_ Iff.rfl
    · rw [List.reverse_cons, marks_append, hmarks, hquote, marks_cons_of_ne hc]
      rfl
    · rw [List.reverse_cons, openQuote_append, hquote, openQuote_congr hlast]
      rfl

theorem separable_of_tokenize {s : String} {ts : List (Token String)} (h : tokenize s = .ok ts) :
    Separable ts :=
  separable_iff.2 ⟨chunked_of_scan (mapError_eq_ok_iff.1 h) rfl rfl Iff.rfl, balanced_of_tokenize h⟩

/-! ## Separable tokens are those of their texts -/

/-- A text with nothing outside its quotes that would end it is collected as a whole. -/
theorem scan_uncut {quote previous : Option Char} {cs : List Char}
    (h : marks quote previous cs = []) (depth : Nat) (collected rest : List Char) :
    scan quote previous depth collected (cs ++ rest) =
      scan (openQuote quote previous cs) (cs.getLast?.or previous) depth (cs.reverse ++ collected)
        rest := by
  induction cs generalizing quote previous collected with
  | nil => rfl
  | cons c cs ih =>
    have hc : ∀ t : Token String, quote = none → structural? c ≠ some t := by
      rintro t rfl ht
      rw [marks_cons_of_structural ht] at h
      cases h
    rw [marks_cons_of_ne hc] at h
    rw [List.cons_append, scan.eq_5 _ _ _ _ _ _ (hc _) (hc _) hc, ih h, openQuote,
      getLast?_cons_or, List.reverse_cons, List.append_assoc, List.singleton_append]

/-- The text collected before a bracket or a set operator comes before everything else. -/
theorem scan_chunk {c : Char} {t : Token String} (hc : structural? c = some t)
    (previous previous' : Option Char) (depth : Nat) (collected cs : List Char) :
    scan none previous depth collected (c :: cs) =
      (scan none previous' depth [] (c :: cs)).map (chunk collected ++ ·) := by
  have hmap : ∀ (x : Except Bracket (List (Token String))) (u : Token String),
      (x.map fun us => chunk [] ++ u :: us).map (chunk collected ++ ·) =
        x.map fun us => chunk collected ++ u :: us := by
    intro x u
    cases x <;> rfl
  cases t with
  | operand => cases operand?_of_structural hc
  | opening => rw [scan.eq_2 _ _ _ _ _ hc, scan.eq_2 _ _ _ _ _ hc, hmap]
  | closing =>
    rw [scan.eq_3 _ _ _ _ _ hc, scan.eq_3 _ _ _ _ _ hc]
    split
    · rfl
    · rw [hmap]
  | operator op =>
    have hopening : .operator op ≠ (.opening : Token String) := by rintro ⟨⟩
    have hclosing : .operator op ≠ (.closing : Token String) := by rintro ⟨⟩
    rw [scan.eq_4 _ _ _ _ _ _ hopening hclosing hc, scan.eq_4 _ _ _ _ _ _ hopening hclosing hc,
      hmap]

theorem Whole.trim_eq {s : String} (hs : Whole s) : Text.trim s.toList = s.toList := by
  have htrimmed := congrArg String.toList hs.trimmed
  rwa [Text.trimmed, String.toList_ofList] at htrimmed

theorem Whole.chunk_eq {s : String} (hs : Whole s) :
    chunk (s.toList.reverse ++ []) = [.operand s] := by
  have hne : s.toList.isEmpty = false := by
    rw [List.isEmpty_eq_false_iff]
    exact fun hnil => hs.ne_empty (String.toList_inj.1 hnil)
  simp [chunk, hs.trim_eq, hne]

/-- Tokens that do not run into each other and whose brackets balance are read off their texts, one
after the other. -/
theorem Chunked.scan_eq {ts : List (Token String)} (h : Chunked ts) {depth : Nat}
    (hdepth : depth? depth ts = some 0) {previous : Option Char} (hprevious : previous ≠ some '\\') :
    scan none previous depth [] (ts.flatMap spelling) = .ok ts := by
  induction ts generalizing depth previous with
  | nil =>
    cases hdepth
    rfl
  | cons t ts ih =>
    rw [List.flatMap_cons]
    cases t with
    | opening =>
      rw [spelling, List.singleton_append, scan_opening, ih h.tail hdepth (by decide)]
      rfl
    | closing =>
      rw [depth?] at hdepth
      split at hdepth
      · cases hdepth
      · rename_i hne
        obtain ⟨depth, rfl⟩ := Nat.exists_eq_succ_of_ne_zero hne
        rw [Nat.succ_sub_one] at hdepth
        rw [spelling, List.singleton_append, scan_closing, ih h.tail hdepth (by decide)]
        rfl
    | operator op =>
      rw [spelling, List.singleton_append, scan_operator,
        ih h.tail hdepth (by cases op <;> decide)]
      rfl
    | operand s =>
      have hs := h.whole s List.mem_cons_self
      have hnone : previous = some '\\' ↔ (none : Option Char) = some '\\' :=
        iff_of_false hprevious (by decide)
      have hmarks : marks none previous s.toList = [] := by
        rw [marks_congr hnone, marks_eq_nil_iff]
        exact hs.uncut
      rw [spelling, scan_uncut hmarks, openQuote_congr hnone]
      cases ts with
      | nil =>
        cases hdepth
        rw [List.flatMap_nil, scan, if_pos rfl, hs.chunk_eq]
      | cons u us =>
        -- a token follows, so the quotes are closed and the token ends the selector
        have hu : u.operand? = none :=
          (List.isChain_cons_cons.1 h.apart).1.resolve_left (by rintro ⟨⟩)
        obtain ⟨c, hspelling, hc⟩ := exists_structural hu
        have hrest := ih h.tail hdepth (show none ≠ some '\\' by decide)
        rw [List.flatMap_cons, hspelling, List.singleton_append] at hrest ⊢
        rw [h.closed s List.mem_cons_self, scan_chunk hc _ none, hrest, hs.chunk_eq]
        rfl

/-- The texts of such tokens side by side have no blanks at their ends. -/
theorem Chunked.trim_eq {ts : List (Token String)} (h : Chunked ts) :
    Text.trim (ts.flatMap spelling) = ts.flatMap spelling := by
  have hspelling : ∀ t ∈ ts, Text.trim (spelling t) = spelling t := by
    intro t ht
    cases t with
    | operand s => exact (h.whole s ht).trim_eq
    | operator op => cases op <;> rfl
    | opening | closing => rfl
  apply Text.trim_eq_self
  · intro c hc
    rw [List.head?_flatMap] at hc
    obtain ⟨t, ht, hfirst⟩ := List.exists_of_findSome?_eq_some hc
    rw [← hspelling t ht] at hfirst
    exact Text.isBlank_head?_trim hfirst
  · intro c hc
    rw [List.getLast?_flatMap] at hc
    obtain ⟨t, ht, hlast⟩ := List.exists_of_findSome?_eq_some hc
    rw [← hspelling t (List.mem_reverse.1 ht)] at hlast
    exact Text.isBlank_getLast?_trim hlast

theorem Separable.tokenize_spelled {ts : List (Token String)} (h : Separable ts) :
    tokenize (spelled ts) = .ok ts := by
  obtain ⟨hchunked, hbalanced⟩ := separable_iff.1 h
  rw [tokenize, spelled, String.toList_ofList, hchunked.trim_eq, hchunked.scan_eq hbalanced (by decide)]
  rfl

/-- Exactly the separable lists are the tokens of some text, and then of their own texts side by
side, so no selector text is lost, merged with another or split. -/
theorem exists_tokenize_iff_separable (ts : List (Token String)) :
    ((∃ s, tokenize s = .ok ts) ↔ Separable ts) ∧
      (Separable ts ↔ tokenize (spelled ts) = .ok ts) := by
  refine ⟨⟨?_, fun h => ⟨_, h.tokenize_spelled⟩⟩, Separable.tokenize_spelled, separable_of_tokenize⟩
  rintro ⟨s, hs⟩
  exact separable_of_tokenize hs

example : tokenize " (a \\' + 'b)' ) , c\"- d" =
    .ok [.opening, .operand "a \\'", .operator .intersection, .operand "'b)'", .closing,
      .operator .union, .operand "c\"- d"] :=
  rfl

end Tabular.Token
