/-
Queries joined by a set operator. Two query texts in brackets compile to the steps of both, then
the operator, because nothing of a text whose quotes are closed leaks across the brackets around
it: blanks at its ends are trimmed from the selectors next to them, and only an open quote could
hide the closing bracket. So the joined query keeps the intersection, the difference or the union
of what the two keep.
-/
import Tabular.Proofs.Query.Evaluation
import Tabular.Proofs.Query.RoundTrip

namespace Tabular

/-! ## Blank ends -/

namespace Token

variable {α β ε : Type}

theorem chunk_append_blank {after before : List Char} (ha : after.all Text.isBlank = true)
    (collected : List Char) (hb : before.all Text.isBlank = true) :
    chunk (after ++ collected ++ before) = chunk collected := by
  have htrim : Text.trim (after ++ collected ++ before).reverse = Text.trim collected.reverse := by
    rw [List.reverse_append, List.reverse_append, ← List.append_assoc]
    exact Text.trim_append_blank (by rwa [List.all_reverse]) (by rwa [List.all_reverse])
  unfold chunk
  rw [htrim]

theorem isPlain_of_isBlank {c : Char} (hc : Text.isBlank c = true) : isPlain c = true := by
  refine isPlain_of_ne fun d hd => ?_
  rintro rfl
  have hmarks : ['(', ')', '+', '-', ',', '"', '\'', '\\'].any Text.isBlank = false := by decide
  exact List.any_eq_false.1 hmarks c hd hc

theorem all_isPlain_of_blank {cs : List Char} (h : cs.all Text.isBlank = true) :
    cs.all isPlain = true :=
  List.all_eq_true.2 fun c hc => isPlain_of_isBlank (List.all_eq_true.1 h c hc)

/-- Outside quotes plain characters are collected, also after a backslash. -/
theorem scan_plain {cs : List Char} (h : cs.all isPlain = true) (previous : Option Char) :
    ∃ last, (previous ≠ some '\\' → last ≠ some '\\') ∧ ∀ depth collected rest,
      scan none previous depth collected (cs ++ rest) =
        scan none last depth (cs.reverse ++ collected) rest := by
  induction cs generalizing previous with
  | nil => exact ⟨previous, id, fun _ _ _ => rfl⟩
  | cons c cs ih =>
    rw [List.all_cons, Bool.and_eq_true] at h
    obtain ⟨last, hlast, hscan⟩ := ih h.2 (some c)
    obtain ⟨hs, hq, hb⟩ := isPlain_iff.1 h.1
    refine ⟨last, fun _ => hlast fun hc => hb (Option.some.inj hc), fun depth collected rest => ?_⟩
    rw [List.cons_append, scan.eq_def]
    simp [hs, quoteAfter_of_not_mark hq, hscan]

/-! ## Closed quotes -/

/-- The open quote after a text, from the open quote and the character before the text. -/
def openQuote (quote previous : Option Char) : List Char → Option Char
  | [] => quote
  | c :: cs => openQuote (quoteAfter quote previous c) (some c) cs

/-- Every quote of a query is closed at its end. -/
def QuotesClosed (query : String) : Prop :=
  openQuote none none (Text.trim query.toList) = none

instance (query : String) : Decidable (QuotesClosed query) :=
  inferInstanceAs (Decidable (openQuote none none (Text.trim query.toList) = none))

theorem quoteAfter_of_structural {c : Char} {t : Token String} (h : structural? c = some t)
    (quote previous : Option Char) : quoteAfter quote previous c = quote := by
  have hmark : ∀ d, isQuoteMark d = true → structural? (α := String) d = none := by
    intro d hd
    rcases Bool.or_eq_true _ _ ▸ hd with hd | hd <;> cases beq_iff_eq.1 hd <;> rfl
  have hq : isQuoteMark c = false := by
    by_contra hq
    rw [hmark c (Bool.not_eq_false _ ▸ hq)] at h
    cases h
  exact quoteAfter_of_not_mark hq quote previous

theorem quoteAfter_congr {previous previous' : Option Char}
    (h : previous' = some '\\' ↔ previous = some '\\') (quote : Option Char) (c : Char) :
    quoteAfter quote previous' c = quoteAfter quote previous c := by
  have hiff : (previous' != some '\\') = (previous != some '\\') := by
    rw [Bool.eq_iff_iff, bne_iff_ne, bne_iff_ne]
    exact not_congr h
  unfold quoteAfter
  rw [hiff]

/-- Of the character before a text, only whether it is a backslash matters; of the text collected
so far, only what it contributes to a selector. -/
theorem scan_congr {quote previous previous' : Option Char} {depth : Nat}
    {collected collected' cs : List Char}
    (hprevious : previous' = some '\\' ↔ previous = some '\\')
    (hcollected : ∀ more, chunk (more ++ collected') = chunk (more ++ collected)) :
    scan quote previous' depth collected' cs = scan quote previous depth collected cs := by
  have hchunk : chunk collected' = chunk collected := hcollected []
  induction cs generalizing quote previous previous' depth collected collected' with
  | nil => rw [scan, scan, hchunk]
  | cons c cs ih =>
    rw [scan.eq_def, scan.eq_def quote previous]
    dsimp only
    split
    · rw [hchunk]
    · rw [hchunk]
    · rw [hchunk]
    · rw [quoteAfter_congr hprevious]
      refine ih Iff.rfl (fun more => ?_) (hcollected [c])
      have hmore := hcollected (more ++ [c])
      rwa [List.append_assoc, List.append_assoc] at hmore

/-- A text with closed quotes is scanned the same way inside a pair of brackets, with blanks after
it, up to the closing bracket. -/
theorem scan_closing_append {quote previous : Option Char} {depth : Nat}
    {collected cs after : List Char} {ts : List (Token String)}
    (h : scan quote previous depth collected cs = .ok ts) (hq : openQuote quote previous cs = none)
    (hafter : after.all Text.isBlank = true) (outer : Nat) (rest : List Char) :
    scan quote previous (depth + (outer + 1)) collected (cs ++ (after ++ ')' :: rest)) =
      (scan none (some ')') outer [] rest).map (ts ++ .closing :: ·) := by
  have hmap : ∀ us vs, (scan none (some ')') outer [] rest).map ((us ++ vs) ++ .closing :: ·) =
      ((scan none (some ')') outer [] rest).map (vs ++ .closing :: ·)).map (us ++ ·) := by
    intro us vs
    cases scan none (some ')') outer [] rest <;> simp [Except.map]
  fun_induction scan quote previous depth collected cs generalizing ts with
  | case1 quote previous collected =>
    cases h
    obtain rfl : quote = none := hq
    have hplain : after.all isPlain = true := all_isPlain_of_blank hafter
    obtain ⟨last, _, hscan⟩ := scan_plain hplain previous
    have hreverse : after.reverse.all Text.isBlank = true := by rwa [List.all_reverse]
    have hchunk := chunk_append_blank hreverse collected (List.all_nil : _ = true)
    rw [List.append_nil] at hchunk
    rw [List.nil_append, hscan, Nat.zero_add, scan_closing, hchunk]
  | case2 => cases h
  | case3 previous depth collected c cs hc ih =>
    obtain ⟨us, hus, rfl⟩ := map_eq_ok_iff.1 h
    rw [openQuote, quoteAfter_of_structural hc] at hq
    rw [List.cons_append, scan.eq_2 _ _ _ _ _ hc, Nat.add_right_comm, ih hus hq]
    rw [← List.singleton_append, ← List.append_assoc, hmap]
    simp
  | case4 => cases h
  | case5 previous depth collected c cs hc hd ih =>
    obtain ⟨us, hus, rfl⟩ := map_eq_ok_iff.1 h
    rw [openQuote, quoteAfter_of_structural hc] at hq
    have hdepth : depth + (outer + 1) - 1 = depth - 1 + (outer + 1) := by omega
    rw [List.cons_append, scan.eq_3 _ _ _ _ _ hc, if_neg (by omega), hdepth, ih hus hq]
    rw [← List.singleton_append, ← List.append_assoc, hmap]
    simp
  | case6 previous depth collected c cs t hopening hclosing hc ih =>
    obtain ⟨us, hus, rfl⟩ := map_eq_ok_iff.1 h
    rw [openQuote, quoteAfter_of_structural hc] at hq
    rw [List.cons_append, scan.eq_4 _ _ _ _ _ _ hopening hclosing hc, ih hus hq]
    rw [← List.singleton_append, ← List.append_assoc, hmap]
    simp
  | case7 previous depth collected c cs quote hopening hclosing hc ih =>
    rw [List.cons_append, scan.eq_5 _ _ _ _ _ _ hopening hclosing hc]
    exact ih h hq

/-- A query in brackets gives its tokens in brackets, whatever follows. -/
theorem scan_bracketed_query {query : String} {ts : List (Token String)}
    (hts : tokenize query = .ok ts) (hclosed : QuotesClosed query) (previous : Option Char)
    (outer : Nat) (rest : List Char) :
    scan none previous outer [] ('(' :: query.toList ++ ')' :: rest) =
      (scan none (some ')') outer [] rest).map ((.opening :: ts ++ [.closing]) ++ ·) := by
  obtain ⟨before, after, hquery, hbefore, hafter⟩ := Text.exists_trim query.toList
  have hplain : before.all isPlain = true := all_isPlain_of_blank hbefore
  obtain ⟨last, hlast, hscan⟩ := scan_plain hplain (some '(')
  have hscanned : scan none none 0 [] (Text.trim query.toList) = .ok ts := mapError_eq_ok_iff.1 hts
  -- blanks before the query are no part of its first selector
  have hcollected : ∀ more, chunk (more ++ (before.reverse ++ [])) = chunk (more ++ []) := by
    intro more
    rw [List.append_nil, List.append_nil]
    exact chunk_append_blank List.all_nil more (by rwa [List.all_reverse])
  have hprevious : last = some '\\' ↔ (none : Option Char) = some '\\' :=
    ⟨fun h => absurd h (hlast (by decide)), nofun⟩
  have hclosing := scan_closing_append hscanned hclosed hafter outer rest
  rw [Nat.zero_add] at hclosing
  rw [List.cons_append, scan_opening, hquery, List.append_assoc, List.append_assoc, hscan,
    scan_congr hprevious hcollected, hclosing, chunk_nil]
  cases scan none (some ')') outer [] rest <;> simp [Except.map]

end Token

/-- Two queries in brackets with a set operator between them. -/
def Query.joined (op : SetOperator) (left right : String) : String :=
  "(" ++ left ++ ")" ++ String.singleton op.toChar ++ "(" ++ right ++ ")"

namespace Token

theorem toList_joined (op : SetOperator) (left right : String) :
    (Query.joined op left right).toList =
      '(' :: left.toList ++ ')' :: op.toChar :: ('(' :: right.toList ++ [')']) := by
  simp [Query.joined]

/-- The tokens of joined queries are those of both in brackets. -/
theorem tokenize_joined {left right : String} {ts us : List (Token String)} (op : SetOperator)
    (hts : tokenize left = .ok ts) (hus : tokenize right = .ok us) (hleft : QuotesClosed left)
    (hright : QuotesClosed right) :
    tokenize (Query.joined op left right) =
      .ok ((.opening :: ts ++ [.closing]) ++ .operator op :: (.opening :: us ++ [.closing])) := by
  have htrim : Text.trim (Query.joined op left right).toList =
      (Query.joined op left right).toList := by
    rw [toList_joined]
    apply Text.trim_eq_self
    · rintro c hc
      cases hc
      decide
    · have hlast : '(' :: left.toList ++ ')' :: op.toChar :: ('(' :: right.toList ++ [')']) =
          ('(' :: left.toList ++ ')' :: op.toChar :: '(' :: right.toList) ++ [')'] := by simp
      rintro c hc
      rw [hlast, List.getLast?_concat] at hc
      cases hc
      decide
  rw [tokenize, htrim, toList_joined, scan_bracketed_query hts hleft, scan_operator,
    scan_bracketed_query hus hright, scan, if_pos rfl, chunk_nil]
  simp [Except.map, Except.mapError]

theorem traverse_append {α β ε : Type} {f : α → Except ε β} {ts us : List (Token α)}
    {ts' us' : List (Token β)} (h : traverse f ts = .ok ts') (h' : traverse f us = .ok us') :
    traverse f (ts ++ us) = .ok (ts' ++ us') := by
  induction ts generalizing ts' with
  | nil =>
    cases h
    exact h'
  | cons t ts ih =>
    cases t with
    | operand a =>
      obtain ⟨b, hb, h⟩ := bind_eq_ok_iff.1 h
      obtain ⟨vs, hvs, h⟩ := bind_eq_ok_iff.1 h
      cases h
      rw [List.cons_append, traverse, hb, ih hvs]
      rfl
    | operator | opening | closing =>
      obtain ⟨vs, hvs, h⟩ := bind_eq_ok_iff.1 h
      cases h
      rw [List.cons_append, traverse, ih hvs]
      rfl

theorem traverse_bracketed {α β ε : Type} {f : α → Except ε β} {ts : List (Token α)}
    {ts' : List (Token β)} (h : traverse f ts = .ok ts') :
    traverse f (.opening :: ts ++ [.closing]) = .ok (.opening :: ts' ++ [.closing]) := by
  rw [List.cons_append, traverse, traverse_append h rfl]
  rfl

theorem depth?_map {α β : Type} (f : α → β) (depth : Nat) (ts : List (Token α)) :
    depth? depth (ts.map (map f)) = depth? depth ts := by
  induction ts generalizing depth with
  | nil => rfl
  | cons t ts ih => cases t <;> simp [depth?, map, ih]

/-- The brackets of a text are balanced, whatever its selectors are read as. -/
theorem balanced_of_traverse {α β ε : Type} {f : α → Except ε β} {ts : List (Token α)}
    {us : List (Token β)} (hb : Balanced ts) (h : traverse f ts = .ok us) : Balanced us := by
  have hshape := map_traverse h
  rw [Balanced, ← depth?_map fun _ => (), hshape, depth?_map]
  exact hb

end Token

/-! ## Joined queries -/

namespace Query

/-- Joined queries compile to the steps of both and the operator. -/
theorem parse_joined {left right : String} {p q : Query} (op : SetOperator)
    (hp : parse left = .ok p) (hq : parse right = .ok q) (hpne : p.steps ≠ [])
    (hqne : q.steps ≠ []) (hleft : Token.QuotesClosed left) (hright : Token.QuotesClosed right) :
    parse (joined op left right) =
      .ok ⟨joined op left right, p.steps ++ q.steps ++ [.operator op]⟩ := by
  obtain ⟨e, he⟩ := exists_expression_of_parse hp hpne
  obtain ⟨f, hf⟩ := exists_expression_of_parse hq hqne
  obtain ⟨ts, ts', hts, _, hts', _, rfl⟩ := parseWith_eq_ok_iff.1 hp
  obtain ⟨us, us', hus, _, hus', _, rfl⟩ := parseWith_eq_ok_iff.1 hq
  have hoperator : Token.traverse Selector.parse (.operator op :: (.opening :: us ++ [.closing])) =
      .ok (.operator op :: (.opening :: us' ++ [.closing])) := by
    rw [Token.traverse, Token.traverse_bracketed hus']
    rfl
  have hselectors := Token.traverse_append (Token.traverse_bracketed hts') hoperator
  obtain ⟨r, hr⟩ := Token.exists_reads
    (Token.balanced_of_traverse (Token.balanced_of_tokenize hts) hts')
  obtain ⟨s, hs⟩ := Token.exists_reads
    (Token.balanced_of_traverse (Token.balanced_of_tokenize hus) hus')
  rw [hr.ofTokens_eq] at he
  rw [hs.ofTokens_eq] at hf
  have hsteps : Step.ofTokens ((.opening :: ts' ++ [.closing]) ++
      .operator op :: (.opening :: us' ++ [.closing])) = (Expression.join op e f).steps := by
    rw [(hr.join_bracketed op hs).ofTokens_eq, Expression.steps, he, hf]
  rw [Token.parse_of_selectors (Token.tokenize_joined op hts hus hleft hright) hselectors, hsteps,
    Expression.check_steps, Expression.steps, he, hf, hr.ofTokens_eq, hs.ofTokens_eq]
  rfl

/-- Joined queries bind as one after the other does. -/
theorem bind_of_joined {p q r : Query} {op : SetOperator} (table : TableView) (axis : Axis)
    (hr : r.steps = p.steps ++ q.steps ++ [.operator op]) :
    r.bind table axis = (p.bind table axis >>= fun b => q.bind table axis >>= fun c =>
      pure ⟨axis, b.steps ++ c.steps ++ [.operator op]⟩) := by
  simp only [bind, hr, Step.traverse_append, Step.traverse, bind_assoc, pure_bind]
  rfl

theorem bind_joined {p q r : Query} {op : SetOperator} {table : TableView} {axis : Axis}
    {b c : BoundQuery} (hb : p.bind table axis = .ok b) (hc : q.bind table axis = .ok c)
    (hr : r.steps = p.steps ++ q.steps ++ [.operator op]) :
    r.bind table axis = .ok ⟨axis, b.steps ++ c.steps ++ [.operator op]⟩ := by
  rw [bind_of_joined table axis hr, hb, hc]
  rfl

end Query

/-! ## Selected keys -/

theorem SetOperator.holds_and (op : SetOperator) (a b c : Prop) :
    op.Holds (a ∧ b) (a ∧ c) ↔ a ∧ op.Holds b c := by
  cases op <;> simp only [Holds] <;> tauto

/-- The selected keys are those on the axis for which the expression holds. -/
theorem BoundQuery.mem_select_iff {q : Query} {table : TableView} {axis : Axis}
    {bound : BoundQuery} (hb : q.bind table axis = .ok bound) {e : Expression Selector}
    (he : e.steps = q.steps) {key : Nat} :
    key ∈ bound.select table ↔
      key < table.count axis ∧ e.Holds (Selector.Holds table axis key) := by
  obtain ⟨_, _, _, hkeeps⟩ := run_of_expression hb he key
  obtain ⟨_, _, hb⟩ := bind_eq_ok_iff.1 hb
  cases hb
  rw [select, List.mem_filter, List.mem_range, hkeeps]

/-- Joined queries answer as the operator says from the answers of both. -/
theorem BoundQuery.keeps_joined {p q : Query} {op : SetOperator} {table : TableView} {axis : Axis}
    {b c : BoundQuery} (hb : p.bind table axis = .ok b) (hc : q.bind table axis = .ok c)
    {e f : Expression Selector} (he : e.steps = p.steps) (hf : f.steps = q.steps) (key : Nat) :
    keeps ⟨axis, b.steps ++ c.steps ++ [.operator op]⟩ table key =
      op.apply (b.keeps table key) (c.keeps table key) := by
  have hjoined := Query.bind_joined (r := ⟨"", p.steps ++ q.steps ++ [.operator op]⟩) hb hc rfl
  have hsteps : (Expression.join op e f).steps = p.steps ++ q.steps ++ [.operator op] := by
    rw [Expression.steps, he, hf]
  obtain ⟨_, _, _, hleft⟩ := run_of_expression hb he key
  obtain ⟨_, _, _, hright⟩ := run_of_expression hc hf key
  obtain ⟨_, _, _, hboth⟩ := run_of_expression hjoined hsteps key
  rw [Bool.eq_iff_iff, hboth, SetOperator.apply_eq_true_iff, hleft, hright]
  rfl

theorem BoundQuery.pairwise_select (q : BoundQuery) (table : TableView) :
    (q.select table).Pairwise (· < ·) :=
  List.pairwise_lt_range.filter _

namespace Query

/-- Two queries with closed quotes, in brackets and with a set operator between them, compile to
the steps of both and then the operator. Where both bind, the joined query selects the
intersection, the difference or the union of the keys that they select, in increasing order. -/
theorem select_joined {left right : String} {p q : Query} (op : SetOperator)
    (hp : parse left = .ok p) (hq : parse right = .ok q) (hpne : p.steps ≠ [])
    (hqne : q.steps ≠ []) (hleft : Token.QuotesClosed left) (hright : Token.QuotesClosed right) :
    ∃ r, parse (joined op left right) = .ok r ∧ r.steps = p.steps ++ q.steps ++ [.operator op] ∧
      ∀ table axis ks ls, p.select table axis = .ok ks → q.select table axis = .ok ls →
        ∃ ms, r.select table axis = .ok ms ∧ ms.Pairwise (· < ·) ∧
          ∀ key, key ∈ ms ↔ op.Holds (key ∈ ks) (key ∈ ls) := by
  refine ⟨_, parse_joined op hp hq hpne hqne hleft hright, rfl, ?_⟩
  intro table axis ks ls hks hls
  obtain ⟨b, hb, rfl⟩ := map_eq_ok_iff.1 hks
  obtain ⟨c, hc, rfl⟩ := map_eq_ok_iff.1 hls
  obtain ⟨e, he⟩ := exists_expression_of_parse hp hpne
  obtain ⟨f, hf⟩ := exists_expression_of_parse hq hqne
  have hjoined := bind_joined (r := ⟨joined op left right, p.steps ++ q.steps ++ [.operator op]⟩)
    hb hc rfl
  have hsteps : (Expression.join op e f).steps = p.steps ++ q.steps ++ [.operator op] := by
    rw [Expression.steps, he, hf]
  refine ⟨_, map_eq_ok_iff.2 ⟨_, hjoined, rfl⟩, BoundQuery.pairwise_select _ _, fun key => ?_⟩
  rw [BoundQuery.mem_select_iff hb he, BoundQuery.mem_select_iff hc hf,
    BoundQuery.mem_select_iff hjoined hsteps, SetOperator.holds_and]
  rfl

/-- A text that begins with a blank and a bracket and ends with a quoted bracket, without one that
ends with a backslash. In a table of ones it selects both lines and the other only the second. -/
theorem select_joined_difference :
    parse " (a=1),a=\")\" " = .ok ⟨" (a=1),a=\")\" ", [.operand ⟨[.named "a"], .equal, ["1"], "a=1"⟩,
        .operand ⟨[.named "a"], .equal, [")"], "a=\")\""⟩, .operator .union]⟩ ∧
      parse "/>0\\ " = .ok ⟨"/>0\\ ", [.operand ⟨[.key], .greater, ["0\\"], "/>0\\"⟩]⟩ ∧
      Token.QuotesClosed " (a=1),a=\")\" " ∧ Token.QuotesClosed "/>0\\ " ∧
      ∃ r, parse "( (a=1),a=\")\" )-(/>0\\ )" = .ok r ∧
        r.steps = [.operand ⟨[.named "a"], .equal, ["1"], "a=1"⟩,
          .operand ⟨[.named "a"], .equal, [")"], "a=\")\""⟩, .operator .union,
          .operand ⟨[.key], .greater, ["0\\"], "/>0\\"⟩, .operator .difference] ∧
        ∃ ms, r.select
            ⟨fun _ => 2, fun _ _ => none, fun _ _ _ => some (.text "1"), fun _ _ => some 0⟩ .row =
              .ok ms ∧ ms.Pairwise (· < ·) ∧ ∀ key, key ∈ ms ↔ key ∈ [0, 1] ∧ key ∉ [1] := by
  have hp : parse " (a=1),a=\")\" " = .ok ⟨" (a=1),a=\")\" ",
      [.operand ⟨[.named "a"], .equal, ["1"], "a=1"⟩,
        .operand ⟨[.named "a"], .equal, [")"], "a=\")\""⟩, .operator .union]⟩ := by decide +kernel
  have hq : parse "/>0\\ " = .ok ⟨"/>0\\ ", [.operand ⟨[.key], .greater, ["0\\"], "/>0\\"⟩]⟩ := by
    decide +kernel
  have hleft : Token.QuotesClosed " (a=1),a=\")\" " := by decide +kernel
  have hright : Token.QuotesClosed "/>0\\ " := by decide +kernel
  obtain ⟨r, hr, hsteps, hselect⟩ := select_joined .difference hp hq (List.cons_ne_nil _ _)
    (List.cons_ne_nil _ _) hleft hright
  exact ⟨hp, hq, hleft, hright, r, hr, hsteps,
    hselect _ .row [0, 1] [1] (by decide +kernel) (by decide +kernel)⟩

end Query

end Tabular
