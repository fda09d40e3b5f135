/-
Expressions as text: every term of an operator stands in brackets. Compiling a written expression
gives the steps of its tree. Brackets, operators and quotes inside a quoted text end no selector,
because scanning such a text changes nothing but the text collected so far.
-/
import Tabular.Proofs.Query.Shape

namespace Tabular

/-- An expression as a query writes it. -/
def Expression.render : Expression Selector → List Char
  | .operand s => s.render
  | .join op left right =>
    '(' :: left.render ++ ')' :: op.toChar :: '(' :: right.render ++ [')']

namespace Token

variable {α β γ : Type}

/-! ## Scanning one selector -/

/-- Scanning a text outside quotes, from a place that no backslash precedes, only collects it. -/
def Unbroken (cs : List Char) : Prop :=
  ∀ previous, previous ≠ some '\\' → ∃ last, last ≠ some '\\' ∧ ∀ depth collected rest,
    scan none previous depth collected (cs ++ rest) =
      scan none last depth (cs.reverse ++ collected) rest

theorem unbroken_nil : Unbroken [] := fun previous h => ⟨previous, h, fun _ _ _ => rfl⟩

theorem Unbroken.append {cs ds : List Char} (h : Unbroken cs) (h' : Unbroken ds) :
    Unbroken (cs ++ ds) := by
  intro previous hp
  obtain ⟨middle, hm, hcs⟩ := h previous hp
  obtain ⟨last, hl, hds⟩ := h' middle hm
  refine ⟨last, hl, fun depth collected rest => ?_⟩
  rw [List.append_assoc, hcs, hds, List.reverse_append, List.append_assoc]

/-- The characters that only extend the text collected so far, wherever they stand. -/
def isPlain (c : Char) : Bool :=
  (structural? (α := String) c).isNone && !isQuoteMark c && c != '\\'

/-- Brackets, set operators, quote marks and the backslash are all the characters that are not
plain. -/
theorem isPlain_of_ne {c : Char}
    (h : ∀ d ∈ ['(', ')', '+', '-', ',', '"', '\'', '\\'], c ≠ d) : isPlain c = true := by
  simp only [List.forall_mem_cons, List.not_mem_nil, false_implies, implies_true, and_true] at h
  obtain ⟨ho, hc, hi, hd, hu, hq, hs, hb⟩ := h
  simp [isPlain, structural?, SetOperator.ofChar?, isQuoteMark, ho, hc, hi, hd, hu, hq, hs, hb]

theorem isPlain_iff {c : Char} : isPlain c = true ↔
    structural? (α := String) c = none ∧ isQuoteMark c = false ∧ c ≠ '\\' := by
  simp only [isPlain, Bool.and_eq_true, Option.isNone_iff_eq_none, Bool.not_eq_true', bne_iff_ne,
    and_assoc]

theorem quoteAfter_of_not_mark {c : Char} (hc : isQuoteMark c = false)
    (quote previous : Option Char) : quoteAfter quote previous c = quote := by
  unfold quoteAfter
  rw [hc]
  rfl

theorem unbroken_singleton {c : Char} (hc : isPlain c = true) : Unbroken [c] := by
  obtain ⟨hs, hq, hb⟩ := isPlain_iff.1 hc
  refine fun previous _ => ⟨some c, fun h => hb (Option.some.inj h), fun depth collected rest => ?_⟩
  rw [List.singleton_append, scan.eq_def]
  simp [hs, quoteAfter_of_not_mark hq]

theorem unbroken_of_plain {cs : List Char} (h : cs.all isPlain = true) : Unbroken cs := by
  induction cs with
  | nil => exact unbroken_nil
  | cons c cs ih =>
    rw [List.all_cons, Bool.and_eq_true] at h
    exact (unbroken_singleton h.1).append (ih h.2)

theorem scan_quoted (quote : Char) (previous : Option Char) (depth : Nat)
    (collected : List Char) (c : Char) (cs : List Char) :
    scan (some quote) previous depth collected (c :: cs) =
      scan (quoteAfter (some quote) previous c) (some c) depth (c :: collected) cs := by
  rw [scan.eq_def]

theorem quoteAfter_of_ne {quote c : Char} (previous : Option Char) (hc : c ≠ quote) :
    quoteAfter (some quote) previous c = some quote := by
  unfold quoteAfter
  split
  · exact if_neg (Ne.symm hc)
  · rfl

/-- Inside quotes, the escaped text and the quote that closes it are collected. -/
theorem scan_escapeQuotes (previous : Char) (depth : Nat) (collected rest : List Char)
    {cs : List Char} (h : (previous :: cs).getLast? ≠ some '\\') :
    scan (some '"') (some previous) depth collected (Selector.escapeQuotes cs ++ '"' :: rest) =
      scan none (some '"') depth ('"' :: (Selector.escapeQuotes cs).reverse ++ collected) rest := by
  induction cs generalizing previous collected with
  | nil =>
    have hp : previous ≠ '\\' := fun hp => h (congrArg some hp)
    have hquote : quoteAfter (some '"') (some previous) '"' = none := by simp [quoteAfter, hp]; decide
    rw [Selector.escapeQuotes, List.nil_append, scan_quoted, hquote]
    rfl
  | cons c cs ih =>
    rw [List.getLast?_cons_cons] at h
    by_cases hc : c = '"'
    · -- the backslash keeps the quote from closing
      subst hc
      have hbackslash : quoteAfter (some '"') (some previous) '\\' = some '"' :=
        quoteAfter_of_ne _ (by decide)
      have hquote : quoteAfter (some '"') (some '\\') '"' = some '"' := by decide
      rw [Selector.escapeQuotes, if_pos rfl, List.cons_append, List.cons_append, scan_quoted,
        hbackslash, scan_quoted, hquote, ih '"' _ h]
      simp
    · rw [Selector.escapeQuotes, if_neg hc, List.cons_append, scan_quoted, quoteAfter_of_ne _ hc,
        ih c _ h]
      simp

theorem unbroken_quoted {s : String} (h : s.toList.getLast? ≠ some '\\') :
    Unbroken (Selector.quoted s) := by
  intro previous hp
  have hopen : quoteAfter none previous '"' = some '"' := by simp [quoteAfter, hp]; decide
  have hlast : ('"' :: s.toList).getLast? ≠ some '\\' := by
    rcases hs : s.toList with _ | ⟨c, cs⟩
    · decide
    · rw [List.getLast?_cons_cons, ← hs]
      exact h
  refine ⟨some '"', by decide, fun depth collected rest => ?_⟩
  have hstart : scan none previous depth collected (Selector.quoted s ++ rest) =
      scan (some '"') (some '"') depth ('"' :: collected)
        (Selector.escapeQuotes s.toList ++ '"' :: rest) := by
    rw [scan.eq_def]
    simp [Selector.quoted, hopen, structural?, SetOperator.ofChar?]
  rw [hstart, scan_escapeQuotes _ _ _ _ hlast]
  simp [Selector.quoted]

theorem unbroken_piped {texts : List (List Char)} (h : ∀ cs ∈ texts, Unbroken cs) :
    Unbroken (Selector.piped texts) := by
  induction texts with
  | nil => exact unbroken_nil
  | cons cs texts ih =>
    have hcs : Unbroken cs := h cs List.mem_cons_self
    have ih := ih fun ds hds => h ds (List.mem_cons_of_mem _ hds)
    rcases texts with _ | ⟨ds, texts⟩
    · rwa [Selector.piped_singleton]
    · rw [Selector.piped_cons_cons]
      exact hcs.append ((unbroken_singleton (c := '|') rfl).append ih)

theorem isPlain_of_isDigit {c : Char} (hc : c.isDigit = true) : isPlain c = true := by
  refine isPlain_of_ne fun d hd => ?_
  rintro rfl
  have hmarks : ['(', ')', '+', '-', ',', '"', '\'', '\\'].any Char.isDigit = false := by decide
  exact List.any_eq_false.1 hmarks c hd hc

theorem unbroken_field {f : Field} (hw : f.Writable) : Unbroken f.render := by
  cases f with
  | key | label => exact unbroken_of_plain rfl
  | position n =>
    refine (unbroken_singleton (c := '/') rfl).append (unbroken_of_plain ?_)
    refine List.all_eq_true.2 fun c hc => ?_
    exact isPlain_of_isDigit (Nat.isDigit_of_mem_toDigits (by decide) (by decide) hc)
  | named name => exact unbroken_quoted hw.2

theorem unbroken_selector {s : Selector} (hw : s.Writable) : Unbroken s.render := by
  have hsymbol : Unbroken s.operator.symbol := by
    cases s.operator <;> exact unbroken_of_plain rfl
  refine ((unbroken_piped fun cs hcs => ?_).append hsymbol).append (unbroken_piped fun cs hcs => ?_)
  · obtain ⟨f, hf, rfl⟩ := List.mem_map.1 hcs
    exact unbroken_field (hw.fields f hf)
  · obtain ⟨value, hvalue, rfl⟩ := List.mem_map.1 hcs
    exact unbroken_quoted (hw.values_last value hvalue)

/-! ## Scanning expressions -/

theorem scan_opening (previous : Option Char) (depth : Nat) (collected cs : List Char) :
    scan none previous depth collected ('(' :: cs) =
      (scan none (some '(') (depth + 1) [] cs).map (chunk collected ++ .opening :: ·) :=
  scan.eq_2 _ _ _ _ _ rfl

theorem scan_closing (previous : Option Char) (depth : Nat) (collected cs : List Char) :
    scan none previous (depth + 1) collected (')' :: cs) =
      (scan none (some ')') depth [] cs).map (chunk collected ++ .closing :: ·) :=
  scan.eq_3 _ _ _ _ _ rfl

theorem scan_operator (op : SetOperator) (previous : Option Char) (depth : Nat)
    (collected cs : List Char) :
    scan none previous depth collected (op.toChar :: cs) =
      (scan none (some op.toChar) depth [] cs).map (chunk collected ++ .operator op :: ·) := by
  have hop : structural? (α := String) op.toChar = some (.operator op) := by cases op <;> rfl
  exact scan.eq_4 _ _ _ _ _ _ (fun h => by cases h) (fun h => by cases h) hop

theorem chunk_nil : chunk [] = [] := rfl

/-- The text of a written selector is one operand. -/
theorem chunk_render {s : Selector} (hw : s.Writable) :
    chunk (s.render.reverse ++ []) = [.operand (String.ofList s.render)] := by
  obtain ⟨c, cs, hcs, _⟩ := Selector.exists_render_fields hw.fields_ne
  have hne : s.render.isEmpty = false := by
    unfold Selector.render
    rw [hcs]
    rfl
  simp [chunk, Selector.trim_render hw, hne]

/-- The text of an operand. -/
def written (s : Selector) : String :=
  String.ofList s.render

/-- A written expression in brackets gives its tokens in brackets, whatever follows. -/
theorem scan_bracketed {e : Expression Selector} (hw : ∀ s ∈ e.operands, s.Writable)
    (previous : Option Char) (depth : Nat) (rest : List Char) :
    scan none previous depth [] ('(' :: e.render ++ ')' :: rest) =
      (scan none (some ')') depth [] rest).map
        ((.opening :: e.tokens.map (map written) ++ [.closing]) ++ ·) := by
  induction e generalizing previous depth rest with
  | operand s =>
    have hs : s.Writable := hw s (List.mem_singleton.2 rfl)
    obtain ⟨last, _, hscan⟩ := unbroken_selector hs (some '(') (by decide)
    rw [Expression.render, List.cons_append, scan_opening, hscan, scan_closing, chunk_render hs]
    cases scan none (some ')') depth [] rest <;> rfl
  | join op left right ihl ihr =>
    have ihl := ihl fun s hs => hw s (List.mem_append_left _ hs)
    have ihr := ihr fun s hs => hw s (List.mem_append_right _ hs)
    -- the text is two bracketed terms around the operator, in one more pair of brackets
    have hshape : '(' :: (Expression.join op left right).render ++ ')' :: rest =
        '(' :: ('(' :: left.render ++ ')' :: op.toChar :: ('(' :: right.render ++ ')' ::
          ')' :: rest)) := by
      simp [Expression.render]
    rw [hshape, scan_opening, ihl, scan_operator, ihr, scan_closing, chunk_nil]
    cases scan none (some ')') depth [] rest with
    | error => rfl
    | ok ts => simp [Except.map, Expression.tokens, map]

theorem trim_expression {e : Expression Selector} (hw : ∀ s ∈ e.operands, s.Writable) :
    Text.trim e.render = e.render := by
  cases e with
  | operand s => exact Selector.trim_render (hw s (List.mem_singleton.2 rfl))
  | join op left right =>
    apply Text.trim_eq_self
    · rintro c hc
      cases hc
      decide
    · rintro c hc
      rw [Expression.render, List.getLast?_append, List.getLast?_singleton] at hc
      cases hc
      decide

/-- The tokens of a written expression. -/
theorem tokenize_render {e : Expression Selector} (hw : ∀ s ∈ e.operands, s.Writable) :
    tokenize (String.ofList e.render) = .ok (e.tokens.map (map written)) := by
  rw [tokenize, String.toList_ofList, trim_expression hw]
  cases e with
  | operand s =>
    have hs : s.Writable := hw s (List.mem_singleton.2 rfl)
    obtain ⟨last, _, hscan⟩ := unbroken_selector hs none (by decide)
    have hscan := hscan 0 [] []
    rw [List.append_nil] at hscan
    rw [Expression.render, hscan, scan, if_pos rfl, chunk_render hs]
    rfl
  | join op left right =>
    have hl : ∀ s ∈ left.operands, s.Writable := fun s hs => hw s (List.mem_append_left _ hs)
    have hr : ∀ s ∈ right.operands, s.Writable := fun s hs => hw s (List.mem_append_right _ hs)
    have hshape : (Expression.join op left right).render =
        '(' :: left.render ++ ')' :: op.toChar :: ('(' :: right.render ++ ')' :: []) := by
      simp [Expression.render]
    rw [hshape, scan_bracketed hl, scan_operator, scan_bracketed hr, scan, if_pos rfl, chunk_nil]
    simp [Except.map, Except.mapError, Expression.tokens, map]

/-! ## Compiling expressions -/

theorem traverse_map {ε : Type} {f : β → Except ε γ} {g : α → β} {h : α → γ}
    {ts : List (Token α)} (hfg : ∀ a, .operand a ∈ ts → f (g a) = .ok (h a)) :
    traverse f (ts.map (map g)) = .ok (ts.map (map h)) := by
  induction ts with
  | nil => rfl
  | cons t ts ih =>
    have ih := ih fun a ha => hfg a (List.mem_cons_of_mem _ ha)
    cases t with
    | operand a =>
      rw [List.map_cons, map, traverse, hfg a List.mem_cons_self, ih]
      rfl
    | operator | opening | closing =>
      rw [List.map_cons, map, traverse, ih]
      rfl

theorem mem_operands_of_mem_tokens {e : Expression α} {a : α} (h : .operand a ∈ e.tokens) :
    a ∈ e.operands := by
  induction e with
  | operand b => simpa [Expression.tokens, Expression.operands] using h
  | join op left right ihl ihr =>
    simp only [Expression.tokens, List.cons_append, List.mem_cons, List.mem_append, reduceCtorEq,
      false_or, List.not_mem_nil, or_false] at h
    exact List.mem_append.2 (h.imp ihl ihr)

/-- The tokens of a tree are read as the tree. -/
theorem reads_tokens (e : Expression α) : Reads .expression e.tokens e.steps := by
  induction e with
  | operand a => exact .expression (.conjunction (Reads.nothing.operand a))
  | join op left right ihl ihr =>
    have hshape : (Expression.join op left right).tokens =
        (.opening :: left.tokens ++ [.closing]) ++
          .operator op :: (.opening :: right.tokens ++ [.closing]) := by
      simp [Expression.tokens]
    rw [hshape]
    exact ihl.join_bracketed op ihr

theorem map_tokens (f : α → β) (e : Expression α) : (e.map f).tokens = e.tokens.map (map f) := by
  induction e with
  | operand a => rfl
  | join op left right ihl ihr => simp [Expression.tokens, Expression.map, map, ihl, ihr]

end Token

/-- Compiling a written expression gives the steps of its tree, with the fields, the operator and
the values of every selector as they were. -/
theorem Query.parse_written {e : Expression Selector} (hw : ∀ s ∈ e.operands, s.Writable) :
    Query.parse (String.ofList e.render) =
      .ok ⟨String.ofList e.render, (e.map Selector.asWritten).steps⟩ := by
  have hselectors : Token.traverse Selector.parse (e.tokens.map (Token.map Token.written)) =
      .ok (e.map Selector.asWritten).tokens := by
    rw [Token.map_tokens]
    exact Token.traverse_map fun s hs =>
      Selector.parse_render (hw s (Token.mem_operands_of_mem_tokens hs))
  have hsteps : Step.ofTokens (e.map Selector.asWritten).tokens =
      (e.map Selector.asWritten).steps := (Token.reads_tokens _).ofTokens_eq
  rw [Token.parse_of_selectors (Token.tokenize_render hw) hselectors, hsteps,
    Expression.check_steps]
  rfl

/-- Quotes, pipes, brackets, operators and backslashes inside names and values stay there. -/
theorem Query.parse_written_marks :
    (∀ s ∈ [Selector.mk [.named "a\"|(", .position 18446744073709551615] .notEqual
        ["x\\\"y", ", ) +"] "", Selector.mk [.label] .equal [""] ""], s.Writable) ∧
      Query.parse "(\"a\\\"|(\"|/18446744073709551615!=\"x\\\\\"y\"|\", ) +\")-(//=\"\")" =
        .ok ⟨"(\"a\\\"|(\"|/18446744073709551615!=\"x\\\\\"y\"|\", ) +\")-(//=\"\")",
          [.operand ⟨[.named "a\"|(", .position 18446744073709551615], .notEqual,
              ["x\\\"y", ", ) +"], "\"a\\\"|(\"|/18446744073709551615!=\"x\\\\\"y\"|\", ) +\""⟩,
            .operand ⟨[.label], .equal, [""], "//=\"\""⟩, .operator .difference]⟩ := by
  have hw : ∀ s ∈ [Selector.mk [.named "a\"|(", .position 18446744073709551615] .notEqual
      ["x\\\"y", ", ) +"] "", Selector.mk [.label] .equal [""] ""], s.Writable := by
    simp only [List.forall_mem_cons]
    refine ⟨⟨by decide, ?_, by decide, by decide, by decide⟩,
      ⟨by decide, ?_, by decide, by decide, by decide⟩, nofun⟩
    · simp only [List.forall_mem_cons]
      exact ⟨⟨by decide, by decide⟩, show 18446744073709551615 < Field.positionLimit by decide, nofun⟩
    · simp only [List.forall_mem_cons]
      exact ⟨trivial, nofun⟩
  have hparse := @parse_written (.join .difference
    (.operand ⟨[.named "a\"|(", .position 18446744073709551615], .notEqual,
      ["x\\\"y", ", ) +"], ""⟩)
    (.operand ⟨[.label], .equal, [""], ""⟩)) hw
  exact ⟨hw, hparse⟩

end Tabular
