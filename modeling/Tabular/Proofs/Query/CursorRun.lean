/-
Runs of the cursor. Every step brings it nearer to the end of the text or to a later stage, so every
run ends, whatever the text; its answer is the selector, and the items of the selector carry the
bytes of the text that they were read from.
-/
import Tabular.Proofs.Query.CursorStep

namespace Tabular.Selector

open Text

variable {chunk : String} {cs left part : List Char}

/-! ## Whole runs -/

/-- The cursors of a run, each one step after the one before, from the start to an answer. -/
structure Run (chunk : String) (cursors : List Cursor) (last : Cursor)
    (answer : Except QueryError Selector) : Prop where
  head : cursors.head? = some Cursor.start
  steps : cursors.IsChain fun c d => c.step chunk = some d
  getLast : cursors.getLast? = some last
  answer : last.answer? chunk = some answer

namespace Cursor

variable {c d : Cursor}

theorem Before.trans {d e : Cursor} (h : c.Before d) (h' : d.Before e) : c.Before e := by
  obtain ⟨hpos, hrank⟩ := h
  obtain ⟨hpos', hrank'⟩ := h'
  exact ⟨hpos.trans hpos', by omega⟩

instance : Trans Before Before Before :=
  ⟨Before.trans⟩

/-- How far a cursor is from the end of the text, and of a round. -/
def potential (chunk : String) (c : Cursor) : Nat :=
  4 * (byteLength (trim chunk.toList) - c.pos) + c.stage.rank

theorem At.pos_le (h : c.At chunk left) : c.pos ≤ byteLength (trim chunk.toList) := by
  obtain ⟨past, htext, hpos⟩ := h.cut
  rw [htext, byteLength_append, ← hpos]
  exact Nat.le_add_right _ _

theorem At.isValid (h : c.At chunk left) :
    String.Pos.Raw.IsValid (trimmed chunk) ⟨c.pos⟩ := by
  obtain ⟨past, htext, hpos⟩ := h.cut
  exact isSome_cutAt?_iff.1 (Option.isSome_of_eq_some (cutAt?_eq_some_iff.2 ⟨htext, hpos⟩))

theorem potential_lt {d : Cursor} (hd : d.At chunk left) (h : c.Before d) :
    d.potential chunk < c.potential chunk := by
  have hle := hd.pos_le
  have hpos := h.pos_le
  have hrank := h.rank_lt
  rw [potential, potential]
  omega

/-- From between two characters a cursor runs to the answer. -/
theorem At.exists_run (h : c.At chunk left) : ∃ (cursors : List Cursor) (last : Cursor),
    cursors.head? = some c ∧ cursors.IsChain (fun c d => c.step chunk = some d) ∧
      cursors.getLast? = some last ∧ last.answer? chunk = some (parse chunk) ∧
        (∀ d ∈ cursors, ∃ left, d.At chunk left) ∧ cursors.IsChain Before ∧
          cursors.length ≤ c.potential chunk + 1 := by
  induction hn : c.potential chunk using Nat.strong_induction_on generalizing c left with
  | _ n ih =>
    rcases h.proceeds_or_answers with ⟨d, rest, hstep, hd, hbefore⟩ | hanswer
    · have hlt : d.potential chunk < n := hn ▸ potential_lt hd hbefore
      obtain ⟨cursors, last, hhead, hsteps, hlast, hanswer, hat, hforth, hlength⟩ :=
        ih _ hlt hd rfl
      obtain ⟨cursors, rfl⟩ := List.head?_eq_some_iff.1 hhead
      refine ⟨c :: d :: cursors, last, rfl, List.isChain_cons_cons.2 ⟨hstep, hsteps⟩,
        List.getLast?_cons_cons.trans hlast, hanswer, List.forall_mem_cons.2 ⟨⟨left, h⟩, hat⟩,
        List.isChain_cons_cons.2 ⟨hbefore, hforth⟩, ?_⟩
      rw [List.length_cons]
      omega
    · exact ⟨[c], c, rfl, .singleton c, rfl, hanswer, List.forall_mem_singleton.2 ⟨left, h⟩,
        .singleton c, Nat.le_add_left 1 n⟩

/-- A cursor does not go back, and it has gone on when it starts another round of the fields or of
the values. -/
structure Advances (c d : Cursor) : Prop where
  pos_le : c.pos ≤ d.pos
  fields : c.stage = .fields → d.stage = .fields → c.pos < d.pos
  values : ∀ op op', c.stage = .more op → d.stage = .more op' → c.pos < d.pos

theorem Before.advances {d : Cursor} (h : c.Before d) : c.Advances d := by
  have hpos := h.rank_lt
  have hlt : c.stage.rank = d.stage.rank → c.pos < d.pos := by omega
  exact ⟨h.pos_le, fun hc hd => hlt (by rw [hc, hd]), fun _ _ hc hd => hlt (by rw [hc, hd]; rfl)⟩

end Cursor

/-! ## Well-formed selectors -/

theorem unescapeQuotes_ne_nil (h : cs ≠ []) : unescapeQuotes cs ≠ [] := by
  unfold unescapeQuotes
  split
  · exact List.cons_ne_nil _ _
  · exact List.cons_ne_nil _ _
  · exact absurd rfl h

theorem ne_nil_of_mem_splitNames {current name : List Char} (h : name ∈ splitNames current cs) :
    name ≠ [] := by
  have hcurrent : ∀ {current : List Char},
      name ∈ (if current.isEmpty then [] else [current.reverse]) → name ≠ [] := by
    intro current h
    split at h
    · cases h
    · rename_i hne
      rw [List.mem_singleton.1 h, Ne, List.reverse_eq_nil_iff, ← List.isEmpty_iff]
      exact hne
  induction cs generalizing current with
  | nil => exact hcurrent h
  | cons c cs ih =>
    rw [splitNames] at h
    split at h
    · exact (List.mem_append.1 h).elim hcurrent ih
    · exact ih h

/-- A selector that was read: what its fields and values are, and where in the text they were read
from. -/
structure WellRead (text : List Char) (last : Cursor) (s : Selector) : Prop where
  fields : last.fields.map Span.item = s.fields
  fields_ne : s.fields ≠ []
  named_ne : ∀ name, .named name ∈ s.fields → name ≠ ""
  unquoted : ∀ span ∈ last.fields, span.item.Unquoted →
    ∃ run, span.Covers text run ∧ '"' ∉ run ∧ ∃ name ∈ splitNames [] run, span.item = .ofName name
  values : last.values.map Span.item = s.values
  values_ne : s.values ≠ []
  value_length : ∀ span ∈ last.values, ∃ part, span.Covers text part ∧ span.item.length ≤ 1000 ∧
    (part.head? = some '"' ∨ part.head? = some '\'' → span.item.length ≤ 999)

theorem eq_of_ofName_eq_named {name : String} (h : Field.ofName cs = .named name) :
    name = String.ofList cs := by
  unfold Field.ofName at h
  split at h
  · cases h
  · cases h
  · split at h
    · cases h
    · exact (Field.named.inj h).symm
  · exact (Field.named.inj h).symm

theorem FieldIn.name_ne {f : Field} (h : FieldIn part f) {name : String} (hf : f = .named name) :
    name ≠ "" := by
  cases h with
  | quoted hbody =>
    cases hf
    exact fun hempty => unescapeQuotes_ne_nil hbody (String.ofList_eq_empty_iff.1 hempty)
  | unquoted _ hname =>
    rw [eq_of_ofName_eq_named hf]
    exact fun hempty => ne_nil_of_mem_splitNames hname (String.ofList_eq_empty_iff.1 hempty)

theorem FieldIn.of_unquoted {f : Field} (h : FieldIn part f) (hf : f.Unquoted) :
    '"' ∉ part ∧ ∃ name ∈ splitNames [] part, f = .ofName name := by
  cases h with
  | quoted => exact hf.elim
  | unquoted hquote hname => exact ⟨hquote, _, hname, rfl⟩

theorem ValueIn.length_le {value : String} (h : ValueIn part value) : value.length ≤ 1000 ∧
    (part.head? = some '"' ∨ part.head? = some '\'' → value.length ≤ 999) := by
  have hroom : part.head? = some '"' ∨ part.head? = some '\'' → roomAt part = 999 := by
    rintro (hquote | hquote)
    all_goals
      obtain ⟨body, rfl⟩ := List.head?_eq_some_iff.1 hquote
      rfl
  have hlimit : roomAt part ≤ 1000 := by
    unfold roomAt
    split <;> decide
  exact ⟨h.trans hlimit, fun hquote => hroom hquote ▸ h⟩

theorem ne_nil_of_parse {s : Selector} (h : parse chunk = .ok s) :
    s.fields ≠ [] ∧ s.values ≠ [] := by
  rw [parse_eq, answerAtFields, answerAfterFields] at h
  split at h
  · cases h
  · rename_i hempty
    rw [answerAtOperator] at h
    split at h
    · cases h
    · cases h
      exact ⟨fun hnil => hempty (List.isEmpty_iff.2 hnil), readValues_ne_nil _⟩

/-- The selector that a cursor has read is well formed. -/
theorem Cursor.At.wellRead {c : Cursor} (h : c.At chunk left)
    (hanswer : c.answer? chunk = some (parse chunk)) {s : Selector} (hs : parse chunk = .ok s) :
    WellRead (trim chunk.toList) c s := by
  rw [hs, Cursor.answer?] at hanswer
  split at hanswer
  · cases hanswer
    obtain ⟨hfields, hvalues⟩ := ne_nil_of_parse hs
    refine ⟨rfl, hfields, ?_, ?_, rfl, hvalues, ?_⟩
    · intro name hname
      obtain ⟨span, hspan, hitem⟩ := List.mem_map.1 hname
      obtain ⟨part, _, hfield⟩ := h.fields span hspan
      exact hfield.name_ne hitem
    · intro span hspan hunquoted
      obtain ⟨run, hcovers, hfield⟩ := h.fields span hspan
      exact ⟨run, hcovers, hfield.of_unquoted hunquoted⟩
    · intro span hspan
      obtain ⟨part, hcovers, hvalue⟩ := h.values span hspan
      exact ⟨part, hcovers, hvalue.length_le⟩
  · cases hanswer
  · cases hanswer

/-- On every text the cursor runs to an end, in a number of steps that is linear in the length of
the text. Its positions are valid all the way and it goes on in every round, the answer is the
selector, and the selector is well formed. -/
theorem exists_run_parse (chunk : String) : ∃ cursors last, Run chunk cursors last (parse chunk) ∧
    cursors.length ≤ 4 * (trimmed chunk).utf8ByteSize + 7 ∧
      (∀ c ∈ cursors, String.Pos.Raw.IsValid (trimmed chunk) ⟨c.pos⟩) ∧
        cursors.Pairwise Cursor.Advances ∧
          ∀ s, parse chunk = .ok s → WellRead (trim chunk.toList) last s := by
  obtain ⟨cursors, last, hhead, hsteps, hlast, hanswer, hat, hforth, hlength⟩ :=
    (Cursor.at_start chunk).exists_run
  refine ⟨cursors, last, ⟨hhead, hsteps, hlast, hanswer⟩, ?_, fun c hc => ?_,
    hforth.pairwise.imp Cursor.Before.advances, fun s hs => ?_⟩
  · rw [trimmed, ← byteLength_eq]
    exact hlength
  · obtain ⟨left, hleft⟩ := hat c hc
    exact hleft.isValid
  · obtain ⟨left, hleft⟩ := hat last (List.mem_of_getLast? hlast)
    exact hleft.wellRead hanswer hs

/-- A quoted field and an unquoted one, and values of both forms. -/
def bothForms : String :=
  String.ofList ['"', 'é', '"', '|', '/', '1', '=', 'x', '|', '\'', 'é', '|', '\'']

/-- The run goes over two characters of two bytes, one as a field and one in a value. -/
theorem exists_run_parse_both_forms : ∃ cursors last,
    Run bothForms cursors last (.ok ⟨[.named "é", .position 1], .equal, ["x", "é|"], bothForms⟩) ∧
      WellRead (trim bothForms.toList) last
        ⟨[.named "é", .position 1], .equal, ["x", "é|"], bothForms⟩ := by
  have htrim : trim bothForms.toList = bothForms.toList := by decide
  have hrun : readFields ['/', '1', '=', 'x', '|', '\'', 'é', '|', '\''] =
      ([.position 1], Operator.equal.symbol ++ ['x', '|', '\'', 'é', '|', '\'']) :=
    readFields_of_run rfl rfl
  have hfields : readFields (trim bothForms.toList) = ([.named "é", .position 1],
      Operator.equal.symbol ++ ['x', '|', '\'', 'é', '|', '\'']) := by
    rw [htrim, bothForms, String.toList_ofList, readFields_of_quoted rfl, dropPipe, hrun]
    rfl
  have hvalues : readValues ['x', '|', '\'', 'é', '|', '\''] = ["x", "é|"] := by
    have hlast : readValue ['\'', 'é', '|', '\''] = (['é', '|'], []) := rfl
    rw [readValues_of_pipe rfl, readValues_of_stop hlast fun _ _ => (List.cons_ne_nil _ _).symm]
  have hparse : parse bothForms =
      .ok ⟨[.named "é", .position 1], .equal, ["x", "é|"], bothForms⟩ := by
    rw [parse_of_readFields hfields (List.cons_ne_nil _ _) ?_, hvalues]
    rintro c ⟨⟩
    decide
  obtain ⟨cursors, last, hrun, _, _, _, hread⟩ := exists_run_parse bothForms
  exact ⟨cursors, last, hparse ▸ hrun, hread _ hparse⟩

end Tabular.Selector
