/-
A cursor reads a selector step by step: it keeps a byte of the text, cuts there what a step reads,
and goes on after it. From between two characters every step finds its cuts between two characters,
never goes back, and leaves the answer that is to come as it was; when it stays at its byte it goes
on to a later stage.
-/
import Tabular.Proofs.Query.Cursor
import Tabular.Proofs.Query.Truncation

namespace Tabular.Selector

open Text

variable {chunk : String} {left part : List Char}

/-! ## The cursor -/

/-- An item and the bytes of the text that it was read from. -/
structure Span (α : Type) where
  start : Nat
  stop : Nat
  item : α

/-- What a cursor does next. -/
inductive Stage where
  /-- Starts a round of the fields: reads a quoted name or else a run of names. -/
  | fields
  /-- Goes over a pipe after a quoted name. -/
  | pipe
  /-- Looks for a quoted name after a run that ends in a pipe. -/
  | quote
  /-- Goes over the blanks before the operator. -/
  | blanks
  /-- Reads the operator. -/
  | operator
  /-- Goes over the blanks before a value. -/
  | gap (op : Operator)
  /-- Reads a value. -/
  | value (op : Operator)
  /-- Starts a round of the values after the first: looks for a pipe with text after it. -/
  | more (op : Operator)
  /-- Has read a selector. -/
  | done (op : Operator)
  /-- Has found no selector. -/
  | refused (error : QueryError)

/-- How far a cursor has read, and what. -/
structure Cursor where
  pos : Nat
  stage : Stage
  fields : List (Span Field)
  values : List (Span String)

namespace Cursor

def start : Cursor :=
  ⟨0, .fields, [], []⟩

/-- Goes over some bytes, from which items were read. -/
def advance (c : Cursor) (bytes : Nat) (stage : Stage) (fields : List Field)
    (values : List String) : Cursor where
  pos := c.pos + bytes
  stage := stage
  fields := c.fields ++ fields.map (Span.mk c.pos (c.pos + bytes))
  values := c.values ++ values.map (Span.mk c.pos (c.pos + bytes))

/-- The cursor after what it does next with the text that is left. -/
def next? (chunk : String) (left : List Char) (c : Cursor) : Option Cursor :=
  match c.stage with
  | .fields => do
    match ← cutQuotedName? left with
    | some (body, bytes) =>
      pure (c.advance bytes .pipe [.named (String.ofList (unescapeQuotes body))] [])
    | none =>
      let (run, bytes) ← cutNameRun? left
      let stage := if run.getLast? = some '|' then .quote else .blanks
      pure (c.advance bytes stage (fieldsOf run) [])
  | .pipe => pure (c.advance (if left.head? = some '|' then 1 else 0) .fields [] [])
  | .quote => pure (c.advance 0 (if left.head? = some '"' then .fields else .blanks) [] [])
  | .blanks =>
    if c.fields.isEmpty then pure (c.advance 0 (.refused (.missingField chunk)) [] [])
    else pure (c.advance (blankBytes left) .operator [] [])
  | .operator => do
    let bytes := operatorBytes left
    let (symbol, _) ← cutAt? bytes left
    match Operator.ofSymbol? symbol with
    | none =>
      pure (c.advance bytes (.refused (.invalidOperator chunk (String.ofList symbol))) [] [])
    | some op => pure (c.advance bytes (.gap op) [] [])
  | .gap op => pure (c.advance (blankBytes left) (.value op) [] [])
  | .value op =>
    let read := valueAt left
    pure (c.advance read.2 (.more op) [] [String.ofList read.1])
  | .more op =>
    if 1 < byteLength left ∧ left.head? = some '|' then pure (c.advance 1 (.gap op) [] [])
    else pure (c.advance 0 (.done op) [] [])
  | .done _ | .refused _ => none

/-- One step, unless it would cut the text past its end or inside a character. -/
def step (chunk : String) (c : Cursor) : Option Cursor := do
  let (_, left) ← cutAt? c.pos (trim chunk.toList)
  c.next? chunk left

/-- What a cursor answers that has no more steps. -/
def answer? (chunk : String) (c : Cursor) : Option (Except QueryError Selector) :=
  match c.stage with
  | .done op => some (.ok ⟨c.fields.map Span.item, op, c.values.map Span.item, chunk⟩)
  | .refused error => some (.error error)
  | _ => none

end Cursor

/-! ## What is expected of a cursor -/

/-- The values after a value. -/
def moreValues : List Char → List String
  | '|' :: c :: cs => readValues (c :: cs)
  | _ => []

theorem readValues_eq (cs : List Char) :
    readValues cs = String.ofList (readValue cs).1 :: moreValues (readValue cs).2 := by
  obtain ⟨value, rest, hread⟩ : ∃ value rest, readValue cs = (value, rest) := ⟨_, _, rfl⟩
  rw [hread]
  by_cases hmore : ∃ c tail, rest = '|' :: c :: tail
  · obtain ⟨c, tail, rfl⟩ := hmore
    exact readValues_of_pipe hread
  · have hrest : ∀ c tail, rest ≠ '|' :: c :: tail := fun c tail h => hmore ⟨c, tail, h⟩
    rw [readValues_of_stop hread hrest, moreValues.eq_2 _ hrest]

theorem readValues_trimStart (cs : List Char) : readValues (trimStart cs) = readValues cs := by
  have hread : readValue (trimStart cs) = readValue cs := by
    rw [readValue, readValue, trimStart_trimStart]
  rw [readValues_eq, hread, ← readValues_eq]

/-- The answer that is to come when the operator is next, after some fields and values. -/
def answerAtOperator (chunk : String) (fields : List Field) (values : List String)
    (left : List Char) : Except QueryError Selector :=
  match Operator.ofSymbol? (operatorRun left) with
  | none => .error (.invalidOperator chunk (String.ofList (operatorRun left)))
  | some op =>
    .ok ⟨fields, op, values ++ readValues (left.drop (operatorRun left).length), chunk⟩

/-- The answer that is to come when all fields are read. -/
def answerAfterFields (chunk : String) (fields : List Field) (values : List String)
    (left : List Char) : Except QueryError Selector :=
  if fields.isEmpty then .error (.missingField chunk)
  else answerAtOperator chunk fields values (trimStart left)

/-- The answer that is to come when more fields may follow. -/
def answerAtFields (chunk : String) (fields : List Field) (values : List String)
    (left : List Char) : Except QueryError Selector :=
  answerAfterFields chunk (fields ++ (readFields left).1) values (readFields left).2

/-- The answer that is to come at a stage, after some fields and values. -/
def Stage.expected (chunk : String) (fields : List Field) (values : List String)
    (left : List Char) : Stage → Except QueryError Selector
  | .fields => answerAtFields chunk fields values left
  | .pipe => answerAtFields chunk fields values (dropPipe left)
  | .quote =>
    if left.head? = some '"' then answerAtFields chunk fields values left
    else answerAfterFields chunk fields values left
  | .blanks => answerAfterFields chunk fields values left
  | .operator => answerAtOperator chunk fields values left
  | .gap op | .value op => .ok ⟨fields, op, values ++ readValues left, chunk⟩
  | .more op => .ok ⟨fields, op, values ++ moreValues left, chunk⟩
  | .done op => .ok ⟨fields, op, values, chunk⟩
  | .refused error => .error error

theorem parse_eq (chunk : String) :
    parse chunk = answerAtFields chunk [] [] (trim chunk.toList) := rfl

/-- The stages by how much of a round is left. Every step that stays at its byte goes to a lower
rank, and no step to one that is higher by four or more. -/
def Stage.rank : Stage → Nat
  | .pipe | .quote => 7
  | .fields => 6
  | .blanks => 5
  | .operator => 4
  | .gap _ => 3
  | .value _ => 2
  | .more _ => 1
  | .done _ | .refused _ => 0

/-- What a stage needs of the text that is left: a value is read from where its blanks end. -/
def Stage.Ready (left : List Char) : Stage → Prop
  | .value _ => trimStart left = left
  | _ => True

/-- The bytes of a part of a text. -/
def Span.Covers {α : Type} (text : List Char) (span : Span α) (part : List Char) : Prop :=
  ∃ before after, text = before ++ (part ++ after) ∧ span.start = byteLength before ∧
    span.stop = byteLength (before ++ part)

/-- A field and the part of a text that it was read from: a quoted name, or a run of names in which
there is no quote. -/
inductive FieldIn : List Char → Field → Prop
  | quoted {body : List Char} : body ≠ [] →
      FieldIn ('"' :: (body ++ ['"'])) (.named (String.ofList (unescapeQuotes body)))
  | unquoted {run name : List Char} : '"' ∉ run → name ∈ splitNames [] run →
      FieldIn run (Field.ofName name)

/-- A value and the part of a text that it was read from. -/
def ValueIn (part : List Char) (value : String) : Prop :=
  value.length ≤ roomAt part

namespace Cursor

/-- A cursor between two characters, with what was read before and what is still to be read. -/
structure At (chunk : String) (left : List Char) (c : Cursor) : Prop where
  cut : ∃ past, trim chunk.toList = past ++ left ∧ c.pos = byteLength past
  fields : ∀ span ∈ c.fields, ∃ part, span.Covers (trim chunk.toList) part ∧ FieldIn part span.item
  values : ∀ span ∈ c.values, ∃ part, span.Covers (trim chunk.toList) part ∧ ValueIn part span.item
  ready : c.stage.Ready left
  expected : c.stage.expected chunk (c.fields.map Span.item) (c.values.map Span.item) left =
    parse chunk

/-- A cursor has gone on to another one: it has not gone back, and if it has not moved then its
stage is a later one. -/
structure Before (c d : Cursor) : Prop where
  pos_le : c.pos ≤ d.pos
  rank_lt : 4 * c.pos + d.stage.rank < 4 * d.pos + c.stage.rank

/-- A cursor makes a step. -/
def Proceeds (chunk : String) (c : Cursor) : Prop :=
  ∃ d left, c.step chunk = some d ∧ At chunk left d ∧ c.Before d

variable {c : Cursor}

theorem at_start (chunk : String) : At chunk (trim chunk.toList) start where
  cut := ⟨[], rfl, rfl⟩
  fields := nofun
  values := nofun
  ready := trivial
  expected := rfl

/-! ## One step -/

theorem map_item_append {α : Type} (spans : List (Span α)) (items : List α) (start stop : Nat) :
    (spans ++ items.map (Span.mk start stop)).map Span.item = spans.map Span.item ++ items := by
  rw [List.map_append, List.map_map]
  exact congrArg _ (List.map_id items)

/-- The parts that are read after some others are parts of the same text. -/
theorem At.covers_advance {α : Type} {P : List Char → α → Prop} (h : c.At chunk (part ++ left))
    {spans : List (Span α)} {items : List α}
    (hspans : ∀ span ∈ spans, ∃ part, span.Covers (trim chunk.toList) part ∧ P part span.item)
    (hitems : ∀ item ∈ items, P part item) :
    ∀ span ∈ spans ++ items.map (Span.mk c.pos (c.pos + byteLength part)),
      ∃ part, span.Covers (trim chunk.toList) part ∧ P part span.item := by
  obtain ⟨past, htext, hpos⟩ := h.cut
  intro span hspan
  rcases List.mem_append.1 hspan with hspan | hspan
  · exact hspans span hspan
  · obtain ⟨item, hitem, rfl⟩ := List.mem_map.1 hspan
    refine ⟨part, ⟨past, left, htext, hpos, ?_⟩, hitems item hitem⟩
    rw [byteLength_append, ← hpos]

/-- A step that goes over a part of the text, from which it reads items, and leaves the answer that
is to come as it was. -/
theorem At.proceeds (part : List Char) (stage : Stage) (fields : List Field) (values : List String)
    (h : c.At chunk (part ++ left))
    (hnext : c.next? chunk (part ++ left) = some (c.advance (byteLength part) stage fields values))
    (hfields : ∀ f ∈ fields, FieldIn part f) (hvalues : ∀ v ∈ values, ValueIn part v)
    (hready : stage.Ready left) (hrank : stage.rank < 4 * byteLength part + c.stage.rank)
    (hexpected : stage.expected chunk (c.fields.map Span.item ++ fields)
        (c.values.map Span.item ++ values) left =
      c.stage.expected chunk (c.fields.map Span.item) (c.values.map Span.item) (part ++ left)) :
    c.Proceeds chunk := by
  obtain ⟨past, htext, hpos⟩ := h.cut
  have hcut : cutAt? c.pos (trim chunk.toList) = some (past, part ++ left) :=
    cutAt?_eq_some_iff.2 ⟨htext, hpos⟩
  refine ⟨c.advance (byteLength part) stage fields values, left, ?_,
    ⟨⟨past ++ part, ?_, ?_⟩, h.covers_advance h.fields hfields, h.covers_advance h.values hvalues,
      hready, ?_⟩, ⟨Nat.le_add_right _ _, ?_⟩⟩
  · rw [step, hcut]
    exact hnext
  · rw [htext, List.append_assoc]
  · rw [byteLength_append, ← hpos]
    rfl
  · rw [← h.expected, ← hexpected, advance, map_item_append, map_item_append]
  · show 4 * c.pos + stage.rank < 4 * (c.pos + byteLength part) + c.stage.rank
    omega

/-- Steps that read no items. -/
theorem At.proceeds_over (part : List Char) (stage : Stage) (h : c.At chunk (part ++ left))
    (hnext : c.next? chunk (part ++ left) = some (c.advance (byteLength part) stage [] []))
    (hready : stage.Ready left) (hrank : stage.rank < 4 * byteLength part + c.stage.rank)
    (hexpected : stage.expected chunk (c.fields.map Span.item) (c.values.map Span.item) left =
      c.stage.expected chunk (c.fields.map Span.item) (c.values.map Span.item) (part ++ left)) :
    c.Proceeds chunk := by
  refine h.proceeds part stage [] [] hnext (List.forall_mem_nil _) (List.forall_mem_nil _) hready
    hrank ?_
  rw [List.append_nil, List.append_nil]
  exact hexpected

/-- A round of the fields that reads a quoted name. -/
theorem At.proceeds_quotedName {body rest : List Char} (h : c.At chunk left)
    (hs : c.stage = .fields) (hq : quotedName? left = some (body, rest)) : c.Proceeds chunk := by
  obtain ⟨hleft, hbody⟩ := eq_of_quotedName? hq
  have hpart : left = ('"' :: (body ++ ['"'])) ++ rest := by
    rw [hleft]
    simp
  have hbytes : byteLength ('"' :: (body ++ ['"'])) = byteLength body + 2 := by
    rw [byteLength_cons, byteLength_append]
    show 1 + (byteLength body + 1) = byteLength body + 2
    omega
  have hcut := cutQuotedName?_eq left
  have hread := readFields_of_quoted hq
  rw [hq] at hcut
  rw [hpart] at h hcut hread
  refine h.proceeds _ .pipe _ [] ?_ (List.forall_mem_singleton.2 (.quoted hbody))
    (List.forall_mem_nil _) trivial ?_ ?_
  · simp only [next?, hs, hcut, hbytes]
    rfl
  · rw [hs, hbytes]
    simp only [Stage.rank]
    omega
  · rw [hs, Stage.expected, Stage.expected, answerAtFields, answerAtFields, hread,
      List.append_assoc, List.append_nil]
    rfl

/-- A round of the fields that reads a run of names, which may be empty. -/
theorem At.proceeds_nameRun (h : c.At chunk left) (hs : c.stage = .fields)
    (hq : quotedName? left = none) : c.Proceeds chunk := by
  obtain ⟨run, rest, hrun⟩ : ∃ run rest, nameRun left = (run, rest) := ⟨_, _, rfl⟩
  have hpart := nameRun_append left
  have hquote := quote_not_mem_nameRun left
  have hcut := cutQuotedName?_eq left
  have hcutRun := cutNameRun?_eq left
  have hread := readFields_of_run hq hrun
  rw [hq] at hcut
  simp only [hrun] at hpart hquote hcutRun
  subst hpart
  refine h.proceeds run (if run.getLast? = some '|' then .quote else .blanks) (fieldsOf run) []
    ?_ ?_ (List.forall_mem_nil _) ?_ ?_ ?_
  · simp only [next?, hs, hcut, hcutRun]
    rfl
  · intro f hf
    obtain ⟨name, hname, rfl⟩ := List.mem_map.1 hf
    exact .unquoted hquote hname
  · split <;> trivial
  · rw [hs]
    split
    · -- a run that ends in a pipe is not empty, so there is no other round at this byte
      rename_i hpipe
      have hpos : byteLength run ≠ 0 := by
        rw [Ne, byteLength_eq_zero_iff]
        rintro rfl
        cases hpipe
      simp only [Stage.rank]
      omega
    · simp only [Stage.rank]
      omega
  · rw [hs, Stage.expected, answerAtFields, hread, List.append_nil]
    by_cases hpipe : run.getLast? = some '|'
    · by_cases hnext : rest.head? = some '"'
      · rw [if_pos hpipe, if_pos ⟨hpipe, hnext⟩, Stage.expected, if_pos hnext, answerAtFields,
          List.append_assoc]
        rfl
      · rw [if_pos hpipe, if_neg fun h => hnext h.2, Stage.expected, if_neg hnext]
        rfl
    · rw [if_neg hpipe, if_neg fun h => hpipe h.1]
      rfl

theorem At.proceeds_fields (h : c.At chunk left) (hs : c.stage = .fields) : c.Proceeds chunk := by
  cases hq : quotedName? left with
  | some parts => exact h.proceeds_quotedName hs hq
  | none => exact h.proceeds_nameRun hs hq

theorem At.proceeds_pipe (h : c.At chunk left) (hs : c.stage = .pipe) : c.Proceeds chunk := by
  by_cases hpipe : left.head? = some '|'
  · obtain ⟨rest, rfl⟩ := List.head?_eq_some_iff.1 hpipe
    refine h.proceeds_over ['|'] .fields ?_ trivial ?_ ?_
    · rw [next?, hs]
      rfl
    · rw [hs]
      decide
    · rw [hs]
      rfl
  · refine h.proceeds_over [] .fields ?_ trivial ?_ ?_
    · simp only [next?, hs, List.nil_append, if_neg hpipe]
      rfl
    · rw [hs]
      decide
    · rw [hs, List.nil_append, Stage.expected, Stage.expected, dropPipe.eq_2]
      rintro rest rfl
      exact hpipe rfl

theorem At.proceeds_quote (h : c.At chunk left) (hs : c.stage = .quote) : c.Proceeds chunk := by
  by_cases hquote : left.head? = some '"'
  · refine h.proceeds_over [] .fields ?_ trivial ?_ ?_
    · simp only [next?, hs, List.nil_append, if_pos hquote]
      rfl
    · rw [hs]
      decide
    · rw [hs, List.nil_append, Stage.expected, Stage.expected, if_pos hquote]
  · refine h.proceeds_over [] .blanks ?_ trivial ?_ ?_
    · simp only [next?, hs, List.nil_append, if_neg hquote]
      rfl
    · rw [hs]
      decide
    · rw [hs, List.nil_append, Stage.expected, Stage.expected, if_neg hquote]

theorem At.proceeds_blanks (h : c.At chunk left) (hs : c.stage = .blanks) : c.Proceeds chunk := by
  by_cases hempty : c.fields.isEmpty = true
  · refine h.proceeds_over [] (.refused (.missingField chunk)) ?_ trivial ?_ ?_
    · simp only [next?, hs, if_pos hempty]
      rfl
    · rw [hs]
      exact Nat.zero_lt_succ _
    · rw [hs, Stage.expected, Stage.expected, answerAfterFields, List.isEmpty_map, if_pos hempty]
  · obtain ⟨blanks, hblanks, hbytes⟩ := exists_blanks left
    have hexpected : ∀ values, answerAtOperator chunk (c.fields.map Span.item) values
        (trimStart left) = answerAfterFields chunk (c.fields.map Span.item) values left := by
      intro values
      rw [answerAfterFields, List.isEmpty_map, if_neg hempty]
    have hnext : c.next? chunk left = some (c.advance (byteLength blanks) .operator [] []) := by
      simp only [next?, hs, if_neg hempty, hbytes]
      rfl
    rw [hblanks] at h hnext
    refine h.proceeds_over blanks .operator hnext trivial ?_ ?_
    · rw [hs]
      simp only [Stage.rank]
      omega
    · rw [hs, ← hblanks]
      exact hexpected _

theorem At.proceeds_operator (h : c.At chunk left) (hs : c.stage = .operator) :
    c.Proceeds chunk := by
  obtain ⟨rest, hrest⟩ := operatorRun_isPrefix left
  have hcut : cutAt? (byteLength (operatorRun left)) left = some (operatorRun left, rest) :=
    cutAt?_eq_some_iff.2 ⟨hrest.symm, rfl⟩
  have hdrop : left.drop (operatorRun left).length = rest := by
    have hleft : (operatorRun left ++ rest).drop (operatorRun left).length = rest :=
      List.drop_left
    rwa [hrest] at hleft
  obtain ⟨stage, hnext, hready, hrank, hexpected⟩ : ∃ stage : Stage,
      c.next? chunk left = some (c.advance (byteLength (operatorRun left)) stage [] []) ∧
        stage.Ready rest ∧ stage.rank ≤ 3 ∧ ∀ fields values,
          stage.expected chunk fields values rest = answerAtOperator chunk fields values left := by
    simp only [next?, hs, operatorBytes_eq, hcut, Option.bind_eq_bind, Option.bind_some,
      answerAtOperator, hdrop]
    cases Operator.ofSymbol? (operatorRun left) with
    | none => exact ⟨_, rfl, trivial, Nat.zero_le 3, fun _ _ => rfl⟩
    | some op => exact ⟨_, rfl, trivial, Nat.le_refl 3, fun _ _ => rfl⟩
  rw [← hrest] at h
  refine h.proceeds_over _ stage (by rwa [hrest]) hready ?_ ?_
  · rw [hs]
    exact Nat.lt_of_le_of_lt hrank (Nat.lt_of_lt_of_le (by decide) (Nat.le_add_left 4 _))
  · rw [hs, hrest]
    exact hexpected _ _

theorem At.proceeds_gap {op : Operator} (h : c.At chunk left) (hs : c.stage = .gap op) :
    c.Proceeds chunk := by
  obtain ⟨blanks, hblanks, hbytes⟩ := exists_blanks left
  have hnext : c.next? chunk left = some (c.advance (byteLength blanks) (.value op) [] []) := by
    simp only [next?, hs, hbytes]
    rfl
  rw [hblanks] at h hnext
  refine h.proceeds_over blanks (.value op) hnext (trimStart_trimStart left) ?_ ?_
  · rw [hs]
    simp only [Stage.rank]
    omega
  · rw [hs, ← hblanks, Stage.expected, Stage.expected, readValues_trimStart]

theorem At.proceeds_value {op : Operator} (h : c.At chunk left) (hs : c.stage = .value op) :
    c.Proceeds chunk := by
  have hready := h.ready
  rw [hs] at hready
  obtain ⟨part, hpart, hvalue, hquote⟩ := exists_valueAt hready
  have hroom : ValueIn part (String.ofList (readValue left).1) := by
    rw [ValueIn, String.length_ofList, roomAt, hquote]
    exact length_readValue_le_roomAt hready
  have hnext : c.next? chunk left = some
      (c.advance (byteLength part) (.more op) [] [String.ofList (readValue left).1]) := by
    simp only [next?, hs, hvalue]
    rfl
  have hread := readValues_eq left
  generalize (readValue left).2 = rest at hpart hread
  rw [hpart] at h hnext
  refine h.proceeds part (.more op) [] _ hnext (List.forall_mem_nil _)
    (List.forall_mem_singleton.2 ?_) trivial ?_ ?_
  · rwa [← hpart]
  · rw [hs]
    simp only [Stage.rank]
    omega
  · rw [hs, ← hpart, Stage.expected, Stage.expected, hread, List.append_nil, List.append_assoc]
    rfl

theorem At.proceeds_more {op : Operator} (h : c.At chunk left) (hs : c.stage = .more op) :
    c.Proceeds chunk := by
  by_cases hmore : ∃ d tail, left = '|' :: d :: tail
  · obtain ⟨d, tail, rfl⟩ := hmore
    have hlength : 1 < byteLength ('|' :: d :: tail) := by
      have hpos := d.utf8Size_pos
      show 1 < 1 + (d.utf8Size + byteLength tail)
      omega
    refine h.proceeds_over ['|'] (.gap op) ?_ trivial ?_ ?_
    · rw [next?, hs]
      exact if_pos ⟨hlength, rfl⟩
    · rw [hs]
      exact (by decide : 3 < 4 * 1 + 1)
    · rw [hs]
      rfl
  · have hstop : ¬ (1 < byteLength left ∧ left.head? = some '|') := by
      rintro ⟨hlength, hpipe⟩
      obtain ⟨_ | ⟨d, tail⟩, rfl⟩ := List.head?_eq_some_iff.1 hpipe
      · exact Nat.lt_irrefl 1 hlength
      · exact hmore ⟨d, tail, rfl⟩
    refine h.proceeds_over [] (.done op) ?_ trivial ?_ ?_
    · simp only [next?, hs, List.nil_append, if_neg hstop]
      rfl
    · rw [hs]
      exact Nat.zero_lt_one
    · rw [hs, Stage.expected, Stage.expected, List.nil_append,
        moreValues.eq_2 _ fun d tail h => hmore ⟨d, tail, h⟩, List.append_nil]

/-- Between two characters a cursor makes a step, unless it has the answer. -/
theorem At.proceeds_or_answers (h : c.At chunk left) :
    c.Proceeds chunk ∨ c.answer? chunk = some (parse chunk) := by
  cases hs : c.stage with
  | fields => exact .inl (h.proceeds_fields hs)
  | pipe => exact .inl (h.proceeds_pipe hs)
  | quote => exact .inl (h.proceeds_quote hs)
  | blanks => exact .inl (h.proceeds_blanks hs)
  | operator => exact .inl (h.proceeds_operator hs)
  | gap op => exact .inl (h.proceeds_gap hs)
  | value op => exact .inl (h.proceeds_value hs)
  | more op => exact .inl (h.proceeds_more hs)
  | done op | refused error =>
    have hexpected := h.expected
    rw [hs] at hexpected
    rw [answer?, hs, ← hexpected]
    exact .inr rfl

end Cursor

end Tabular.Selector
