/-
Selectors, the clauses of a query: fields, an operator and values. Fields and values are joined
by pipes, and either may be quoted. A reader of each part takes the characters it recognises and
leaves the rest; what is left after the last value is dropped.
-/
import Tabular.Query.Error
import Tabular.Query.Operator

namespace Tabular

/-! ## Fields -/

/-- Where a selector finds the cell that it tests. -/
inductive Field where
  /-- The key of the line itself. -/
  | key
  /-- The label of the line itself. -/
  | label
  /-- The cell at a position. -/
  | position (n : Nat)
  /-- The cell under a label of the cross axis. -/
  | named (name : String)
  deriving DecidableEq

namespace Field

/-- The number of positions that can be written. -/
def positionLimit : Nat :=
  UInt64.size

/-- The field that an unquoted name stands for. -/
def ofName (name : List Char) : Field :=
  match name with
  | ['/'] => .key
  | ['/', '/'] => .label
  | '/' :: digits =>
    if !digits.isEmpty && digits.all Char.isDigit && Text.digitsValue digits < positionLimit then
      .position (Text.digitsValue digits)
    else .named (String.ofList name)
  | _ => .named (String.ofList name)

/-- The name of a field as messages write it. -/
def name : Field → String
  | .key => "/"
  | .label => "//"
  | .position n => "/" ++ toString n
  | .named s => s

end Field

/-- A clause of a query. A line satisfies it when some field satisfies the operator with some
value. -/
structure Selector where
  fields : List Field
  operator : Operator
  values : List String
  source : String
  deriving DecidableEq

namespace Selector

/-! ## Reading fields -/

def isFieldChar (c : Char) : Bool :=
  c.isAlphanum || c == '_' || c == '|' || c == '.' || c == '/'

/-- Splits a text at its first quote that does not follow a backslash, from the character before. -/
def splitAtQuote (previous : Char) : List Char → Option (List Char × List Char)
  | [] => none
  | c :: cs =>
    if c = '"' ∧ previous ≠ '\\' then some ([], cs)
    else (splitAtQuote c cs).map fun (body, rest) => (c :: body, rest)

/-- A quoted name with at least one character inside, as written, and the rest. -/
def quotedName? : List Char → Option (List Char × List Char)
  | '"' :: c :: cs => (splitAtQuote c cs).map fun (body, rest) => (c :: body, rest)
  | _ => none

/-- Takes the backslash away before every quote. -/
def unescapeQuotes : List Char → List Char
  | '\\' :: '"' :: cs => '"' :: unescapeQuotes cs
  | c :: cs => c :: unescapeQuotes cs
  | [] => []

/-- The leading run of field characters, which an exclamation mark may start, and the rest. -/
def nameRun (cs : List Char) : List Char × List Char :=
  match cs with
  | '!' :: tail =>
    match tail.takeWhile isFieldChar with
    | [] => ([], cs)
    | run => ('!' :: run, tail.dropWhile isFieldChar)
  | _ => (cs.takeWhile isFieldChar, cs.dropWhile isFieldChar)

/-- The names in a run, from the characters of the current name on, the last character first.
Empty names are left out. -/
def splitNames (current : List Char) : List Char → List (List Char)
  | [] => if current.isEmpty then [] else [current.reverse]
  | c :: cs =>
    if c = '|' then (if current.isEmpty then [] else [current.reverse]) ++ splitNames [] cs
    else splitNames (c :: current) cs

def dropPipe : List Char → List Char
  | '|' :: cs => cs
  | cs => cs

theorem length_splitAtQuote {previous : Char} {cs body rest : List Char}
    (h : splitAtQuote previous cs = some (body, rest)) :
    cs.length = body.length + rest.length + 1 := by
  induction cs generalizing previous body with
  | nil => simp [splitAtQuote] at h
  | cons c cs ih =>
    unfold splitAtQuote at h
    split at h
    · cases h; simp
    · obtain ⟨⟨b, r⟩, hs, he⟩ := Option.map_eq_some_iff.1 h
      cases he
      have := ih hs
      simp only [List.length_cons]; omega

theorem length_quotedName {cs body rest : List Char} (h : quotedName? cs = some (body, rest)) :
    rest.length < cs.length := by
  unfold quotedName? at h
  split at h
  · obtain ⟨⟨b, r⟩, hs, he⟩ := Option.map_eq_some_iff.1 h
    cases he
    have := length_splitAtQuote hs
    simp only [List.length_cons]; omega
  · cases h

theorem nameRun_append (cs : List Char) : (nameRun cs).1 ++ (nameRun cs).2 = cs := by
  unfold nameRun
  split
  · split
    · rfl
    · simp [List.takeWhile_append_dropWhile]
  · simp [List.takeWhile_append_dropWhile]

theorem length_nameRun {cs : List Char} (h : (nameRun cs).1 ≠ []) :
    (nameRun cs).2.length < cs.length := by
  have happ := congrArg List.length (nameRun_append cs)
  have hpos := List.length_pos_iff.2 h
  simp only [List.length_append] at happ
  omega

theorem length_dropPipe_le (cs : List Char) : (dropPipe cs).length ≤ cs.length := by
  unfold dropPipe
  split <;> simp

/-- Reads the fields and leaves the rest. A quoted name may be followed by a pipe and more fields;
a run of names goes on only when a pipe ends it and a quoted name follows. -/
def readFields (cs : List Char) : List Field × List Char :=
  match hq : quotedName? cs with
  | some (body, rest) =>
    have : (dropPipe rest).length < cs.length :=
      Nat.lt_of_le_of_lt (length_dropPipe_le rest) (length_quotedName hq)
    let (more, left) := readFields (dropPipe rest)
    (.named (String.ofList (unescapeQuotes body)) :: more, left)
  | none =>
    let fields := (splitNames [] (nameRun cs).1).map Field.ofName
    if h : (nameRun cs).1.getLast? = some '|' ∧ (nameRun cs).2.head? = some '"' then
      have : (nameRun cs).2.length < cs.length :=
        length_nameRun (by intro hn; simp [hn] at h)
      let (more, left) := readFields (nameRun cs).2
      (fields ++ more, left)
    else (fields, (nameRun cs).2)
termination_by cs.length

/-! ## Reading the operator -/

/-- The leading characters that can belong to an operator symbol. -/
def operatorRun (cs : List Char) : List Char :=
  (cs.take Operator.maxSymbolLength).takeWhile Operator.isSymbolChar

/-! ## Reading values -/

/-- The number of characters that a value is read for, an opening quote included. -/
def maxValueLength : Nat :=
  1000

/-- Reads an unquoted value of at most `limit` characters up to a pipe. A backslash before a pipe
makes the pipe part of the value. -/
def bareValue : Nat → List Char → List Char × List Char
  | limit + 2, '\\' :: '|' :: cs =>
    let (value, rest) := bareValue limit cs
    ('|' :: value, rest)
  | limit + 1, c :: cs =>
    if c = '|' then ([], c :: cs)
    else
      let (value, rest) := bareValue limit cs
      (c :: value, rest)
  | _, cs => ([], cs)

/-- Reads a value of at most `limit` characters up to a closing quote, which is dropped. A
backslash before a quote of the same kind makes the quote part of the value. -/
def quotedValue (quote : Char) : Nat → List Char → List Char × List Char
  | limit + 2, '\\' :: c :: cs =>
    if c = quote then
      let (value, rest) := quotedValue quote limit cs
      (c :: value, rest)
    else
      let (value, rest) := quotedValue quote (limit + 1) (c :: cs)
      ('\\' :: value, rest)
  | limit + 1, c :: cs =>
    if c = quote then ([], cs)
    else
      let (value, rest) := quotedValue quote limit cs
      (c :: value, rest)
  | _, cs => ([], cs)

/-- Reads a value after any blanks before it. -/
def readValue (cs : List Char) : List Char × List Char :=
  match Text.trimStart cs with
  | '"' :: body => quotedValue '"' (maxValueLength - 1) body
  | '\'' :: body => quotedValue '\'' (maxValueLength - 1) body
  | body => bareValue maxValueLength body

theorem length_bareValue_le (limit : Nat) (cs : List Char) :
    (bareValue limit cs).2.length ≤ cs.length := by
  fun_induction bareValue limit cs <;> simp_all <;> omega

theorem length_quotedValue_le (quote : Char) (limit : Nat) (cs : List Char) :
    (quotedValue quote limit cs).2.length ≤ cs.length := by
  fun_induction quotedValue quote limit cs <;> simp_all <;> omega

theorem length_readValue_le (cs : List Char) : (readValue cs).2.length ≤ cs.length := by
  have ht := Text.length_trimStart_le cs
  unfold readValue
  split
  · rename_i body hb
    have := length_quotedValue_le '"' (maxValueLength - 1) body
    rw [hb] at ht
    simp only [List.length_cons] at ht
    omega
  · rename_i body hb
    have := length_quotedValue_le '\'' (maxValueLength - 1) body
    rw [hb] at ht
    simp only [List.length_cons] at ht
    omega
  · exact Nat.le_trans (length_bareValue_le _ _) ht

/-- Reads one value, and one more for every pipe that has text after it. -/
def readValues (cs : List Char) : List String :=
  match h : readValue cs with
  | (value, '|' :: c :: rest) =>
    have : (c :: rest).length < cs.length := by
      have hle := length_readValue_le cs
      rw [h] at hle
      exact hle
    String.ofList value :: readValues (c :: rest)
  | (value, _) => [String.ofList value]
termination_by cs.length

/-! ## The whole selector -/

/-- Reads a selector. -/
def parse (chunk : String) : Except QueryError Selector :=
  let (fields, afterFields) := readFields (Text.trim chunk.toList)
  if fields.isEmpty then .error (.missingField chunk)
  else
    let body := Text.trimStart afterFields
    let symbol := operatorRun body
    match Operator.ofSymbol? symbol with
    | none => .error (.invalidOperator chunk (String.ofList symbol))
    | some op => .ok ⟨fields, op, readValues (body.drop symbol.length), chunk⟩

end Selector

end Tabular
