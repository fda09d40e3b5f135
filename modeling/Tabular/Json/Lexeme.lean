/-
The lexemes of a JSON text. A lexical fault ends the list with a lexeme of its own, so that what
stands before it can still be used. Strings whose escapes pair no surrogates have no content, and
numbers keep their parts; whether that matters is for the reader to say.
-/
import Tabular.Json.Numeral

namespace Tabular.Json

inductive Lexeme where
  | openArray
  | closeArray
  | openObject
  | closeObject
  | comma
  | colon
  | null
  | bool (value : Bool)
  | number (text : NumberText)
  | string (content : Option (List Char))
  | fault
  deriving DecidableEq

namespace Lexeme

def isBlank (c : Char) : Bool :=
  c == ' ' || c == '\n' || c == '\t' || c == '\r'

/-! ## Strings -/

def hexValue? (c : Char) : Option Nat :=
  if '0' ≤ c ∧ c ≤ '9' then some (c.toNat - '0'.toNat)
  else if 'a' ≤ c ∧ c ≤ 'f' then some (c.toNat - 'a'.toNat + 10)
  else if 'A' ≤ c ∧ c ≤ 'F' then some (c.toNat - 'A'.toNat + 10)
  else none

/-- Four hexadecimal digits and the rest. -/
def unit? : List Char → Option (Nat × List Char)
  | a :: b :: c :: d :: rest => do
    let a ← hexValue? a
    let b ← hexValue? b
    let c ← hexValue? c
    let d ← hexValue? d
    pure (((a * 16 + b) * 16 + c) * 16 + d, rest)
  | _ => none

def isHighSurrogate (u : Nat) : Bool :=
  0xD800 ≤ u && u ≤ 0xDBFF

def isLowSurrogate (u : Nat) : Bool :=
  0xDC00 ≤ u && u ≤ 0xDFFF

/-- The character of a surrogate pair. -/
def pairChar (high low : Nat) : Char :=
  Char.ofNat (0x10000 + (high - 0xD800) * 0x400 + (low - 0xDC00))

/-- The character of a numeric escape and the rest after it. A surrogate without a partner has
none and leaves what follows untouched. -/
def escapedUnit? (cs : List Char) : Option (Option Char × List Char) :=
  match unit? cs with
  | none => none
  | some (u, rest) =>
    if isLowSurrogate u then some (none, rest)
    else if isHighSurrogate u then
      match rest with
      | '\\' :: 'u' :: next =>
        match unit? next with
        | some (v, after) =>
          if isLowSurrogate v then some (some (pairChar u v), after) else some (none, rest)
        | none => some (none, rest)
      | _ => some (none, rest)
    else some (some (Char.ofNat u), rest)

/-- The character that a one-letter escape stands for. -/
def escapedLetter? (c : Char) : Option Char :=
  if c = '"' ∨ c = '\\' ∨ c = '/' then some c
  else if c = 'b' then some '\x08'
  else if c = 'f' then some '\x0c'
  else if c = 'n' then some '\n'
  else if c = 'r' then some '\r'
  else if c = 't' then some '\t'
  else none

/-- One character of a string, possibly escaped, and the rest after it. -/
def stringChar? : List Char → Option (Option Char × List Char)
  | '\\' :: 'u' :: rest => escapedUnit? rest
  | '\\' :: c :: rest => (escapedLetter? c).map fun d => (some d, rest)
  | ['\\'] => none
  | c :: rest => if c.toNat < 0x20 then none else some (some c, rest)
  | [] => none

theorem length_unit {cs rest : List Char} {u : Nat} (h : unit? cs = some (u, rest)) :
    rest.length < cs.length := by
  unfold unit? at h
  split at h
  · simp only [Option.bind_eq_bind, Option.bind_eq_some_iff, Option.pure_def, Option.some.injEq,
      Prod.mk.injEq] at h
    obtain ⟨_, _, _, _, _, _, _, _, _, rfl⟩ := h
    simp only [List.length_cons]; omega
  · cases h

theorem length_escapedUnit {cs rest : List Char} {d : Option Char}
    (h : escapedUnit? cs = some (d, rest)) : rest.length < cs.length := by
  unfold escapedUnit? at h
  split at h
  · cases h
  · rename_i u next hu
    have h1 := length_unit hu
    split at h
    · cases h; exact h1
    · split at h
      · split at h
        · split at h
          · rename_i v after hv
            have h2 := length_unit hv
            split at h <;> cases h
            · simp only [List.length_cons] at h1; omega
            · exact h1
          · cases h; exact h1
        · cases h; exact h1
      · cases h; exact h1

theorem length_stringChar {cs rest : List Char} {d : Option Char}
    (h : stringChar? cs = some (d, rest)) : rest.length < cs.length := by
  unfold stringChar? at h
  split at h
  · have := length_escapedUnit h
    simp only [List.length_cons]; omega
  · obtain ⟨e, _, he⟩ := Option.map_eq_some_iff.1 h
    cases he
    simp only [List.length_cons]; omega
  · cases h
  · split at h <;> cases h
    simp
  · cases h

/-- The characters of a string after its opening quote, and the rest after the closing one. -/
def stringBody? : List Char → Option (Option (List Char) × List Char)
  | [] => none
  | c :: cs =>
    if c = '"' then some (some [], cs)
    else
      match h : stringChar? (c :: cs) with
      | none => none
      | some (d, rest) =>
        have : rest.length ≤ cs.length := Nat.le_of_lt_succ (length_stringChar h)
        (stringBody? rest).map fun (content, after) =>
          (d.bind fun d => content.map fun content => d :: content, after)
termination_by cs => cs.length

theorem length_stringBody {cs rest : List Char} {content : Option (List Char)}
    (h : stringBody? cs = some (content, rest)) : rest.length < cs.length := by
  fun_induction stringBody? cs generalizing content rest with
  | case1 => cases h
  | case2 => cases h; simp
  | case3 => cases h
  | case4 c cs _ d next hs hle ih =>
    obtain ⟨⟨content', after⟩, hb, he⟩ := Option.map_eq_some_iff.1 h
    cases he
    exact Nat.lt_succ_of_le (Nat.le_trans (Nat.le_of_lt (ih hb)) hle)

/-! ## Numbers -/

/-- The digits before the point: a zero stands alone. -/
def wholeDigits? (cs : List Char) : Option (List Char × List Char) :=
  match Text.splitDigits cs with
  | ([], _) => none
  | ('0' :: _ :: _, _) => none
  | split => some split

/-- A part that must have digits. -/
def someDigits? (cs : List Char) : Option (List Char × List Char) :=
  match Text.splitDigits cs with
  | ([], _) => none
  | split => some split

/-- A fraction, if a point starts one. -/
def fraction? : List Char → Option (Option (List Char) × List Char)
  | '.' :: cs => (someDigits? cs).map fun (digits, rest) => (some digits, rest)
  | cs => some (none, cs)

/-- An exponent, if its letter starts one. -/
def exponent? : List Char → Option (Option (Bool × List Char) × List Char)
  | [] => some (none, [])
  | c :: cs =>
    if c = 'e' ∨ c = 'E' then
      let (negative, unsigned) := Text.splitSign cs
      (someDigits? unsigned).map fun (digits, rest) => (some (negative, digits), rest)
    else some (none, c :: cs)

/-- Takes a minus sign off, if there is one. -/
def splitMinus : List Char → Bool × List Char
  | '-' :: cs => (true, cs)
  | cs => (false, cs)

/-- A number and the rest after it. -/
def number? (cs : List Char) : Option (NumberText × List Char) := do
  let (negative, unsigned) := splitMinus cs
  let (whole, afterWhole) ← wholeDigits? unsigned
  let (fraction, afterFraction) ← fraction? afterWhole
  let (exponent, rest) ← exponent? afterFraction
  pure (⟨negative, whole, fraction, exponent⟩, rest)

theorem length_splitDigits (cs : List Char) :
    (Text.splitDigits cs).1.length + (Text.splitDigits cs).2.length = cs.length := by
  unfold Text.splitDigits
  rw [← List.length_append, List.takeWhile_append_dropWhile]

theorem length_someDigits {cs digits rest : List Char} (h : someDigits? cs = some (digits, rest)) :
    rest.length < cs.length := by
  have hl := length_splitDigits cs
  unfold someDigits? at h
  split at h
  · cases h
  · rename_i hne
    have hs : Text.splitDigits cs = (digits, rest) := Option.some.inj h
    have hd : digits ≠ [] := fun hn => hne rest (by rw [hs, hn])
    have hpos := List.length_pos_iff.2 hd
    rw [hs] at hl
    simp only at hl
    omega

theorem length_wholeDigits {cs digits rest : List Char}
    (h : wholeDigits? cs = some (digits, rest)) : rest.length < cs.length := by
  refine length_someDigits (?_ : someDigits? cs = some (digits, rest))
  unfold wholeDigits? at h
  unfold someDigits?
  split at h <;> simp_all

theorem length_fraction {cs rest : List Char} {f : Option (List Char)}
    (h : fraction? cs = some (f, rest)) : rest.length ≤ cs.length := by
  unfold fraction? at h
  split at h
  · obtain ⟨⟨digits, r⟩, hd, he⟩ := Option.map_eq_some_iff.1 h
    cases he
    have := length_someDigits hd
    simp only [List.length_cons]; omega
  · cases h; exact Nat.le_refl _

theorem length_splitSign (cs : List Char) : (Text.splitSign cs).2.length ≤ cs.length := by
  unfold Text.splitSign
  split <;> simp

theorem length_exponent {cs rest : List Char} {e : Option (Bool × List Char)}
    (h : exponent? cs = some (e, rest)) : rest.length ≤ cs.length := by
  unfold exponent? at h
  split at h
  · cases h; exact Nat.le_refl _
  · rename_i c cs
    split at h
    · obtain ⟨⟨digits, r⟩, hd, he⟩ := Option.map_eq_some_iff.1 h
      cases he
      have h1 := length_someDigits hd
      have h2 := length_splitSign cs
      exact Nat.le_succ_of_le (Nat.le_trans (Nat.le_of_lt h1) h2)
    · cases h; exact Nat.le_refl _

theorem length_splitMinus (cs : List Char) : (splitMinus cs).2.length ≤ cs.length := by
  unfold splitMinus
  split <;> simp

theorem length_number {cs rest : List Char} {n : NumberText} (h : number? cs = some (n, rest)) :
    rest.length < cs.length := by
  unfold number? at h
  simp only [Option.bind_eq_bind, Option.bind_eq_some_iff, Option.pure_def, Option.some.injEq,
    Prod.exists] at h
  obtain ⟨w, a, hw, f, b, hf, e, c, he, hr⟩ := h
  cases hr
  have h1 := length_wholeDigits hw
  have h2 := length_fraction hf
  have h3 := length_exponent he
  have h4 := length_splitMinus cs
  omega

/-! ## Words and punctuation -/

/-- The lexeme of a single character. -/
def punctuation? (c : Char) : Option Lexeme :=
  if c = '[' then some .openArray
  else if c = ']' then some .closeArray
  else if c = '{' then some .openObject
  else if c = '}' then some .closeObject
  else if c = ',' then some .comma
  else if c = ':' then some .colon
  else none

/-- A word of the language and the rest after it. -/
def word? : List Char → Option (Lexeme × List Char)
  | 'n' :: 'u' :: 'l' :: 'l' :: rest => some (.null, rest)
  | 't' :: 'r' :: 'u' :: 'e' :: rest => some (.bool true, rest)
  | 'f' :: 'a' :: 'l' :: 's' :: 'e' :: rest => some (.bool false, rest)
  | _ => none

/-- The lexeme at the start of a text and the rest after it. -/
def next? (cs : List Char) : Option (Lexeme × List Char) :=
  match cs with
  | [] => none
  | c :: rest =>
    match punctuation? c with
    | some l => some (l, rest)
    | none =>
      if c = '"' then (stringBody? rest).map fun (content, after) => (.string content, after)
      else if c = '-' ∨ c.isDigit then (number? cs).map fun (n, after) => (.number n, after)
      else word? cs

theorem length_word {cs rest : List Char} {l : Lexeme} (h : word? cs = some (l, rest)) :
    rest.length < cs.length := by
  unfold word? at h
  split at h <;> cases h <;> simp only [List.length_cons] <;> omega

theorem length_next {cs rest : List Char} {l : Lexeme} (h : next? cs = some (l, rest)) :
    rest.length < cs.length := by
  unfold next? at h
  split at h
  · cases h
  · rename_i c tail
    split at h
    · cases h; simp
    · split at h
      · obtain ⟨⟨content, after⟩, hb, he⟩ := Option.map_eq_some_iff.1 h
        cases he
        have := length_stringBody hb
        simp only [List.length_cons]; omega
      · split at h
        · obtain ⟨⟨n, after⟩, hb, he⟩ := Option.map_eq_some_iff.1 h
          cases he
          exact length_number hb
        · exact length_word h

/-- The lexemes of a text up to its end or its first fault. -/
def scan (cs : List Char) : List Lexeme :=
  match cs with
  | [] => []
  | c :: tail =>
    if isBlank c then scan tail
    else
      match h : next? (c :: tail) with
      | some (l, rest) =>
        have : rest.length ≤ tail.length := Nat.le_of_lt_succ (length_next h)
        l :: scan rest
      | none => [.fault]
termination_by cs.length

end Lexeme

end Tabular.Json
