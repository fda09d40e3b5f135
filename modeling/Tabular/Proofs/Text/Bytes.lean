/-
Texts cut at a byte. A text can be cut before its first byte, after its last and between two
characters, and nowhere else: these are its valid positions. Searching a text character by character
gives the byte at which a character starts, so a cut there is a cut between two characters.
-/
import Mathlib.Data.List.Basic

namespace Tabular.Text

variable {cs before after : List Char} {n : Nat} {p : Char → Bool}

/-! ## Cutting -/

/-- The number of bytes that characters take. -/
def byteLength : List Char → Nat
  | [] => 0
  | c :: cs => c.utf8Size + byteLength cs

/-- Cuts a text before a byte, unless the byte is past the end or inside a character. -/
def cutAt? : Nat → List Char → Option (List Char × List Char)
  | 0, cs => some ([], cs)
  | _ + 1, [] => none
  | n + 1, c :: cs =>
    if c.utf8Size ≤ n + 1 then
      (cutAt? (n + 1 - c.utf8Size) cs).map fun (before, after) => (c :: before, after)
    else none

@[simp] theorem byteLength_nil : byteLength [] = 0 := rfl

@[simp] theorem byteLength_cons (c : Char) (cs : List Char) :
    byteLength (c :: cs) = c.utf8Size + byteLength cs := rfl

@[simp] theorem byteLength_append (cs ds : List Char) :
    byteLength (cs ++ ds) = byteLength cs + byteLength ds := by
  induction cs with
  | nil => simp
  | cons c cs ih => simp [ih, Nat.add_assoc]

theorem byteLength_eq_zero_iff : byteLength cs = 0 ↔ cs = [] := by
  cases cs with
  | nil => simp
  | cons c cs =>
    have hpos := c.utf8Size_pos
    simp only [byteLength_cons, reduceCtorEq, iff_false]
    omega

theorem byteLength_eq (cs : List Char) : byteLength cs = (String.ofList cs).utf8ByteSize := by
  induction cs with
  | nil => rfl
  | cons c cs ih =>
    rw [← List.singleton_append, String.ofList_append, String.utf8ByteSize_append,
      ← String.singleton_eq_ofList, String.utf8ByteSize_singleton, ← ih]
    rfl

theorem cutAt?_append (before after : List Char) :
    cutAt? (byteLength before) (before ++ after) = some (before, after) := by
  induction before with
  | nil => simp [cutAt?]
  | cons c before ih =>
    obtain ⟨m, hm⟩ := Nat.exists_eq_add_of_lt c.utf8Size_pos
    have hlen : byteLength (c :: before) = m + byteLength before + 1 := by
      rw [byteLength_cons]
      omega
    rw [hlen, List.cons_append, cutAt?, if_pos (by omega),
      show m + byteLength before + 1 - c.utf8Size = byteLength before by omega, ih]
    rfl

/-- A cut takes a text apart and counts the bytes before it. -/
theorem cutAt?_eq_some_iff :
    cutAt? n cs = some (before, after) ↔ cs = before ++ after ∧ n = byteLength before := by
  refine ⟨fun h => ?_, fun ⟨hcs, hn⟩ => by rw [hcs, hn, cutAt?_append]⟩
  fun_induction cutAt? n cs generalizing before with
  | case1 cs =>
    cases h
    exact ⟨rfl, rfl⟩
  | case2 => cases h
  | case3 n c cs hfits ih =>
    obtain ⟨⟨b, a⟩, hcut, heq⟩ := Option.map_eq_some_iff.1 h
    cases heq
    obtain ⟨rfl, hn⟩ := ih hcut
    refine ⟨rfl, ?_⟩
    rw [byteLength_cons]
    omega
  | case4 => cases h

/-- The bytes at which a text can be cut are its valid positions. -/
theorem isSome_cutAt?_iff :
    (cutAt? n cs).isSome ↔ String.Pos.Raw.IsValid (String.ofList cs) ⟨n⟩ := by
  rw [String.Pos.Raw.isValid_ofList, Option.isSome_iff_exists]
  constructor
  · rintro ⟨⟨before, after⟩, hcut⟩
    obtain ⟨rfl, rfl⟩ := cutAt?_eq_some_iff.1 hcut
    exact ⟨before.length, by rw [List.take_left, byteLength_eq]⟩
  · rintro ⟨i, hi⟩
    refine ⟨(cs.take i, cs.drop i), cutAt?_eq_some_iff.2 ⟨(List.take_append_drop i cs).symm, ?_⟩⟩
    rw [byteLength_eq]
    exact hi

/-! ## Searching -/

/-- The characters of a text, each with the byte at which it starts. -/
def charsFrom (start : Nat) : List Char → List (Nat × Char)
  | [] => []
  | c :: cs => (start, c) :: charsFrom (start + c.utf8Size) cs

/-- The byte after the last of some characters, or the first byte if there are none. -/
def endOf (start : Nat) (chars : List (Nat × Char)) : Nat :=
  chars.getLast?.elim start fun (i, c) => i + c.utf8Size

theorem takeWhile_charsFrom (p : Char → Bool) (start : Nat) (cs : List Char) :
    (charsFrom start cs).takeWhile (p ·.2) = charsFrom start (cs.takeWhile p) := by
  induction cs generalizing start with
  | nil => rfl
  | cons c cs ih =>
    rw [charsFrom, List.takeWhile_cons, List.takeWhile_cons, ih]
    cases hp : p c <;> simp [charsFrom]

theorem take_charsFrom (k start : Nat) (cs : List Char) :
    (charsFrom start cs).take k = charsFrom start (cs.take k) := by
  induction cs generalizing k start with
  | nil => cases k <;> rfl
  | cons c cs ih =>
    cases k with
    | zero => rfl
    | succ k => exact congrArg ((start, c) :: ·) (ih k _)

theorem endOf_charsFrom (start : Nat) (cs : List Char) :
    endOf start (charsFrom start cs) = start + byteLength cs := by
  induction cs generalizing start with
  | nil => rfl
  | cons c cs ih =>
    have hlast := ih (start + c.utf8Size)
    rw [endOf, charsFrom, List.getLast?_cons, byteLength_cons, ← Nat.add_assoc, ← hlast, endOf]
    cases (charsFrom (start + c.utf8Size) cs).getLast? <;> rfl

/-- The byte of the first character that fails a test, or the end. -/
theorem find?_charsFrom (p : Char → Bool) (start : Nat) (cs : List Char) :
    ((charsFrom start cs).find? (!p ·.2)).elim (start + byteLength cs) (·.1) =
      start + byteLength (cs.takeWhile p) := by
  induction cs generalizing start with
  | nil => rfl
  | cons c cs ih =>
    have htail := ih (start + c.utf8Size)
    rw [charsFrom]
    cases hp : p c with
    | true =>
      rw [List.find?_cons_of_neg (by simp [hp]), List.takeWhile_cons_of_pos hp, byteLength_cons,
        byteLength_cons, ← Nat.add_assoc, htail, Nat.add_assoc]
    | false =>
      rw [List.find?_cons_of_pos (by simp [hp]), List.takeWhile_cons_of_neg (by simp [hp])]
      rfl

end Tabular.Text
