/-
Texts as bytes. Decoding undoes encoding, and what the writer does with bytes keeps them the
encoding of some text: an ASCII byte stands for a character of its own, and occurs in no other
character, so it may be written between fields or be written twice.
-/
import Mathlib.Data.List.Basic
import Mathlib.Tactic.SplitIfs
import Tabular.Csv.Table
import Tabular.Proofs.Outcome

namespace Tabular.Csv

/-! ## Encoding and decoding -/

theorem toList_loop_eq (bytes : ByteArray) (i : Nat) (taken : List UInt8) :
    ByteArray.toList.loop bytes i taken = taken.reverse ++ bytes.data.toList.drop i := by
  fun_induction ByteArray.toList.loop bytes i taken with
  | case1 i taken h ih =>
    have hi : i < bytes.data.toList.length := by simpa using h
    rw [ih, List.drop_eq_getElem_cons (l := bytes.data.toList) hi]
    simp [ByteArray.get!, h]
  | case2 i taken h =>
    rw [List.drop_eq_nil_of_le (by simpa using Nat.le_of_not_lt h)]
    simp

theorem toList_eq_data (bytes : ByteArray) : bytes.toList = bytes.data.toList := by
  rw [ByteArray.toList, toList_loop_eq, List.reverse_nil, List.nil_append, List.drop_zero]

theorem encodeField_eq (s : String) :
    encodeField s = s.toList.flatMap String.utf8EncodeChar := by
  rw [encodeField, toList_eq_data, String.toUTF8_eq_toByteArray]
  conv_lhs => rw [← String.ofList_toList (s := s)]
  rw [String.toByteArray_ofList, List.utf8Encode, List.toList_data_toByteArray]

theorem encodeField_append (s t : String) :
    encodeField (s ++ t) = encodeField s ++ encodeField t := by
  rw [encodeField_eq, String.toList_append, List.flatMap_append, ← encodeField_eq, ← encodeField_eq]

/-- Decoding undoes encoding. -/
theorem decodeField_encodeField (s : String) : decodeField (encodeField s) = some s := by
  have hbytes : (⟨(encodeField s).toArray⟩ : ByteArray) = s.toByteArray := by
    rw [encodeField, toList_eq_data, Array.toArray_toList, String.toUTF8_eq_toByteArray]
  rw [decodeField, hbytes]
  exact dif_pos s.isValidUTF8

theorem decode_encodeField (records : List (List String)) :
    decode (records.map (·.map encodeField)) = some records :=
  mapM_map_eq_some fun _ _ => mapM_map_eq_some fun s _ => decodeField_encodeField s

/-! ## What stays a text -/

/-- The encoding of some text. -/
def IsText (bytes : List UInt8) : Prop :=
  ∃ s, encodeField s = bytes

theorem isText_encodeField (s : String) : IsText (encodeField s) := ⟨s, rfl⟩

theorem isText_nil : IsText [] := ⟨"", encodeField_eq ""⟩

theorem IsText.append {a b : List UInt8} (ha : IsText a) (hb : IsText b) : IsText (a ++ b) := by
  obtain ⟨s, rfl⟩ := ha
  obtain ⟨t, rfl⟩ := hb
  exact ⟨s ++ t, encodeField_append s t⟩

theorem IsText.flatMap {α : Type} {f : α → List UInt8} {items : List α}
    (h : ∀ a ∈ items, IsText (f a)) : IsText (items.flatMap f) := by
  induction items with
  | nil => exact isText_nil
  | cons a items ih =>
    exact (h a List.mem_cons_self).append (ih fun b hb => h b (List.mem_cons_of_mem _ hb))

theorem isText_char (c : Char) : IsText (String.utf8EncodeChar c) :=
  ⟨String.ofList [c], by rw [encodeField_eq, String.toList_ofList, List.flatMap_singleton]⟩

/-- An ASCII byte is a character of its own. -/
theorem isText_ascii {b : UInt8} (hb : b < 128) : IsText [b] := by
  have hb' : b.toNat < 128 := hb
  have hval : (Char.ofUInt8 b).val.toNat = b.toNat := UInt8.toNat_toUInt32 b
  have hchar : String.utf8EncodeChar (Char.ofUInt8 b) = [b] := by
    simp only [String.utf8EncodeChar, hval]
    rw [if_pos (by omega), UInt8.ofNat_toNat]
  exact hchar ▸ isText_char _

theorem IsText.cons {b : UInt8} {bytes : List UInt8} (hb : b < 128) (h : IsText bytes) :
    IsText (b :: bytes) :=
  (isText_ascii hb).append h

theorem utf8EncodeChar_eq_or_le {c : Char} {b : UInt8} (h : b ∈ String.utf8EncodeChar c) :
    String.utf8EncodeChar c = [b] ∨ 128 ≤ b.toNat := by
  unfold String.utf8EncodeChar at h ⊢
  simp only at h ⊢
  split_ifs at h ⊢
  · rw [List.mem_singleton.1 h]
    exact .inl rfl
  -- the bytes of longer characters all have their highest bit set
  all_goals
    right
    revert b
    simp only [List.forall_mem_cons, List.not_mem_nil, false_imp_iff, implies_true, and_true,
      UInt8.toNat_ofNat']
    omega

/-- An ASCII byte occurs in its own character only. -/
theorem utf8EncodeChar_eq_of_mem {c : Char} {b : UInt8} (hb : b < 128)
    (h : b ∈ String.utf8EncodeChar c) : String.utf8EncodeChar c = [b] :=
  (utf8EncodeChar_eq_or_le h).resolve_right (Nat.not_le_of_lt hb)

/-- Writing an ASCII byte twice wherever it occurs leaves a text. -/
theorem isText_doubled {b : UInt8} (hb : b < 128) (s : String) :
    IsText ((encodeField s).flatMap fun x => if x = b then [b, b] else [x]) := by
  rw [encodeField_eq, List.flatMap_assoc]
  refine IsText.flatMap fun c _ => ?_
  by_cases h : b ∈ String.utf8EncodeChar c
  · rw [utf8EncodeChar_eq_of_mem hb h, List.flatMap_singleton, if_pos rfl]
    exact (isText_ascii hb).cons hb
  · have hsame : ∀ x ∈ String.utf8EncodeChar c, (if x = b then [b, b] else [x]) = [x] := by
      rintro x hx
      refine if_neg ?_
      rintro rfl
      exact h hx
    rw [List.flatMap_congr hsame, List.flatMap_singleton']
    exact isText_char c

/-! ## The byte-order mark -/

/-- The first character of some bytes is the only one they start with. -/
theorem utf8EncodeChar_append_inj {c d : Char} {a b : List UInt8}
    (h : String.utf8EncodeChar c ++ a = String.utf8EncodeChar d ++ b) : c = d := by
  have hdecode : ∀ (c : Char) (a : List UInt8),
      (String.utf8EncodeChar c ++ a).toByteArray.utf8DecodeChar? 0 = some c := by
    intro c a
    rw [List.toByteArray_append, ByteArray.utf8DecodeChar?_utf8EncodeChar_append]
  have hc := hdecode c a
  rw [h, hdecode d b] at hc
  exact (Option.some.inj hc).symm

/-- Reading takes nothing off a text that does not start with the mark. -/
theorem dropMark_encodeField {s : String} (h : s.toList.head? ≠ some '\ufeff') :
    dropMark (encodeField s) = encodeField s := by
  rw [encodeField_eq]
  rcases hs : s.toList with _ | ⟨c, cs⟩
  · rfl
  · rw [hs] at h
    unfold dropMark
    split
    · rename_i bytes hmark
      have hfirst : String.utf8EncodeChar c ++ cs.flatMap String.utf8EncodeChar =
          String.utf8EncodeChar '\ufeff' ++ bytes := hmark
      rw [utf8EncodeChar_append_inj hfirst] at h
      exact absurd rfl h
    · rfl

end Tabular.Csv
