/-
Members of rows under their keys. Placing them one after the other makes a row of the values under
the columns, with null where there is none; the columns are the keys in the order in which they are
first met, those of earlier rows among them.
-/
import Tabular.Proofs.FirstMet
import Tabular.Proofs.Json.Level

namespace Tabular

namespace Json

variable {members done : List (String × Json)} {columns past : List String} {key column : String}
  {v : Json}

/-! ## Rows under columns -/

/-- The cells of members under some columns. -/
def cellsUnder (members : List (String × Json)) (columns : List String) : List Cell :=
  columns.map fun column => ((members.lookup column).map toCell).getD .null

theorem lookup_eq_none (h : key ∉ members.map (·.1)) : members.lookup key = none := by
  refine List.lookup_eq_none_iff.2 fun member hmember => bne_iff_ne.2 ?_
  rintro rfl
  exact h (List.mem_map_of_mem hmember)

theorem lookup_eq_some (hn : (members.map (·.1)).Nodup) (h : (key, v) ∈ members) :
    members.lookup key = some v := by
  obtain ⟨before, after, rfl⟩ := List.append_of_mem h
  rw [List.map_append, List.map_cons] at hn
  rw [List.lookup_append, lookup_eq_none (not_mem_of_nodup hn), Option.none_or,
    List.lookup_cons_self]

theorem lookup_concat_self (h : key ∉ done.map (·.1)) :
    (done ++ [(key, v)]).lookup key = some v := by
  rw [List.lookup_append, lookup_eq_none h, Option.none_or, List.lookup_cons_self]

theorem lookup_concat_of_ne (h : column ≠ key) :
    (done ++ [(key, v)]).lookup column = done.lookup column := by
  have hother : [(key, v)].lookup column = none := lookup_eq_none (by simpa using h)
  rw [List.lookup_append, hother, Option.or_none]

/-- Under the keys of the others a member more makes no difference. -/
theorem cellsUnder_concat_of_not_mem (h : key ∉ columns) :
    cellsUnder (done ++ [(key, v)]) columns = cellsUnder done columns := by
  refine List.map_congr_left fun column hcolumn => ?_
  have hne : column ≠ key := fun heq => h (heq ▸ hcolumn)
  rw [lookup_concat_of_ne hne]

/-- Under its own key it takes the place of the null. -/
theorem cellsUnder_concat_of_mem (hn : columns.Nodup) {i : Nat} (hi : columns[i]? = some key)
    (hkey : key ∉ done.map (·.1)) :
    cellsUnder (done ++ [(key, v)]) columns = (cellsUnder done columns).set i v.toCell := by
  have hlt := (List.getElem?_eq_some_iff.1 hi).1
  refine List.ext_getElem? fun j => ?_
  rw [List.getElem?_set, cellsUnder, cellsUnder, List.getElem?_map, List.getElem?_map,
    List.length_map, if_pos hlt]
  split
  · rename_i heq
    rw [← heq, hi, Option.map_some, lookup_concat_self hkey]
    rfl
  · rename_i hne
    cases hj : columns[j]? with
    | none => rfl
    | some column =>
      have hother : column ≠ key := by
        rintro rfl
        exact hne ((List.getElem?_inj hlt hn).1 (hi.trans hj.symm))
      rw [Option.map_some, Option.map_some, lookup_concat_of_ne hother]

theorem cellsUnder_append (members : List (String × Json)) (columns more : List String) :
    cellsUnder members (columns ++ more) = cellsUnder members columns ++ cellsUnder members more :=
  List.map_append

theorem cellsUnder_nil (columns : List String) :
    cellsUnder [] columns = List.replicate columns.length .null :=
  List.map_const' ..

/-- Columns that the members do not know are null. -/
theorem cellsUnder_of_disjoint (h : ∀ column ∈ columns, column ∉ members.map (·.1)) :
    cellsUnder members columns = List.replicate columns.length .null := by
  rw [← cellsUnder_nil]
  refine List.map_congr_left fun column hcolumn => ?_
  rw [lookup_eq_none (h column hcolumn)]
  rfl

/-- Under their own keys there is every value, in order. -/
theorem cellsUnder_keys (hn : (members.map (·.1)).Nodup) :
    cellsUnder members (members.map (·.1)) = members.map (·.2.toCell) := by
  rw [cellsUnder, List.map_map]
  refine List.map_congr_left fun member hmember => ?_
  rw [Function.comp_apply, lookup_eq_some hn hmember]
  rfl

/-! ## Placing members -/

theorem placeMember_new {cells : List Cell} (h : key ∉ columns) :
    placeMember (columns, cells) (key, v) = (columns ++ [key], cells ++ [v.toCell]) := by
  have hnone : columns.findIdx? (· == key) = none := by
    refine List.findIdx?_eq_none_iff.2 fun column hcolumn => beq_eq_false_iff_ne.2 ?_
    rintro rfl
    exact h hcolumn
  simp only [placeMember, hnone]

/-- A member goes under its key, which is added if it is new. -/
theorem placeMember_eq (hkey : key ∉ done.map (·.1)) :
    placeMember (past.eraseDups, cellsUnder done past.eraseDups) (key, v) =
      ((past ++ [key]).eraseDups,
        cellsUnder (done ++ [(key, v)]) (past ++ [key]).eraseDups) := by
  by_cases hpast : key ∈ past
  · have hsome : (past.eraseDups.findIdx? (· == key)).isSome := by
      rw [List.findIdx?_isSome, List.any_eq_true]
      exact ⟨key, List.mem_eraseDups.2 hpast, beq_self_eq_true key⟩
    obtain ⟨i, hfound⟩ := Option.isSome_iff_exists.1 hsome
    obtain ⟨hlt, hbeq, -⟩ := List.findIdx?_eq_some_iff_getElem.1 hfound
    have hi : past.eraseDups[i]? = some key :=
      List.getElem?_eq_some_iff.2 ⟨hlt, eq_of_beq hbeq⟩
    rw [eraseDups_append_of_subset (List.cons_subset.2 ⟨hpast, List.nil_subset _⟩),
      cellsUnder_concat_of_mem (nodup_eraseDups past) hi hkey]
    simp only [placeMember, hfound]
  · have hnew : key ∉ past.eraseDups := by rwa [List.mem_eraseDups]
    have hlast : cellsUnder (done ++ [(key, v)]) [key] = [v.toCell] := by
      rw [cellsUnder, List.map_singleton, lookup_concat_self hkey]
      rfl
    rw [placeMember_new hnew, eraseDups_concat_of_not_mem hpast, cellsUnder_append,
      cellsUnder_concat_of_not_mem hnew, hlast]

/-- All members of a row go under their keys. The induction is on those that are left; `done` are
the members of the row before them, and `past` are all the keys met so far. -/
theorem foldl_placeMember (h : ((done ++ members).map (·.1)).Nodup) :
    members.foldl placeMember (past.eraseDups, cellsUnder done past.eraseDups) =
      ((past ++ members.map (·.1)).eraseDups,
        cellsUnder (done ++ members) (past ++ members.map (·.1)).eraseDups) := by
  induction members generalizing done past with
  | nil => rw [List.map_nil, List.append_nil, List.append_nil, List.foldl_nil]
  | cons member members ih =>
    have hkey : member.1 ∉ done.map (·.1) := not_mem_of_nodup (List.map_append ▸ h)
    rw [List.append_cons] at h
    rw [List.foldl_cons, placeMember_eq hkey, ih h, List.map_cons, ← List.append_cons,
      ← List.append_cons]

/-- Members find their cells in order, whether their keys are all new or are the columns. -/
theorem foldl_placeMember_keys (hn : (members.map (·.1)).Nodup)
    (hcolumns : columns = [] ∨ columns = members.map (·.1)) :
    members.foldl placeMember (columns, List.replicate columns.length .null) =
      (members.map (·.1), members.map (·.2.toCell)) := by
  have hknown : columns.eraseDups = columns := by
    rcases hcolumns with rfl | rfl
    · rfl
    · exact eraseDups_of_nodup hn
  have hkeys : (columns ++ members.map (·.1)).eraseDups = members.map (·.1) := by
    rcases hcolumns with rfl | rfl
    · exact eraseDups_of_nodup hn
    · exact (eraseDups_append_of_subset (List.Subset.refl _)).trans hknown
  have hfold := @foldl_placeMember members [] columns hn
  rw [hknown, hkeys, cellsUnder_nil, List.nil_append, cellsUnder_keys hn] at hfold
  exact hfold

end Json

end Tabular
