/-
What an answer depends on. A query sees a line by its label and its cells, a cell by what the
operators say about it, and the cross axis by its count and its labels; the position of a line
matters only to a selector with the key field. So lines that agree in these, of one table or of
two, along one axis or along both, are answered alike.
-/
import Tabular.Proofs.Query.Evaluation

namespace Tabular

/-! ## Agreement -/

/-- Cells that no operator tells apart. -/
def Cell.Alike (x y : Cell) : Prop :=
  ∀ (op : Operator) (operand : String), op.holds x operand = op.holds y operand

theorem Cell.Alike.refl (x : Cell) : x.Alike x := fun _ _ => rfl

/-- Nothing and the empty text are alike: neither is a number, and both count as zero. -/
theorem Cell.alike_null_text : Cell.Alike .null (.text "") := by
  intro op operand
  have hnumber : Text.number? "" = none := rfl
  have hequals : Cell.null.looselyEquals operand = (Cell.text "").looselyEquals operand := by
    rw [looselyEquals, looselyEquals, hnumber]
    exact Bool.beq_comm
  cases op with
  | equal => exact hequals
  | notEqual => exact congrArg not hequals
  | greater | less | greaterOrEqual | lessOrEqual | contains | startsWith | endsWith => rfl

/-- Axes of two tables along which a query finds the same fields. -/
structure FieldsAgree (t : TableView) (axis : Axis) (t' : TableView) (axis' : Axis) : Prop where
  count : t.count axis.cross = t'.count axis'.cross
  findLabel : ∀ l, t.findLabel? axis.cross l = t'.findLabel? axis'.cross l

/-- Lines of two tables that differ at most in their positions. -/
structure LinesAgree (t : TableView) (axis : Axis) (k : Nat) (t' : TableView) (axis' : Axis)
    (k' : Nat) : Prop where
  label : t.label? axis k = t'.label? axis' k'
  cell : ∀ c, Cell.Alike ((t.cell? axis k c).getD .null) ((t'.cell? axis' k' c).getD .null)

/-- No selector of the query asks for the position of a line. -/
def Query.KeyFree (q : Query) : Prop :=
  ∀ s ∈ q.selectors, Field.key ∉ s.fields

instance (q : Query) : Decidable q.KeyFree :=
  inferInstanceAs (Decidable (∀ s ∈ q.selectors, Field.key ∉ s.fields))

variable {t t' : TableView} {axis axis' : Axis} {k k' : Nat}

/-! ## Finding fields -/

theorem BoundField.of?_of_agree (hfields : FieldsAgree t axis t' axis') :
    BoundField.of? t axis = BoundField.of? t' axis' := by
  funext field
  cases field with
  | key | label => rfl
  | position n => rw [of?, of?, hfields.count]
  | named name => rw [of?, of?, hfields.findLabel]

/-- Along one axis the fields are found or missed alike. -/
theorem Query.bind_of_agree (hfields : FieldsAgree t axis t' axis) (q : Query) :
    q.bind t axis = q.bind t' axis := by
  have hselector : BoundSelector.bind t axis = BoundSelector.bind t' axis := by
    funext s
    rw [BoundSelector.bind, BoundSelector.bind, BoundField.of?_of_agree hfields]
  rw [bind, bind, hselector]

/-! ## Deciding lines -/

theorem Field.cell_alike (hfields : FieldsAgree t axis t' axis')
    (hline : LinesAgree t axis k t' axis' k') {field : Field} (hkey : k = k' ∨ field ≠ .key) :
    Cell.Alike (field.cell t axis k) (field.cell t' axis' k') := by
  cases field with
  | key =>
    obtain rfl := hkey.resolve_right fun h => h rfl
    exact .refl _
  | label =>
    rw [cell, cell, hline.label]
    exact .refl _
  | position n => exact hline.cell n
  | named name =>
    rw [cell, cell, hfields.findLabel]
    cases t'.findLabel? axis'.cross name with
    | none => exact .refl _
    | some n => exact hline.cell n

theorem Selector.holds_iff_of_agree (hfields : FieldsAgree t axis t' axis')
    (hline : LinesAgree t axis k t' axis' k') {s : Selector}
    (hkey : k = k' ∨ Field.key ∉ s.fields) :
    s.Holds t axis k ↔ s.Holds t' axis' k' := by
  have halike : ∀ field ∈ s.fields, Cell.Alike (field.cell t axis k) (field.cell t' axis' k') := by
    intro field hfield
    refine Field.cell_alike hfields hline (hkey.imp_right ?_)
    rintro hfree rfl
    exact hfree hfield
  constructor
  · rintro ⟨field, hfield, value, hvalue, hholds⟩
    exact ⟨field, hfield, value, hvalue, halike field hfield s.operator value ▸ hholds⟩
  · rintro ⟨field, hfield, value, hvalue, hholds⟩
    exact ⟨field, hfield, value, hvalue, (halike field hfield s.operator value).symm ▸ hholds⟩

namespace Expression

variable {α : Type}

theorem holds_congr {holds holds' : α → Prop} {e : Expression α}
    (h : ∀ a ∈ e.operands, (holds a ↔ holds' a)) : e.Holds holds ↔ e.Holds holds' := by
  induction e with
  | operand a => exact h a (List.mem_singleton_self a)
  | join op left right ihl ihr =>
    rw [Holds, Holds, ihl fun a ha => h a (List.mem_append_left _ ha),
      ihr fun a ha => h a (List.mem_append_right _ ha)]

/-- The operands of the steps are those of the tree, in the same order. -/
theorem operands_steps (e : Expression α) : e.steps.filterMap Step.operand? = e.operands := by
  induction e with
  | operand a => rfl
  | join op left right ihl ihr =>
    rw [steps, List.filterMap_append, List.filterMap_append, ihl, ihr]
    exact List.append_nil _

end Expression

/-- A query matches lines alike that its selectors decide alike. -/
theorem Query.matches_congr {q : Query}
    (h : ∀ s ∈ q.selectors, (s.Holds t axis k ↔ s.Holds t' axis' k')) :
    q.Matches t axis k ↔ q.Matches t' axis' k' := by
  refine or_congr_right (exists_congr fun e => and_congr_right fun he => ?_)
  refine Expression.holds_congr fun s hs => h s ?_
  rwa [Query.selectors, ← he, Expression.operands_steps]

/-- Lines that agree are both kept or both dropped, if they have one position or the query asks for
none. -/
theorem BoundQuery.keeps_of_agree {limit : Option Nat} {source : String} {q : Query}
    (hq : Query.parseWith limit source = .ok q) {b b' : BoundQuery} (hb : q.bind t axis = .ok b)
    (hb' : q.bind t' axis' = .ok b') (hfields : FieldsAgree t axis t' axis')
    (hline : LinesAgree t axis k t' axis' k') (hkey : k = k' ∨ q.KeyFree) :
    b.keeps t k = b'.keeps t' k' := by
  rw [Bool.eq_iff_iff, Query.keeps_iff_matches hq hb, Query.keeps_iff_matches hq hb']
  refine Query.matches_congr fun s hs => ?_
  exact Selector.holds_iff_of_agree hfields hline (hkey.imp_right fun hfree => hfree s hs)

end Tabular
