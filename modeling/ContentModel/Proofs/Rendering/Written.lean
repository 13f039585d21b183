import ContentModel.Proofs.Json.Form
import ContentModel.Proofs.Rendering.Outcome
import ContentModel.Proofs.Text.Digits
import ContentModel.Rendering.Limits

/-!
# Values within the limits of the runtime

Which values cannot be written, and which values of a field can therefore not be rendered.

* `Json.Overtaxes` says that a value cannot be written with the room that is left,
  `FieldInfo.Overtaxes` that a part of the value of a field cannot;
* `FieldInfo.StumblesInCell`, `FieldInfo.StumblesInRow` and `FieldInfo.StumblesInLine` list the
  values of a field that end a rendering when they are put into a cell of a table, into a row of the
  table of a group or into a line;
* `Rendering.fails_checkCell_iff_stumbles`, `Rendering.fails_checkRow_iff` and
  `Rendering.fails_checkLine_iff_stumbles` say that these are all.
-/

namespace ContentModel

open Rendering

/-! ## Steps -/

namespace Rendering

/-- A step and another that does not depend on its outcome. -/
theorem fails_then {α β : Type} {rendering : Except RenderError α}
    {other : Except RenderError β} :
    Fails (rendering >>= fun _ => other) ↔ Fails rendering ∨ Fails other := by
  rw [fails_bind]
  cases rendering <;> simp

theorem fails_forM_cons {α : Type} {check : α → Except RenderError Unit} {value : α}
    {rest : List α} :
    Fails ((value :: rest).forM check) ↔ Fails (check value) ∨ Fails (rest.forM check) := fails_then

theorem fails_forM_iff {α : Type} {check : α → Except RenderError Unit} {values : List α} :
    Fails (values.forM check) ↔ ∃ value ∈ values, Fails (check value) := by
  induction values with
  | nil => exact iff_of_false (not_fails_ok ()) (by simp)
  | cons value rest ih =>
    rw [fails_forM_cons, ih]
    simp

end Rendering

/-! ## Values -/

/-- A value cannot be written with the room that is left: it holds an integer of too many digits, or
lists and objects that nest deeper. -/
inductive Json.Overtaxes : Nat → Json → Prop
  | integer {room : Nat} {n : Int} (long : Digits.isTooLong n = true) : Overtaxes room (.int n)
  | list {items : List Json} : Overtaxes 0 (.arr items)
  | object {members : Members} : Overtaxes 0 (.obj members)
  | item {room : Nat} {items : List Json} {item : Json} (mem : item ∈ items)
      (overtaxed : Overtaxes room item) : Overtaxes (room + 1) (.arr items)
  | member {room : Nat} {members : Members} {pair : String × Json} (mem : pair ∈ members)
      (overtaxed : Overtaxes room pair.2) : Overtaxes (room + 1) (.obj members)

namespace Json

theorem fails_checkItems_iff {room : Nat} {items : List Json} :
    Fails (checkItems room items) ↔ ∃ item ∈ items, Fails (item.checkWritten room) := by
  induction items with
  | nil => exact iff_of_false (not_fails_ok ()) (by simp)
  | cons item rest ih =>
    rw [checkItems, fails_then, ih]
    simp

theorem fails_checkMembers_iff {room : Nat} {members : List (String × Json)} :
    Fails (checkMembers room members) ↔ ∃ pair ∈ members, Fails (pair.2.checkWritten room) := by
  induction members with
  | nil => exact iff_of_false (not_fails_ok ()) (by simp)
  | cons pair rest ih =>
    rw [checkMembers, fails_then, ih]
    simp

/-- The values that are refused are those that cannot be written. -/
theorem fails_checkWritten_iff {room : Nat} {value : Json} :
    Fails (value.checkWritten room) ↔ value.Overtaxes room := by
  induction value using Json.induct generalizing room with
  | int n =>
    rw [checkWritten]
    split
    · next hlong => exact iff_of_true (fails_error _) (.integer hlong)
    · next hshort =>
      refine iff_of_false (not_fails_ok ()) ?_
      rintro ⟨hlong⟩
      exact hshort hlong
  | arr items ih =>
    cases room with
    | zero => exact iff_of_true (fails_error _) .list
    | succ room =>
      rw [checkWritten, fails_checkItems_iff]
      constructor
      · rintro ⟨item, hitem, h⟩
        exact .item hitem ((ih item hitem).1 h)
      · rintro (_ | _ | _ | ⟨hitem, h⟩)
        exact ⟨_, hitem, (ih _ hitem).2 h⟩
  | obj members ih =>
    cases room with
    | zero => exact iff_of_true (fails_error _) .object
    | succ room =>
      rw [checkWritten, fails_checkMembers_iff]
      constructor
      · rintro ⟨pair, hpair, h⟩
        exact .member hpair ((ih pair hpair).1 h)
      · rintro (_ | _ | _ | _ | ⟨hpair, h⟩)
        exact ⟨_, hpair, (ih _ hpair).2 h⟩
  | _ => exact iff_of_false (not_fails_ok ()) nofun

theorem not_overtaxes_str {room : Nat} {text : String} : ¬ (Json.str text).Overtaxes room := nofun

end Json

/-! ## Values of fields -/

/-- A value of a field cannot be written with the room that is left. -/
inductive FieldInfo.Overtaxes (room : Nat) (options : RenderOptions) (field : FieldInfo)
    (value : Json) : Prop
  /-- For one of the parts that are written. -/
  | part {part : Json} (mem : part ∈ field.writtenParts options value)
      (overtaxed : part.Overtaxes room)
  /-- For the containers of a rich text. -/
  | richText {node : RichText.Node} (kind : field.isJsonRte = true)
      (node_eq : RichText.Node.ofJson? value = some node)
      (deep : room < RichText.callsPerContainer * node.depth)

namespace FieldInfo

variable {room : Nat} {options : RenderOptions} {field : FieldInfo} {value : Json}

theorem writtenParts_of_isJsonRte (h : field.isJsonRte = true) :
    field.writtenParts options value = [] := by simp [writtenParts, h]

theorem fails_checkWritten_iff : Fails (field.checkWritten room options value) ↔
    field.Overtaxes room options value := by
  unfold checkWritten
  cases hkind : field.isJsonRte with
  | true =>
    rw [if_pos rfl, RichText.checkWritten]
    constructor
    · intro h
      split at h
      · next node hnode =>
        split at h
        · exact absurd h (not_fails_ok ())
        · next hdeep => exact .richText hkind hnode (Nat.lt_of_not_le hdeep)
      · exact absurd h (not_fails_ok ())
    · rintro (⟨hmem, -⟩ | ⟨-, hnode, hdeep⟩)
      · rw [writtenParts_of_isJsonRte hkind] at hmem
        cases hmem
      · simp only [hnode]
        rw [if_neg (Nat.not_le_of_lt hdeep)]
        exact fails_error _
  | false =>
    rw [if_neg Bool.false_ne_true, checkAll, fails_forM_iff]
    simp only [Json.fails_checkWritten_iff]
    constructor
    · rintro ⟨part, hmem, h⟩
      exact .part hmem h
    · rintro (⟨hmem, h⟩ | ⟨htrue, -, -⟩)
      · exact ⟨_, hmem, h⟩
      · exact absurd (hkind.symm.trans htrue) Bool.false_ne_true

/-- What cannot be written is not left out as empty. -/
theorem Overtaxes.isEmptyValue_eq (h : field.Overtaxes room options value) :
    value.isEmptyValue = false := by
  cases h with
  | part mem =>
    cases hempty : value.isEmptyValue with
    | false => rfl
    | true => simp [writtenParts, hempty] at mem
  | richText _ node_eq =>
    cases value with
    | obj members => rfl
    | _ => cases node_eq

/-! ## Cells, rows and lines -/

/-- A value of a field ends a rendering when it is put into a cell of a table. -/
def StumblesInCell (room : Nat) (options : RenderOptions) (field : FieldInfo) (value : Json) :
    Prop :=
  field.Overtaxes room options value ∨ field.Unwritable value

/-- A value of a field ends a rendering when it is put into the table of a group. Of an image only
the address is written. -/
def StumblesInRow (room : Nat) (options : RenderOptions) (field : FieldInfo) (value : Json) :
    Prop :=
  if field.kind = some .file && hasUrl value && isImage value then
    (valueOf value.members "url").Overtaxes room
  else field.StumblesInCell room options value

/-- A value of a field ends a rendering when it is put into a line, where a title or name that is no
text is written too. -/
def StumblesInLine (room : Nat) (options : RenderOptions) (field : FieldInfo) (value : Json) :
    Prop :=
  field.Overtaxes room options value ∨ field.Unshowable value ∨
    ∃ rendered, primitive options field value = .ok rendered ∧ rendered.Overtaxes room

theorem StumblesInCell.isEmptyValue_eq (h : field.StumblesInCell room options value) :
    value.isEmptyValue = false := h.elim (·.isEmptyValue_eq) (·.isEmptyValue_eq)

theorem StumblesInRow.isEmptyValue_eq (h : field.StumblesInRow room options value) :
    value.isEmptyValue = false := by
  unfold StumblesInRow at h
  split at h
  · cases value with
    | obj members => rfl
    | _ => cases h
  · exact h.isEmptyValue_eq

theorem StumblesInLine.isEmptyValue_eq (h : field.StumblesInLine room options value) :
    value.isEmptyValue = false := by
  rcases h with h | h | ⟨rendered, hrendered, hover⟩
  · exact h.isEmptyValue_eq
  · exact h.isEmptyValue_eq
  · cases hempty : value.isEmptyValue with
    | false => rfl
    | true =>
      unfold primitive at hrendered
      rw [if_pos hempty] at hrendered
      cases hrendered
      exact absurd hover Json.not_overtaxes_str

end FieldInfo

namespace Rendering

variable {room : Nat} {options : RenderOptions} {members : Members}

/-- What is only said of filled values does not hold of a value that is left out. -/
theorem not_of_skipped {p : Prop} {value : Json} (hskip : skipped options value = true)
    (h : p → value.isEmptyValue = false) : ¬ p := by
  intro hp
  simp [skipped, h hp] at hskip

theorem fails_primitiveWithin_iff {field : FieldInfo} {value : Json} :
    Fails (primitiveWithin room options field value) ↔
      field.Overtaxes room options value ∨ Fails (primitive options field value) := by
  rw [primitiveWithin, fails_then, FieldInfo.fails_checkWritten_iff]

/-- A value of a field that can be written is rendered within the limits as it is without them. -/
theorem primitiveWithin_eq {field : FieldInfo} {value : Json}
    (h : ¬ field.Overtaxes room options value) :
    primitiveWithin room options field value = primitive options field value := by
  obtain ⟨⟨⟩, hok⟩ := not_fails_iff.1 (mt FieldInfo.fails_checkWritten_iff.1 h)
  rw [primitiveWithin, hok]
  rfl

theorem fails_checkLine_iff {field : FieldInfo} {value : Json} :
    Fails (checkLine room options field value) ↔
      field.Overtaxes room options value ∨ Fails (primitive options field value) ∨
        ∃ rendered, primitive options field value = .ok rendered ∧ rendered.Overtaxes room := by
  rw [checkLine, fails_bind, fails_primitiveWithin_iff, or_assoc]
  by_cases hover : field.Overtaxes room options value
  · simp [hover]
  · simp only [hover, false_or, primitiveWithin_eq hover, Json.fails_checkWritten_iff]

theorem fails_checkCell_iff {field : FieldInfo} {value : Json} :
    Fails (checkCell room options field value) ↔
      field.Overtaxes room options value ∨
        Fails ((primitive options field value).bind cellText) := by
  have hcell : checkCell room options field value =
      (primitiveWithin room options field value >>= cellText) >>= fun _ => pure () := by
    rw [checkCell, bind_assoc]
  rw [hcell, fails_then]
  by_cases hover : field.Overtaxes room options value
  · have hfails : Fails (primitiveWithin room options field value) :=
      fails_primitiveWithin_iff.2 (Or.inl hover)
    simp [hover, fails_bind, hfails]
  · rw [primitiveWithin_eq hover]
    simp only [hover, false_or, pure, Except.pure, not_fails_ok, or_false]
    rfl

section Formatters

variable (hdate : options.formatDate = Formatter.date)
  (hnumber : options.formatNumber = Formatter.number)

include hdate hnumber

theorem fails_checkCell_iff_stumbles (field : FieldInfo) (value : Json) :
    Fails (checkCell room options field value) ↔ field.StumblesInCell room options value := by
  rw [fails_checkCell_iff, (field.primitive_shows hdate hnumber value).fails_cellText_iff]
  rfl

theorem fails_checkLine_iff_stumbles (field : FieldInfo) (value : Json) :
    Fails (checkLine room options field value) ↔ field.StumblesInLine room options value := by
  rw [fails_checkLine_iff, (field.primitive_shows hdate hnumber value).fails_iff]
  rfl

theorem fails_checkRow_iff (field : Field) :
    Fails (checkRow room options members field) ↔ hidden options field.uid = false ∧
      field.StumblesInRow room options (valueOf members field.uid) := by
  unfold checkRow
  dsimp only
  cases hhidden : hidden options field.uid with
  | true => simp
  | false =>
    cases hskip : skipped options (valueOf members field.uid) with
    | true =>
      rw [if_pos (Bool.or_true false)]
      exact iff_of_false (not_fails_ok ())
        fun h => not_of_skipped hskip FieldInfo.StumblesInRow.isEmptyValue_eq h.2
    | false =>
      rw [if_neg (by decide), and_iff_right rfl, FieldInfo.StumblesInRow]
      split
      · exact Json.fails_checkWritten_iff
      · exact fails_checkCell_iff_stumbles hdate hnumber _ _

end Formatters

end Rendering

end ContentModel
