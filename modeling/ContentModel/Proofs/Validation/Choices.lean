import ContentModel.Proofs.Json.Equal
import ContentModel.Proofs.Validation.Acceptance

/-!
# Choices

Which values a field with choices accepts.

* `Field.result_checker_choices` is the check that such a field is built to;
* `Field.choices_accept` is the main statement: a value is accepted when it equals a choice once the
  booleans inside of lists and objects are read as numbers. This is equality with a choice where no
  choice holds a boolean, a zero or a one inside of a list or object.
-/

namespace ContentModel

open Json

namespace Field

variable {mode : Mode} {draft : Bool} {field : Field} {depth : Nat}

/-- A field with choices can be built down to the deepest level. -/
theorem result_checker_choices (hkind : field.kind = some .text) (hrich : field.isRichText = false)
    (hchoices : field.choiceValues ≠ []) (hsingle : field.multiple = false)
    (hdepth : depth ≤ ContentTypeError.maxDepth) :
    (field.checker mode draft depth).result = .ok (.choice field.choiceValues) := by
  obtain ⟨info, fields, blocks⟩ := field
  have hplain : info.plainChecker mode = .done (.choice info.choiceValues) := by
    rw [FieldInfo.plainChecker, hkind]
    have hempty : info.choiceValues.isEmpty = false := by simpa using hchoices
    change info.textChecker = _
    rw [FieldInfo.textChecker, hrich, hempty]
    rfl
  have hlisted : info.isListed = false := by
    change info.multiple = false at hsingle
    simp [FieldInfo.isListed, hsingle]
  rw [checker, if_neg (Nat.not_lt.2 hdepth)]
  split
  · next h => rw [hkind] at h; cases h
  · next h => rw [hkind] at h; cases h
  · simp [hplain, hlisted, Except.bind]

/-- Nothing is found in a value under the key of a mandatory field with choices just when it is one
of them. -/
theorem findings_choices_iff (hmandatory : field.mandatory = true) (index : Nat) (value : Json) :
    (field.slotWith draft index (.choice field.choiceValues)).checker.findings value = [] ↔
      value.isChoice field.choiceValues = true := by
  rw [FieldInfo.checker_slotWith, if_pos hmandatory, Checker.choice, Checker.leaf_findings_eq_nil]
  simp

/-- **Choices.** A text field with choices can be built at any allowed depth. A value under its key
is accepted when it equals one of the choices, be it only once the booleans inside of lists and
objects have been replaced by numbers on both sides. So all values that equal a choice are accepted,
and these are the only ones if no boolean and no zero or one stands inside of a list or object in
the choices. -/
theorem choices_accept (hkind : field.kind = some .text) (hrich : field.isRichText = false)
    (hchoices : field.choiceValues ≠ []) (hmandatory : field.mandatory = true)
    (hsingle : field.multiple = false) (hdepth : depth ≤ ContentTypeError.maxDepth)
    (hdistinct : ∀ choice ∈ field.choiceValues, choice.KeysDistinct) :
    ∃ checker, (field.checker mode draft depth).result = .ok checker ∧
      ∀ (index : Nat) (value : Json), value.KeysDistinct →
        ((field.slotWith draft index checker).checker.findings value = [] ↔
          ∃ choice ∈ field.choiceValues, Equal value.countedWithin choice.countedWithin) ∧
        ((∃ choice ∈ field.choiceValues, Equal value choice) →
          (field.slotWith draft index checker).checker.findings value = []) ∧
        ((∀ choice ∈ field.choiceValues, choice.Unmistakable) →
          ((field.slotWith draft index checker).checker.findings value = [] ↔
            ∃ choice ∈ field.choiceValues, Equal value choice)) := by
  refine ⟨_, result_checker_choices hkind hrich hchoices hsingle hdepth, ?_⟩
  intro index value hvalue
  have haccepts : (field.slotWith draft index (.choice field.choiceValues)).checker.findings value
      = [] ↔ ∃ choice ∈ field.choiceValues, Equal value.countedWithin choice.countedWithin := by
    rw [findings_choices_iff hmandatory, isChoice_iff hvalue hdistinct]
  have hequal : ∀ {choice : Json}, Equal value choice →
      Equal value.countedWithin choice.countedWithin :=
    fun h => equal_countedWithin_iff.2 ⟨h.counted, h.isBool_eq⟩
  refine ⟨haccepts, ?_, fun hunmistakable => haccepts.trans ⟨?_, ?_⟩⟩
  · rintro ⟨choice, hmem, h⟩
    exact haccepts.2 ⟨choice, hmem, hequal h⟩
  · rintro ⟨choice, hmem, h⟩
    exact ⟨choice, hmem, h.of_countedWithin (hunmistakable choice hmem)⟩
  · rintro ⟨choice, hmem, h⟩
    exact ⟨choice, hmem, hequal h⟩

/-- A field whose only choice is the list of the number one accepts the list of true, which is not
equal to it, while a field whose choice is one does not accept true. -/
theorem choices_accept_list :
    let field (choice : Json) : Field :=
      ⟨{ uid := "size", dataType := some "text", mandatory := true,
         choices := some { choices := [{ value := choice }] } }, [], []⟩
    ∃ single list : Checker,
      ((field (.int 1)).checker .read false 0).result = .ok single ∧
      ((field (.arr [.int 1])).checker .read false 0).result = .ok list ∧
      ((field (.int 1)).slotWith false 0 single).checker.findings (.bool true) ≠ [] ∧
      ((field (.arr [.int 1])).slotWith false 0 list).checker.findings (.arr [.bool true]) = [] ∧
      ¬ Equal (.arr [.bool true]) (.arr [.int 1]) := by
  intro field
  have hlist : (Json.arr [.int 1]).KeysDistinct := .arr (by simpa using KeysDistinct.int 1)
  have htrue : (Json.arr [.bool true]).KeysDistinct := .arr (by simpa using KeysDistinct.bool true)
  obtain ⟨single, hsingle, hone⟩ := @choices_accept .read false (field (.int 1)) 0 rfl rfl
    (by simp [field, FieldInfo.choiceValues]) rfl rfl (by decide)
    (by simpa [field, FieldInfo.choiceValues] using KeysDistinct.int 1)
  obtain ⟨list, hlisted, hmany⟩ := @choices_accept .read false (field (.arr [.int 1])) 0 rfl rfl
    (by simp [field, FieldInfo.choiceValues]) rfl rfl (by decide)
    (by simpa [field, FieldInfo.choiceValues] using hlist)
  refine ⟨single, list, hsingle, hlisted, ?_, ?_, ?_⟩
  · rw [Ne, (hone 0 (.bool true) (.bool true)).1]
    simp [field, FieldInfo.choiceValues, countedWithin, counted, equal_bool_iff]
  · refine (hmany 0 _ htrue).1.2 ⟨.arr [.int 1], by simp [field, FieldInfo.choiceValues], ?_⟩
    exact .arr rfl fun i item other hitem hother => by
      simp only [countedItems, counted, if_true] at hitem hother
      rw [hitem, Option.some.injEq] at hother
      subst hother
      obtain rfl := List.mem_singleton.1 (List.mem_of_getElem? hitem)
      exact .number rfl rfl
  · rw [equal_arr_iff]
    rintro ⟨_, heq, -, hitems⟩
    cases heq
    have := hitems 0 _ _ rfl rfl
    rw [equal_bool_iff] at this
    cases this

end Field

end ContentModel
