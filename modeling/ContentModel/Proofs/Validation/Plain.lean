import ContentModel.Proofs.Validation.Compiled
import ContentModel.Proofs.Validation.Settled

/-!
# Checks of plain fields

The compiled checks of fields without nested definitions, kind by kind.

* `FieldInfo.compiledPlain_cases` lists them: checks that leave values as they are, and the shapes
  of structured values;
* `Field.stable_of_plain` says that they are stable, `Field.keepsForm_compiled` that the checks of
  all fields keep the form of values;
* `FieldInfo.takesNull` tells which fields accept null as a value.
-/

namespace ContentModel

/-- Null is a choice only where it is listed. -/
theorem Json.isChoice_null (choices : List Json) :
    Json.isChoice .null choices = choices.contains .null := by
  have hsame : ∀ choice, (looselyEquals .null choice && isBool .null == isBool choice) =
      (Json.null == choice) := by
    intro choice
    cases choice <;> simp [looselyEquals, isBool]
  rw [isChoice, List.contains_eq_any_beq]
  simp only [hsame]

namespace FieldInfo

variable {mode : Mode} {info : FieldInfo}

/-- Whether null is a value of a field, and not only the mark of an optional field without one. -/
def takesNull (info : FieldInfo) : Bool :=
  !info.isListed && match info.kind with
    | some .text => !info.isRichText && info.choiceValues.contains .null
    | some .json => !info.isJsonRte
    | none => true
    | _ => false

/-- The check of a text field is that of its choices, or one of texts. -/
theorem compiledPlain_text (mode : Mode) (h : info.kind = some .text) :
    (info.isRichText = false ∧ info.choiceValues ≠ [] ∧
        info.compiledPlain mode = .choice info.choiceValues) ∨
      ((info.isRichText = true ∨ info.choiceValues = []) ∧
        ∃ problem?, info.compiledPlain mode = .textWith problem?) := by
  simp only [compiledPlain, plainChecker, h, textChecker]
  split
  · next checker hresult =>
    split at hresult
    · next hrich =>
      cases hresult
      exact Or.inr ⟨Or.inl hrich, _, rfl⟩
    · next hrich =>
      split at hresult
      · next hchoices =>
        cases hresult
        exact Or.inl ⟨by simpa using hrich, by simpa using hchoices, rfl⟩
      · next hchoices =>
        refine Or.inr ⟨Or.inr (by simpa using hchoices), ?_⟩
        split at hresult
        · unfold formatChecker at hresult
          split at hresult <;> cases hresult <;> exact ⟨_, rfl⟩
        · cases hresult
          exact ⟨_, rfl⟩
  · next hresult =>
    split at hresult
    · cases hresult
    · split at hresult
      · cases hresult
      · next hchoices => exact Or.inr ⟨Or.inr (by simpa using hchoices), _, rfl⟩

theorem compiledPlain_isodate (mode : Mode) (h : info.kind = some .isodate) :
    ∃ problem?, info.compiledPlain mode = .textWith problem? := by
  simp only [compiledPlain, plainChecker, h, dateChecker]
  split
  · next checker hresult =>
    split at hresult
    · cases hresult
      exact ⟨_, rfl⟩
    · simp only [Build.result_bind] at hresult
      obtain ⟨first, -, hresult⟩ := Build.bind_eq_ok hresult
      obtain ⟨last, -, hresult⟩ := Build.bind_eq_ok hresult
      cases hresult
      exact ⟨_, rfl⟩
  · exact ⟨_, rfl⟩

/-- The check of a plain field leaves values as they are, or is that of a structured value. -/
theorem compiledPlain_cases (mode : Mode) (info : FieldInfo) :
    (∃ problem?, info.compiledPlain mode = .leaf problem?) ∨
      info.compiledPlain mode ∈ [ValueShape.asset, ValueShape.link, ValueShape.reference,
        .list none ValueShape.taxonomyTerm, RichTextShape.document] := by
  cases hkind : info.kind with
  | none => exact Or.inl ⟨_, by rw [compiledPlain, plainChecker, hkind]; rfl⟩
  | some kind =>
    cases kind with
    | text =>
      rcases compiledPlain_text mode hkind with ⟨-, -, h⟩ | ⟨-, problem?, h⟩
      · exact Or.inl ⟨_, h⟩
      · exact Or.inl ⟨_, h⟩
    | isodate =>
      obtain ⟨problem?, h⟩ := compiledPlain_isodate mode hkind
      exact Or.inl ⟨_, h⟩
    | file =>
      cases mode with
      | read => exact Or.inr (by simp [compiledPlain, plainChecker, hkind, fileChecker])
      | upsert => exact Or.inl ⟨_, by rw [compiledPlain, plainChecker, hkind]; rfl⟩
    | json =>
      by_cases hrte : info.isJsonRte = true
      · exact Or.inr (by simp [compiledPlain, plainChecker, hkind, hrte])
      · exact Or.inl ⟨_, by rw [compiledPlain, plainChecker, hkind]; simp [hrte]; rfl⟩
    | link => exact Or.inr (by simp [compiledPlain, plainChecker, hkind])
    | reference => exact Or.inr (by simp [compiledPlain, plainChecker, hkind])
    | globalField => exact Or.inr (by simp [compiledPlain, plainChecker, hkind])
    | taxonomy => exact Or.inr (by simp [compiledPlain, plainChecker, hkind])
    | _ => exact Or.inl ⟨_, by rw [compiledPlain, plainChecker, hkind]; rfl⟩

theorem findings_compiledPlain_null_iff (hg : info.kind ≠ some .group)
    (hb : info.kind ≠ some .blocks) (hlisted : info.isListed = false) :
    (info.compiledPlain mode).findings .null = [] ↔ info.takesNull = true := by
  unfold takesNull
  rw [hlisted]
  cases hkind : info.kind with
  | none => simp [compiledPlain, plainChecker, hkind, Checker.any, Checker.leaf]
  | some kind =>
    cases kind with
    | group => exact absurd hkind hg
    | blocks => exact absurd hkind hb
    | text =>
      rcases compiledPlain_text mode hkind with ⟨hrich, -, h⟩ | ⟨hnone, problem?, h⟩
      · simp [h, hrich, Checker.choice, Checker.leaf_findings_eq_nil, Json.isChoice_null]
      · rcases hnone with hrich | hchoices
        · simp [h, hrich, Checker.textWith, Checker.leaf_findings_eq_nil]
        · simp [h, hchoices, Checker.textWith, Checker.leaf_findings_eq_nil]
    | isodate =>
      obtain ⟨problem?, h⟩ := compiledPlain_isodate mode hkind
      simp [h, Checker.textWith, Checker.leaf_findings_eq_nil]
    | json =>
      by_cases hrte : info.isJsonRte = true
      · simp [compiledPlain, plainChecker, hkind, hrte, RichTextShape.document, Checker.record]
      · simp [compiledPlain, plainChecker, hkind, hrte, Checker.any, Checker.leaf]
    | file =>
      cases mode <;> simp [compiledPlain, plainChecker, hkind, fileChecker, ValueShape.asset,
        Checker.record, Checker.filledText, Checker.textWith, Checker.leaf]
    | number => simp [compiledPlain, plainChecker, hkind, Checker.number, Checker.leaf]
    | boolean => simp [compiledPlain, plainChecker, hkind, Checker.boolean, Checker.leaf]
    | link => simp [compiledPlain, plainChecker, hkind, ValueShape.link, Checker.record]
    | reference => simp [compiledPlain, plainChecker, hkind, ValueShape.reference, Checker.record]
    | globalField => simp [compiledPlain, plainChecker, hkind, ValueShape.reference, Checker.record]
    | taxonomy => simp [compiledPlain, plainChecker, hkind, Checker.list]

theorem stable_compiledPlain (mode : Mode) (info : FieldInfo) :
    (info.compiledPlain mode).Stable := by
  rcases compiledPlain_cases mode info with ⟨problem?, h⟩ | h
  · rw [h]
    exact .leaf problem?
  · simp only [List.mem_cons, List.not_mem_nil, or_false] at h
    rcases h with h | h | h | h | h <;> rw [h]
    · exact ValueShape.asset_ofTexts.stable
    · exact ValueShape.link_ofTexts.stable
    · exact ValueShape.reference_ofTexts.stable
    · exact .list _ ValueShape.taxonomyTerm_ofTexts.stable
    · exact RichTextShape.stable_document

theorem keepsForm_compiledPlain (mode : Mode) (info : FieldInfo) :
    (info.compiledPlain mode).KeepsForm := by
  rcases compiledPlain_cases mode info with ⟨problem?, h⟩ | h
  · rw [h]
    exact .leaf problem?
  · simp only [List.mem_cons, List.not_mem_nil, or_false] at h
    rcases h with h | h | h | h | h <;> rw [h]
    · exact .record _ _
    · exact .record _ _
    · exact .record _ _
    · exact .list _ _
    · exact .record _ _

end FieldInfo

namespace Field

variable {mode : Mode} {draft : Bool} {field : Field}

theorem keepsForm_compiled (mode : Mode) (draft : Bool) (field : Field) :
    (field.compiled mode draft).KeepsForm := by
  by_cases hg : field.kind = some .group
  · rw [compiled_group hg]
    unfold FieldInfo.groupChecker
    split
    · exact .list _ _
    · exact .record _ _
  · by_cases hb : field.kind = some .blocks
    · rw [compiled_blocks hb]
      split
      · exact .list _ _
      · exact .list _ _
    · rw [compiled_plain hg hb]
      split
      · exact .list _ _
      · exact field.keepsForm_compiledPlain mode

theorem keepsForm_slotWith (field : Field) (index : Nat) :
    (field.slotWith draft index (field.compiled mode draft)).checker.KeepsForm := by
  rw [FieldInfo.checker_slotWith]
  split
  · exact keepsForm_compiled mode draft field
  · exact (keepsForm_compiled mode draft field).nullable

theorem keepsForm_recordSlots {fields : List Field} {withMetadata : Bool} {slot : Slot}
    (h : slot ∈ recordSlots mode draft withMetadata fields) : slot.checker.KeepsForm := by
  rcases List.mem_append.1 h with h | h
  · obtain ⟨i, field, -, rfl⟩ := mem_compiledSlots.1 h
    exact keepsForm_slotWith field i
  · rw [(eq_metadataSlot h).1]
    exact .nullable (.record _ _)

theorem stable_of_plain (hg : field.kind ≠ some .group) (hb : field.kind ≠ some .blocks) :
    (field.compiled mode draft).Stable := by
  rw [compiled_plain hg hb]
  split
  · exact .list _ (field.stable_compiledPlain mode)
  · exact field.stable_compiledPlain mode

/-- A check takes null as a value just when its field does. -/
theorem findings_compiled_null_iff :
    (field.compiled mode draft).findings .null = [] ↔ field.takesNull = true := by
  by_cases hg : field.kind = some .group
  · rw [compiled_group hg]
    unfold FieldInfo.groupChecker
    split <;> simp [Checker.list, Checker.record, FieldInfo.takesNull, hg]
  · by_cases hb : field.kind = some .blocks
    · rw [compiled_blocks hb]
      split <;> simp [Checker.list, FieldInfo.takesNull, hb]
    · rw [compiled_plain hg hb]
      cases hlisted : field.isListed with
      | true => simp [Checker.list, FieldInfo.takesNull, hlisted]
      | false =>
        rw [if_neg Bool.false_ne_true]
        exact field.findings_compiledPlain_null_iff hg hb hlisted

end Field

theorem BlockOf.keepsForm_payload (mode : Mode) (draft : Bool) (uid : String)
    (block : BlockDefinition) :
    (block.compiledPayload mode draft uid).KeepsForm := by
  obtain ⟨info, fields⟩ := block
  rw [compiledPayload]
  split
  · exact .record _ _
  · exact .record _ _

end ContentModel
