import ContentModel.Proofs.Json.Form
import ContentModel.Proofs.Schema.Conformance
import ContentModel.Proofs.Validation.Building

/-!
# Accepted entries

Nothing is found in a value just when it conforms to the definitions.

* `Checker.Tests` says that a check finds nothing in exactly the values with a property; it is shown
  for the checks of single values, for null, lists and records, and for the shapes of structured
  values;
* `FieldInfo.tests_compiledPlain` and `Field.tests_compiled` say it of the compiled checks of a
  field, provided building the field does not end with an error, `Field.tests_checker` of the check
  that a field is built to;
* `Validator.ok_check_iff_conforms` says it of the validators of a content type.
-/

namespace ContentModel

open Json

variable {mode : Mode} {draft : Bool}

namespace Checker

/-- A check finds nothing in exactly the values with a property. -/
def Tests (checker : Checker) (P : Json → Prop) : Prop :=
  ∀ value, checker.findings value = [] ↔ P value

/-! ## Single values -/

theorem tests_any : any.Tests fun _ => True := fun _ => by simp [any, leaf]

theorem tests_textWith (problem? : String → Option Problem) :
    (textWith problem?).Tests fun value => ∃ s, value = .str s ∧ problem? s = none := by
  intro value
  rw [textWith, leaf_findings_eq_nil]
  cases value <;> simp

theorem tests_text : text.Tests IsText := by
  intro value
  rw [text, tests_textWith]
  simp [IsText]

theorem tests_filledText : filledText.Tests IsName := by
  intro value
  rw [filledText, tests_textWith]
  simp [IsName]

theorem tests_number : number.Tests IsNumber := by
  intro value
  rw [number, leaf_findings_eq_nil]
  cases value <;> simp [IsNumber]

theorem tests_boolean : boolean.Tests IsBoolean := by
  intro value
  rw [boolean, leaf_findings_eq_nil]
  cases value <;> simp [IsBoolean]

theorem tests_mapping : mapping.Tests (IsRecord fun _ => True) := by
  intro value
  rw [mapping, leaf_findings_eq_nil]
  cases value <;> simp [IsRecord]

theorem tests_documentType : documentType.Tests (· = .str "doc") := by
  intro value
  rw [documentType, tests_textWith]
  simp

theorem isBool_eq_true_iff (value : Json) : isBool value = true ↔ IsBoolean value := by
  cases value <;> simp [isBool, IsBoolean]

theorem tests_choice (choices : List Json) : (choice choices).Tests fun value =>
    ∃ choice ∈ choices,
      looselyEquals value choice = true ∧ (IsBoolean value ↔ IsBoolean choice) := by
  intro value
  have hsame : ∀ choice : Json, (isBool value == isBool choice) = true ↔
      (IsBoolean value ↔ IsBoolean choice) := by
    intro choice
    rw [beq_iff_eq, Bool.eq_iff_iff, isBool_eq_true_iff, isBool_eq_true_iff]
  rw [choice, leaf_findings_eq_nil, isChoice]
  simp only [← hsame]
  simp

theorem tests_isoDate :
    isoDate.Tests fun value => ∃ s, value = .str s ∧ Iso.isIsoDate s = true := by
  intro value
  rw [isoDate, tests_textWith]
  simp

theorem tests_pattern (format : Format) :
    (pattern format).Tests fun value => ∃ s, value = .str s ∧ format.accepts s = true := by
  intro value
  rw [pattern, tests_textWith]
  simp

theorem tests_timestamp (first last : Option Instant) : (timestamp first last).Tests fun value =>
    ∃ s, value = .str s ∧ Iso.isTimestamp s = true ∧ ∃ t, Iso.readInstant s = .instant t ∧
      (∀ bound, first = some bound → bound.micros ≤ t.micros) ∧
      (∀ bound, last = some bound → t.micros ≤ bound.micros) := by
  intro value
  rw [timestamp, tests_textWith]
  refine exists_congr fun s => and_congr_right fun _ => ?_
  by_cases hform : Iso.isTimestamp s = true
  · cases hread : Iso.readInstant s with
    | nothing => simp [hform]
    | outOfRange => simp [hform]
    | instant t =>
      cases first <;> cases last <;> simp [hform, Instant.before]
  · simp [hform]

/-! ## Null, lists and records -/

variable {checker : Checker} {P : Json → Prop}

/-- Nothing is found in a list just when its items have a property, if this is how its items are
checked. -/
theorem findings_list_iff {value : Json}
    (h : ∀ items, value = .arr items → ∀ item ∈ items, (checker.findings item = [] ↔ P item)) :
    (list none checker).findings value = [] ↔ IsListOf P value := by
  rw [findings_list_eq_nil, IsListOf]
  refine exists_congr fun items => and_congr_right fun hitems => ?_
  simp only [exceeds, true_and]
  exact forall₂_congr (h items hitems)

theorem Tests.list (h : checker.Tests P) : (list none checker).Tests (IsListOf P) :=
  fun _ => findings_list_iff fun _ _ item _ => h item

theorem Tests.nullable (h : checker.Tests P) : checker.nullable.Tests (OrNull P) := by
  intro value
  rw [findings_nullable_eq_nil, h value, OrNull]

theorem tests_record {shape : Shape} {slots : List Slot} {Q : Members → Prop}
    (htag : shape.isTagged = false)
    (h : ∀ members, (∀ slot ∈ slots, slot.findings members = []) ↔ Q members) :
    (record shape slots).Tests (IsRecord Q) := by
  intro value
  rw [findings_record_eq_nil, IsRecord]
  simp only [htag, Bool.false_eq_true, false_implies, true_and, h]

end Checker

namespace Slot

variable {slot : Slot} {members : Members} {P : Json → Prop}

/-- Nothing is found in a slot with one key when it is given or need not be, and its member has the
property that is asked for. -/
theorem findings_member_iff (hother : slot.otherKey = none)
    (h : ∀ value, members.get? slot.key = some value →
      (slot.checker.findings value = [] ↔ P value)) :
    slot.findings members = [] ↔ (members.get? slot.key = none → slot.required = false) ∧
      members.Optional slot.key P := by
  have hnone : slot.read members = none ↔ members.get? slot.key = none := by
    rw [read_of_otherKey hother, Option.map_eq_none_iff]
  rw [findings_eq_nil, hnone, and_comm]
  refine and_congr_right fun _ => ⟨fun hall value hvalue => ?_, fun hall key value hread => ?_⟩
  · exact (h value hvalue).1 (hall slot.key value (read_of_get? hvalue))
  · obtain ⟨-, hvalue⟩ := (read_eq_some_iff hother).1 hread
    exact (h value hvalue).2 (hall value hvalue)

theorem findings_optional_iff {key : String} {checker : Checker} (h : checker.Tests P) :
    (RichTextShape.optional key checker).findings members = [] ↔
      members.Optional key (OrNull P) := by
  rw [findings_member_iff rfl fun value _ => h.nullable value]
  simp [RichTextShape.optional]

/-- A slot that has to be given. -/
theorem findings_required_iff (hother : slot.otherKey = none) (hrequired : slot.required = true)
    (h : slot.checker.Tests P) : slot.findings members = [] ↔ members.Given slot.key P := by
  rw [findings_member_iff hother fun value _ => h value]
  cases hget : members.get? slot.key <;> simp [hrequired, hget, Members.Given, Members.Optional]

theorem findings_name_iff {key : String} :
    (ValueShape.name key).findings members = [] ↔ members.Given key IsName :=
  findings_required_iff rfl rfl Checker.tests_filledText

end Slot

/-! ## Structured values -/

namespace RichTextShape

/-- Nothing is found in the members of a node when they are those of a node, if this is how the
nodes below it are checked. -/
theorem findings_nodeSlots_iff {members : Members}
    (h : ∀ items, members.get? "children" = some (.arr items) → ∀ item ∈ items,
      (node.findings item = [] ↔ IsNode item)) :
    (∀ slot ∈ nodeSlots (Checker.list none node).nullable, slot.findings members = []) ↔
      IsNode (.obj members) := by
  have hchildren : Slot.findings
        { key := "children", handle := "children", checker := (Checker.list none node).nullable }
        members = [] ↔ members.Optional "children" (OrNull (IsListOf IsNode)) := by
    rw [Slot.findings_member_iff (P := OrNull (IsListOf IsNode)) rfl fun value hvalue => ?_]
    · simp
    · rw [Checker.findings_nullable_eq_nil, OrNull, Checker.findings_list_iff]
      rintro items rfl
      exact h items hvalue
  rw [isNode_obj_iff]
  simp only [nodeSlots, List.forall_mem_cons, hchildren,
    Slot.findings_optional_iff Checker.tests_text, Slot.findings_optional_iff Checker.tests_boolean,
    Slot.findings_optional_iff Checker.tests_mapping]
  simp only [List.not_mem_nil, false_implies, implies_true, and_true]
  constructor
  · rintro ⟨type, text, children, attrs, uid, marks⟩
    exact ⟨⟨type, text, uid⟩, attrs, marks, children⟩
  · rintro ⟨⟨type, text, uid⟩, attrs, marks, children⟩
    exact ⟨type, text, children, attrs, uid, marks⟩

theorem tests_node : node.Tests IsNode := by
  intro value
  induction value using Json.inductUnder "children" with
  | other value hvalue =>
    cases value with
    | obj members => cases hvalue
    | _ => exact ⟨nofun, nofun⟩
  | obj members ih =>
    have hobj : node.findings (.obj members) = (Checker.record nodeShape
        (nodeSlots (Checker.list none node).nullable)).findings (.obj members) :=
      nodeFindings_obj members
    rw [← findings_nodeSlots_iff ih, hobj, Checker.findings_record_eq_nil]
    simp [nodeShape]

theorem tests_document : document.Tests IsDocument := by
  refine Checker.tests_record rfl fun members => ?_
  simp only [List.forall_mem_cons, Slot.findings_optional_iff Checker.tests_text,
    Slot.findings_optional_iff Checker.tests_mapping]
  rw [Slot.findings_required_iff rfl rfl Checker.tests_documentType,
    Slot.findings_required_iff rfl rfl tests_node.list]
  simp

end RichTextShape

namespace ValueShape

theorem tests_asset : asset.Tests IsAsset := by
  refine Checker.tests_record rfl fun members => ?_
  simp only [List.forall_mem_cons, Slot.findings_name_iff, optionalText,
    Slot.findings_optional_iff Checker.tests_text]
  simp

theorem tests_link : link.Tests IsLink := by
  refine Checker.tests_record rfl fun members => ?_
  simp only [List.forall_mem_cons, optionalText, Slot.findings_optional_iff Checker.tests_text]
  simp

theorem tests_taxonomyTerm : taxonomyTerm.Tests IsTerm := by
  refine Checker.tests_record rfl fun members => ?_
  simp only [List.forall_mem_cons, Slot.findings_name_iff]
  simp

theorem tests_itemMetadata : itemMetadata.Tests IsMetadata := by
  refine Checker.tests_record rfl fun members => ?_
  simp only [List.forall_mem_cons, optionalText, Slot.findings_optional_iff Checker.tests_text]
  simp

theorem tests_reference : reference.Tests IsReference := by
  refine Checker.tests_record rfl fun members => ?_
  rw [List.forall_mem_cons, List.forall_mem_singleton, Slot.findings_name_iff]
  refine and_congr_right fun _ => ?_
  simp only [Slot.findings_eq_nil, Slot.read, Checker.tests_text.nullable _]
  cases hfirst : members.get? "_content_type_uid" with
  | some value => simp
  | none => cases hsecond : members.get? "content_type_uid" <;> simp [hsecond]

end ValueShape

/-! ## Fields without nested definitions -/

/-- A bound that does not end the building is the instant that its text names, if it names one. -/
theorem result_boundOf {field : String} {raw : Option String}
    (h : firstError (boundEvents field raw) = none) :
    ∃ bound, (boundOf field raw).result = .ok bound ∧
      ∀ t, bound = some t ↔
        ∃ text, filled? raw = some text ∧ Iso.readInstant text = .instant t := by
  unfold boundEvents at h
  unfold boundOf
  cases hraw : filled? raw with
  | none => exact ⟨none, rfl, by simp⟩
  | some text =>
    rw [hraw] at h
    cases hread : Iso.readInstant text with
    | nothing => exact ⟨none, by simp [readBound, hread, Build.warned], by simp [hread]⟩
    | instant t => exact ⟨some t, by simp [readBound, hread], by simp [hread]⟩
    | outOfRange =>
      simp only [hread] at h
      cases h

namespace FieldInfo

variable {info : FieldInfo}

theorem tests_of_done {checker : Checker} {P : Json → Prop}
    (h : info.plainChecker mode = .done checker) (htests : checker.Tests P) :
    (info.compiledPlain mode).Tests P := by
  rwa [compiledPlain_of_done h]

/-- The check of a text in a format, which is no check where the format is no pattern. -/
theorem result_formatChecker {raw : String} (h : firstError (info.formatEvents raw) = none) :
    ∃ checker, (info.formatChecker raw).result = .ok checker ∧
      checker.Tests fun value => ∃ s, value = .str s ∧ ∀ format, Format.compile raw = .ok format →
        format.accepts s = true := by
  unfold formatEvents at h
  unfold formatChecker
  cases hcompile : Format.compile raw with
  | ok format =>
    refine ⟨.pattern format, rfl, fun value => ?_⟩
    rw [Checker.tests_pattern]
    simp
  | error error =>
    cases error with
    | invalid =>
      refine ⟨.text, rfl, fun value => ?_⟩
      rw [Checker.tests_text]
      simp [IsText]
    | refused reason =>
      simp only [hcompile] at h
      cases h

theorem tests_compiledPlain_text (hkind : info.kind = some .text)
    (h : firstError info.textEvents = none) : (info.compiledPlain mode).Tests info.FitsText := by
  have heq : info.plainChecker mode = info.textChecker := by rw [plainChecker, hkind]
  unfold textEvents at h
  unfold textChecker at heq
  intro value
  unfold FitsText
  by_cases hrich : info.isRichText = true
  · rw [if_pos hrich] at heq ⊢
    rw [compiledPlain_eq (by rw [heq]; rfl)]
    exact Checker.tests_text value
  · rw [if_neg hrich] at h heq ⊢
    by_cases hchoices : info.choiceValues = []
    · rw [if_neg (by simp [hchoices])] at h heq ⊢
      cases hformat : filled? info.format with
      | none =>
        rw [hformat] at heq
        rw [compiledPlain_eq (by rw [heq]; rfl), Checker.tests_text]
        simp [IsText]
      | some raw =>
        rw [hformat] at h heq
        obtain ⟨checker, hresult, htests⟩ := result_formatChecker h
        rw [compiledPlain_eq (by rw [heq]; exact hresult), htests]
        simp
    · rw [if_pos (by simp [hchoices])] at heq
      rw [if_pos hchoices, compiledPlain_eq (by rw [heq]; rfl)]
      exact Checker.tests_choice info.choiceValues value

theorem tests_compiledPlain_isodate (hkind : info.kind = some .isodate)
    (h : firstError (boundEvents info.uid info.startDate ++ boundEvents info.uid info.endDate)
      = none) : (info.compiledPlain mode).Tests info.FitsDate := by
  have heq : info.plainChecker mode = info.dateChecker := by rw [plainChecker, hkind]
  unfold dateChecker at heq
  intro value
  unfold FitsDate
  by_cases hnone : filled? info.startDate = none ∧ filled? info.endDate = none
  · rw [if_pos (by simp [hnone])] at heq
    rw [compiledPlain_eq (by rw [heq]; rfl), Checker.tests_isoDate]
    simp only [if_pos hnone]
  · obtain ⟨hstart, hend⟩ := firstError_append_eq_none_iff.1 h
    obtain ⟨first, hfirst, hfirstIff⟩ := result_boundOf hstart
    obtain ⟨last, hlast, hlastIff⟩ := result_boundOf hend
    rw [if_neg (by simpa using hnone)] at heq
    have hresult : (info.plainChecker mode).result = .ok (.timestamp first last) := by
      rw [heq]
      simp [hfirst, hlast, Except.bind]
    rw [compiledPlain_eq hresult, Checker.tests_timestamp]
    simp only [if_neg hnone, hfirstIff, hlastIff]
    simp

/-- A check of a plain field that can be built finds nothing in exactly the values that fit the
field. -/
theorem tests_compiledPlain (h : firstError info.events = none) :
    (info.compiledPlain mode).Tests (info.Fits mode) := by
  intro value
  unfold Fits
  unfold events at h
  cases hkind : info.kind with
  | none => exact tests_of_done (by rw [plainChecker, hkind]) Checker.tests_any value
  | some kind =>
    rw [hkind] at h
    cases kind with
    | text => exact tests_compiledPlain_text hkind h value
    | number => exact tests_of_done (by rw [plainChecker, hkind]) Checker.tests_number value
    | boolean => exact tests_of_done (by rw [plainChecker, hkind]) Checker.tests_boolean value
    | isodate => exact tests_compiledPlain_isodate hkind h value
    | file =>
      cases mode with
      | read => exact tests_of_done (by rw [plainChecker, hkind]; rfl) ValueShape.tests_asset value
      | upsert =>
        exact tests_of_done (by rw [plainChecker, hkind]; rfl) Checker.tests_filledText value
    | link => exact tests_of_done (by rw [plainChecker, hkind]) ValueShape.tests_link value
    | reference =>
      exact tests_of_done (by rw [plainChecker, hkind]) ValueShape.tests_reference value
    | globalField =>
      exact tests_of_done (by rw [plainChecker, hkind]) ValueShape.tests_reference value
    | taxonomy =>
      exact tests_of_done (by rw [plainChecker, hkind]) ValueShape.tests_taxonomyTerm.list value
    | json =>
      by_cases hrte : info.isJsonRte = true
      · have hdone : info.plainChecker mode = .done RichTextShape.document := by
          rw [plainChecker, hkind, if_pos hrte]
        simp only [if_pos hrte]
        exact tests_of_done hdone RichTextShape.tests_document value
      · have hdone : info.plainChecker mode = .done .any := by
          rw [plainChecker, hkind, if_neg hrte]
        simp only [if_neg hrte]
        exact tests_of_done hdone Checker.tests_any value
    | group => exact tests_of_done (by rw [plainChecker, hkind]) Checker.tests_any value
    | blocks => exact tests_of_done (by rw [plainChecker, hkind]) Checker.tests_any value

end FieldInfo

/-! ## Fields -/

/-- The check under the key of a field takes null too, unless the field is mandatory. -/
theorem FieldInfo.tests_slotWith {info : FieldInfo} {checker : Checker} {P : Json → Prop}
    (h : checker.Tests P) (index : Nat) :
    (info.slotWith draft index checker).checker.Tests fun value =>
      (value = .null ∧ info.mandatory = false) ∨ P value := by
  intro value
  cases hmandatory : info.mandatory with
  | true => simp [slotWith, hmandatory, h value]
  | false =>
    simp only [slotWith, hmandatory, Bool.false_eq_true, if_false, and_true]
    exact h.nullable value

/-- Nothing is found in the member of a field just when it may be as it is. -/
theorem FieldInfo.findings_slotWith_iff {info : FieldInfo} {checker : Checker} {P : Json → Prop}
    {members : Members} (h : checker.Tests P) (index : Nat) :
    (info.slotWith draft index checker).findings members = [] ↔
      info.MemberFits draft P members := by
  rw [Slot.findings_member_iff rfl fun value _ => tests_slotWith h index value, MemberFits]
  refine and_congr_left' (imp_congr_right fun _ => ?_)
  cases hmandatory : info.mandatory <;> cases draft <;> simp [slotWith, hmandatory]

theorem findings_metadataSlots_iff {fields : List Field} {members : Members} :
    (∀ slot ∈ metadataSlots fields, slot.findings members = []) ↔ MetadataFits fields members := by
  have hslot : metadataSlot.findings members = [] ↔
      members.Optional "_metadata" (OrNull IsMetadata) := by
    rw [Slot.findings_member_iff rfl fun value _ => ValueShape.tests_itemMetadata.nullable value]
    simp [metadataSlot]
  unfold metadataSlots MetadataFits
  split
  · next hany =>
    obtain ⟨field, hfield, huid⟩ := List.any_eq_true.1 hany
    exact ⟨fun _ hnone => absurd (beq_iff_eq.1 huid) (hnone field hfield), fun _ => nofun⟩
  · next hnone =>
    rw [List.forall_mem_singleton, hslot]
    refine ⟨fun h _ => h, fun h => h fun field hfield huid => hnone ?_⟩
    exact List.any_eq_true.2 ⟨field, hfield, beq_iff_eq.2 huid⟩

namespace Field

/-- What is known of every field of a list is known of the slots of the list. -/
theorem findings_compiledSlots_iff {fields : List Field} {depth : Nat} {members : Members}
    (ih : ∀ field ∈ fields, firstError (field.events depth) = none →
      (field.compiled mode draft).Tests (field.Conforms mode draft))
    (h : firstError (listEvents depth fields) = none) (index : Nat) :
    (∀ slot ∈ compiledSlots mode draft index fields, slot.findings members = []) ↔
      MembersConform mode draft fields members := by
  induction fields generalizing index with
  | nil => simp [compiledSlots, MembersConform]
  | cons field rest ihRest =>
    rw [listEvents, firstError_append_eq_none_iff] at h
    have hhead := ih field List.mem_cons_self h.1
    rw [compiledSlots, List.forall_mem_cons, MembersConform,
      FieldInfo.findings_slotWith_iff hhead]
    exact and_congr_right fun _ =>
      ihRest (fun child hchild => ih child (List.mem_cons_of_mem _ hchild)) h.2 (index + 1)

/-- What is known of every field of a record is known of its slots, the metadata included. -/
theorem findings_recordSlots_iff {fields : List Field} {depth : Nat} {members : Members}
    (ih : ∀ field ∈ fields, firstError (field.events depth) = none →
      (field.compiled mode draft).Tests (field.Conforms mode draft))
    (h : firstError (listEvents depth fields) = none) :
    (∀ slot ∈ recordSlots mode draft true fields, slot.findings members = []) ↔
      MembersConform mode draft fields members ∧ MetadataFits fields members := by
  rw [recordSlots, List.forall_mem_append, findings_compiledSlots_iff ih h, if_pos rfl,
    findings_metadataSlots_iff]

/-- The limit on a list of instances, in terms of the attribute. -/
theorem exceeds_instanceLimit_iff (info : FieldInfo) (items : List Json) :
    Checker.exceeds items.length info.instanceLimit = false ↔
      ∀ n : Int, info.maxInstance = some n → 0 < n → items.length ≤ n := by
  cases hmax : info.maxInstance with
  | none => simp [FieldInfo.instanceLimit, hmax, Checker.exceeds]
  | some n =>
    by_cases hpos : 0 < n
    · have hlimit : info.instanceLimit = some n.toNat := by
        simp [FieldInfo.instanceLimit, hmax, hpos]
      have hexceeds : Checker.exceeds items.length (some n.toNat) = false ↔
          ¬ n.toNat < items.length := decide_eq_false_iff_not
      simp only [hlimit, hexceeds, Option.some.injEq, forall_eq', hpos, true_implies]
      omega
    · simp [FieldInfo.instanceLimit, hmax, hpos, Checker.exceeds]

theorem tests_group {field : Field} {depth : Nat} (hkind : field.kind = some .group)
    (ih : ∀ child ∈ field.fields, firstError (child.events depth) = none →
      (child.compiled mode draft).Tests (child.Conforms mode draft))
    (h : firstError (listEvents depth field.fields) = none) :
    (field.compiled mode draft).Tests (field.Conforms mode draft) := by
  intro value
  cases hmultiple : field.multiple with
  | false =>
    rw [compiled_single hkind hmultiple, conforms_single_iff hkind hmultiple]
    refine Checker.tests_record rfl (fun members => ?_) value
    rw [recordSlots, if_neg Bool.false_ne_true, List.append_nil]
    exact findings_compiledSlots_iff ih h 0
  | true =>
    have hone : (Checker.record { name := recordName "Group" (some field.uid) }
        (recordSlots mode draft true field.fields)).Tests (IsRecord fun members =>
          MembersConform mode draft field.fields members ∧ MetadataFits field.fields members) :=
      Checker.tests_record rfl fun _ => findings_recordSlots_iff ih h
    rw [compiled_instances hkind hmultiple, conforms_instances_iff hkind hmultiple,
      Checker.findings_list_eq_nil]
    constructor
    · rintro ⟨items, rfl, hlimit, hitems⟩
      refine ⟨fun _ heq => ?_, items, rfl, fun item hitem => (hone item).1 (hitems item hitem)⟩
      cases heq
      exact (exceeds_instanceLimit_iff _ items).1 hlimit
    · rintro ⟨hlimit, items, rfl, hitems⟩
      exact ⟨items, rfl, (exceeds_instanceLimit_iff _ items).2 (hlimit items rfl),
        fun item hitem => (hone item).2 (hitems item hitem)⟩

end Field

namespace BlockOf

theorem tests_payload {block : BlockDefinition} {depth : Nat} (uid : String)
    (ih : ∀ field ∈ block.fields, firstError (field.events depth) = none →
      (field.compiled mode draft).Tests (field.Conforms mode draft))
    (h : firstError (block.events depth uid) = none) :
    (block.compiledPayload mode draft uid).Tests (block.PayloadConforms mode draft) := by
  intro value
  rw [payloadConforms_iff]
  obtain ⟨info, fields⟩ := block
  rw [events] at h
  rw [compiledPayload]
  by_cases hreference : info.isReference = true
  · rw [if_pos hreference]
    simp only [if_pos hreference]
    exact ValueShape.tests_reference value
  · rw [if_neg hreference] at h ⊢
    simp only [if_neg hreference]
    have hfields := (firstError_append_eq_none_iff.1 h).1
    exact Checker.tests_record rfl (fun _ => Field.findings_recordSlots_iff ih hfields) value

/-- What is known of the fields of every variant is known of the slots of the variants. -/
theorem findings_compiledSlots_iff {blocks : List BlockDefinition} {depth : Nat}
    {members : Members} (uid : String)
    (ih : ∀ block ∈ blocks, ∀ field ∈ block.fields, firstError (field.events depth) = none →
      (field.compiled mode draft).Tests (field.Conforms mode draft))
    (h : firstError (listEvents depth uid blocks) = none) (index : Nat) :
    (∀ slot ∈ compiledSlots mode draft uid index blocks, slot.findings members = []) ↔
      MembersConform mode draft blocks members := by
  induction blocks generalizing index with
  | nil => simp [compiledSlots, MembersConform]
  | cons block rest ihRest =>
    rw [listEvents, firstError_append_eq_none_iff] at h
    have hpayload := tests_payload uid (ih block List.mem_cons_self) h.1
    have hslot : (variantSlot block.uid index (block.compiledPayload mode draft uid)).findings
        members = [] ↔ members.Optional block.uid (block.PayloadConforms mode draft) := by
      rw [Slot.findings_member_iff rfl fun value _ => hpayload value]
      simp [variantSlot]
    rw [compiledSlots, List.forall_mem_cons, MembersConform, hslot]
    exact and_congr_right fun _ =>
      ihRest (fun child hchild => ih child (List.mem_cons_of_mem _ hchild)) h.2 (index + 1)

end BlockOf

namespace Field

theorem tests_blocks {field : Field} {depth : Nat} (hkind : field.kind = some .blocks)
    (ih : ∀ block ∈ field.blocks, ∀ child ∈ block.fields, firstError (child.events depth) = none →
      (child.compiled mode draft).Tests (child.Conforms mode draft))
    (h : firstError (BlockOf.listEvents depth field.uid field.blocks) = none) :
    (field.compiled mode draft).Tests (field.Conforms mode draft) := by
  intro value
  rw [compiled_blocks hkind, conforms_blocks_iff hkind]
  by_cases hempty : field.blocks.isEmpty = true
  · rw [if_pos hempty, if_pos hempty]
    exact Checker.tests_any.list value
  · rw [if_neg hempty, if_neg hempty]
    refine Checker.Tests.list (fun item => ?_) value
    rw [blockItemChecker, Checker.findings_record_eq_nil, IsRecord]
    refine exists_congr fun members => and_congr_right fun _ => ?_
    simp only [true_implies, BlockOf.tagDeclared_compiledSlots_iff,
      BlockOf.findings_compiledSlots_iff field.uid ih h]

theorem tests_plain {field : Field} (hg : field.kind ≠ some .group)
    (hb : field.kind ≠ some .blocks) (h : firstError field.toFieldInfo.events = none) :
    (field.compiled mode draft).Tests (field.Conforms mode draft) := by
  intro value
  have hplain : (field.compiledPlain mode).Tests (field.Fits mode) :=
    FieldInfo.tests_compiledPlain h
  rw [compiled_plain hg hb, conforms_plain_iff hg hb]
  simp only [isListed_iff hg hb]
  split
  · exact hplain.list value
  · exact hplain value

/-- The check of a field that can be built finds nothing in exactly the values that conform to the
field. -/
theorem tests_compiled {field : Field} {depth : Nat} (h : firstError (field.events depth) = none) :
    (field.compiled mode draft).Tests (field.Conforms mode draft) := by
  induction field using Field.induct generalizing depth with
  | node info fields blocks ihFields ihBlocks =>
    rw [events] at h
    split at h
    · cases h
    · split at h
      · next hkind =>
        exact tests_group hkind (fun child hchild => ihFields child hchild)
          (firstError_append_eq_none_iff.1 h).1
      · next hkind =>
        exact tests_blocks hkind
          (fun block hblock child hchild => ihBlocks block hblock child hchild) h
      · next hg hb =>
        exact tests_plain hg hb h

theorem eq_compiled {field : Field} {depth : Nat} {checker : Checker}
    (h : (field.checker mode draft depth).result = .ok checker) :
    checker = field.compiled mode draft :=
  Except.ok.inj (h.symm.trans (result_checker mode draft h))

/-- A check comes of a building without errors. -/
theorem firstError_events_eq_none {field : Field} {depth : Nat} {checker : Checker}
    (h : (field.checker mode draft depth).result = .ok checker) :
    firstError (field.events depth) = none := by
  rw [checker_eq_ofEvents, Build.result_ofEvents] at h
  split at h
  · assumption
  · cases h

/-- The check that a field is built to finds nothing in exactly the values that conform to it. -/
theorem tests_checker {field : Field} {depth : Nat} {checker : Checker}
    (h : (field.checker mode draft depth).result = .ok checker) :
    checker.Tests (field.Conforms mode draft) := by
  obtain rfl := eq_compiled h
  exact tests_compiled (firstError_events_eq_none h)

end Field

/-- The check of a content type that can be built finds nothing in exactly the entries that conform
to it. -/
theorem ContentType.tests_compiled {contentType : ContentType}
    (h : firstError contentType.events = none) :
    (contentType.compiled mode draft).Tests (contentType.Conforms mode draft) := by
  refine Checker.tests_record rfl fun members => ?_
  exact Field.findings_compiledSlots_iff (fun field _ => Field.tests_compiled)
    (firstError_append_eq_none_iff.1 h).1 0

namespace Validator

/-- A validator comes of a building without errors. -/
theorem firstError_eq_none {contentType : ContentType} {validator : Validator}
    (h : (build contentType mode draft).result = .ok validator) :
    firstError contentType.events = none := by
  rw [build_eq_ofEvents, Build.result_ofEvents] at h
  cases hfirst : firstError contentType.events with
  | none => rfl
  | some error =>
    rw [hfirst] at h
    cases h

/-- **Acceptance.** A validator accepts exactly the entries that conform to its content type. -/
theorem ok_check_iff_conforms {contentType : ContentType} {validator : Validator}
    (h : (build contentType mode draft).result = .ok validator) (entry : Json) :
    (validator.check entry).ok = true ↔ contentType.Conforms mode draft entry := by
  have htests : (contentType.compiled mode draft).Tests (contentType.Conforms mode draft) :=
    ContentType.tests_compiled (firstError_eq_none h)
  obtain rfl := eq_compiled h
  rw [check, Checker.ok_verdict, Checker.accepts, List.isEmpty_iff]
  exact htests entry

/-- A group with one instance at most: an instance with an asset and without metadata conforms, one
without the asset does not, and neither do two. -/
theorem ok_check_iff_conforms_instances :
    let image : Field := ⟨{ uid := "image", dataType := some "file", mandatory := true }, [], []⟩
    let rows : Field :=
      ⟨{ uid := "rows", dataType := some "group", multiple := true, maxInstance := some 1 },
        [image], []⟩
    let contentType : ContentType := { fields := [rows] }
    let whole : Json := .obj [("image", .obj [("uid", .str "a")]), ("_metadata", .null)]
    let entry (instances : List Json) : Json := .obj [("rows", .arr instances)]
    (∃ validator, (build contentType .read false).result = .ok validator) ∧
      contentType.Conforms .read false (entry [whole]) ∧
      ¬ contentType.Conforms .read false (entry [.obj []]) ∧
      ¬ contentType.Conforms .read false (entry [whole, whole]) := by
  intro image rows contentType whole entry
  have h : (build contentType .read false).result = .ok (compiled contentType .read false) := rfl
  refine ⟨⟨_, h⟩, (ok_check_iff_conforms h _).1 (by decide), fun hmissing => ?_, fun htwo => ?_⟩
  · exact absurd ((ok_check_iff_conforms h _).2 hmissing) (by decide)
  · exact absurd ((ok_check_iff_conforms h _).2 htwo) (by decide)

end Validator

end ContentModel
