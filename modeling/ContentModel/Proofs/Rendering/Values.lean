import ContentModel.Proofs.RichText.Validated
import ContentModel.Proofs.Validation.Plain
import ContentModel.Rendering.Primitive

/-!
# Checked values in renderings

The check of a plain field moves members of structured values and drops some. None of this is seen
where the value is rendered.

* `Rendering.scalar_congr` says what the rendering of a structured value depends on;
* `Field.primitive_value` says that the value of a plain field is rendered the same after its
  check;
* `Field.valueOf_recordMembers` reads the checked values of fields from a checked record.
-/

namespace ContentModel

open Rendering

/-! ## Lists -/

namespace Checker

variable {most : Option Nat} {checker : Checker}

theorem value_list_arr (items : List Json) :
    (list most checker).value (.arr items) = .arr (items.map checker.value) := rfl

theorem value_list_of_not_arr {value : Json} (h : ∀ items, value ≠ .arr items) :
    (list most checker).value value = value := by
  cases value with
  | arr items => exact absurd rfl (h items)
  | _ => rfl

end Checker

/-! ## Structured values -/

/-- Whether the values of a kind of fields are objects of a known shape, or lists of such. -/
def FieldKind.isStructured : FieldKind → Bool
  | .file => true
  | .link => true
  | .reference => true
  | .globalField => true
  | .taxonomy => true
  | .json => true
  | _ => false

namespace ValueShape

theorem get?_asset (value : Json) (key : String) :
    (asset.value value).get? key = value.get? key := by
  cases value with
  | obj members =>
    refine Slot.Separate.get?_recordMembers_faithful (.of_noOther ?_ ?_) rfl ?_
    · decide
    · simp [name, optionalText, RichTextShape.optional]
    · simp only [List.forall_mem_cons, List.not_mem_nil, false_implies, implies_true, and_true]
      have hother : none ≠ some key := (Option.some_ne_none key).symm
      exact ⟨⟨hother, fun _ => .leaf _ _ _⟩, hother, fun _ => .optional _ _⟩
  | _ => rfl

theorem get?_link (value : Json) (key : String) :
    (link.value value).get? key = value.get? key := by
  cases value with
  | obj members =>
    refine Slot.Separate.get?_recordMembers_faithful (.of_noOther ?_ ?_) rfl ?_
    · decide
    · simp [optionalText, RichTextShape.optional]
    · simp only [List.forall_mem_cons, List.not_mem_nil, false_implies, implies_true, and_true]
      have hother : none ≠ some key := (Option.some_ne_none key).symm
      exact ⟨⟨hother, fun _ => .optional _ _⟩, hother, fun _ => .optional _ _⟩
  | _ => rfl

theorem get?_reference (value : Json) {key : String} (h : key ≠ "_content_type_uid")
    (h' : key ≠ "content_type_uid") : (reference.value value).get? key = value.get? key := by
  cases value with
  | obj members =>
    refine Slot.Separate.get?_recordMembers_faithful ⟨by decide, by simp [name]⟩ rfl ?_
    simp only [List.forall_mem_cons, List.not_mem_nil, false_implies, implies_true, and_true]
    have hother : none ≠ some key := (Option.some_ne_none key).symm
    exact ⟨⟨hother, fun _ => .leaf _ _ _⟩, by simpa using Ne.symm h', fun heq => absurd heq.symm h⟩
  | _ => rfl

theorem get?_taxonomyTerm (value : Json) :
    (taxonomyTerm.value value).get? "term_uid" = value.get? "term_uid" := by
  cases value with
  | obj members =>
    have hseparate : Slot.Separate [name "taxonomy_uid", name "term_uid"] :=
      .of_noOther (by decide) (by simp [name])
    have hget : Members.get? (Checker.recordMembers { name := "TaxonomyTerm", isOpen := false }
        [name "taxonomy_uid", name "term_uid"] members) (name "term_uid").key =
          (Members.get? members "term_uid").map id :=
      hseparate.get?_recordMembers_own (by simp) rfl rfl
    exact hget.trans (congrFun Option.map_id _)
  | _ => rfl

end ValueShape

/-! ## What renderings depend on -/

namespace Rendering

variable {options : RenderOptions}

theorem valueOf_congr {value other : Json} {key : String} (h : other.get? key = value.get? key) :
    valueOf other.members key = valueOf value.members key := by
  unfold Json.get? at h
  rw [valueOf, valueOf, h]

theorem isImage_congr {value other : Json}
    (h : other.get? "content_type" = value.get? "content_type") :
    isImage other = isImage value := by
  unfold Json.get? at h
  rw [isImage, isImage, h]

theorem hasUrl_congr {value other : Json} (h : other.get? "url" = value.get? "url") :
    hasUrl other = hasUrl value := by
  rw [hasUrl, hasUrl, valueOf_congr h]

/-- An asset is shown by what can be looked up in it. -/
theorem assetText_congr {value other : Json} (h : ∀ key, other.get? key = value.get? key) :
    assetText other = assetText value := by
  unfold assetText
  rw [valueOf_congr (h "title"), valueOf_congr (h "filename"), valueOf_congr (h "url"),
    isImage_congr (h "content_type")]

theorem linkText_congr {value other : Json} (h : ∀ key, other.get? key = value.get? key) :
    linkText other.members = linkText value.members := by
  unfold linkText
  rw [valueOf_congr (h "title"), valueOf_congr (h "href")]

theorem referenceText_congr {value other : Json} (htitle : other.get? "title" = value.get? "title")
    (huid : other.get? "uid" = value.get? "uid") :
    referenceText other.members = referenceText value.members := by
  unfold referenceText
  rw [valueOf_congr htitle, valueOf_congr huid]

/-- Empty values are shown as nothing. -/
theorem primitive_of_isEmptyValue {info : FieldInfo} {value : Json}
    (h : value.isEmptyValue = true) : primitive options info value = .ok (.str "") := by
  unfold primitive
  rw [if_pos h]

theorem primitive_rte {info : FieldInfo} (hkind : info.kind = some .json)
    (hrte : info.isJsonRte = true) (value : Json) :
    primitive options info value = .ok (.str (if value.isEmptyValue then ""
      else if value.isObject then RichText.markdown value else "")) := by
  unfold primitive
  rw [hkind]
  cases value.isEmptyValue <;> simp [hrte]

/-- Values shown one by one, those shown as nothing left out. -/
def joined (options : RenderOptions) (kind : Option FieldKind) (items : List Json) :
    Except RenderError Json := do
  let texts ← scalars options kind items
  let separator := if kind = some .file then "\n\n" else ", "
  return .str (← joinTexts separator (texts.filter Json.isTruthy))

theorem primitive_items {info : FieldInfo} (htext : info.kind ≠ some .text)
    (htaxonomy : info.kind ≠ some .taxonomy) (hjson : info.kind ≠ some .json) (items : List Json) :
    primitive options info (.arr items) =
      if items.isEmpty then .ok (.str "") else joined options info.kind items := by
  unfold primitive
  cases hkind : info.kind with
  | none => rfl
  | some kind =>
    cases kind with
    | text => exact absurd hkind htext
    | taxonomy => exact absurd hkind htaxonomy
    | json => exact absurd hkind hjson
    | _ => rfl

theorem primitive_single {info : FieldInfo} (htext : info.kind ≠ some .text)
    (htaxonomy : info.kind ≠ some .taxonomy) (hjson : info.kind ≠ some .json) {value : Json}
    (hsingle : ∀ items, value ≠ .arr items) : primitive options info value =
      if value.isEmptyValue then .ok (.str "") else scalar options info.kind value := by
  unfold primitive
  cases hkind : info.kind with
  | none => cases value <;> first | rfl | exact absurd rfl (hsingle _)
  | some kind =>
    cases kind with
    | text => exact absurd hkind htext
    | taxonomy => exact absurd hkind htaxonomy
    | json => exact absurd hkind hjson
    | _ => cases value <;> first | rfl | exact absurd rfl (hsingle _)

theorem scalars_map {kind : Option FieldKind} {change : Json → Json}
    (h : ∀ value, scalar options kind (change value) = scalar options kind value)
    (values : List Json) :
    scalars options kind (values.map change) = scalars options kind values := by
  induction values with
  | nil => rfl
  | cons value rest ih => rw [List.map_cons, scalars, scalars, h value, ih]

theorem termLines_map {change : Json → Json}
    (hobject : ∀ term, (change term).isObject = term.isObject)
    (huid : ∀ term, (change term).get? "term_uid" = term.get? "term_uid") (terms : List Json) :
    termLines (terms.map change) = termLines terms := by
  have hfilter : (terms.map change).filter Json.isObject =
      (terms.filter Json.isObject).map change := by
    rw [List.filter_map]
    exact congrArg _ (List.filter_congr fun term _ => hobject term)
  have huid' : ∀ term, Members.get? (change term).members "term_uid" =
    Members.get? term.members "term_uid" := huid
  rw [termLines, termLines, hfilter, List.map_map]
  refine congrArg _ (List.map_congr_left fun term _ => ?_)
  rw [Function.comp_apply, huid']

end Rendering

/-- What is looked up under the key of a slot in a checked record is the checked value of the slot,
null standing for an absent one. -/
theorem Slot.Separate.valueOf_record {slots : List Slot} {slot : Slot} (h : Separate slots)
    (shape : Shape) (hs : slot ∈ slots) (hother : slot.otherKey = none)
    (hnull : slot.checker.value .null = .null) (value : Json) :
    valueOf ((Checker.record shape slots).value value).members slot.key =
      slot.checker.value (valueOf value.members slot.key) := by
  cases value with
  | obj members =>
    have hget : Members.get? ((Checker.record shape slots).value (.obj members)).members slot.key =
        slot.result members (kept shape slots members) := h.get?_recordMembers hs
    rw [valueOf, valueOf, hget]
    change _ = slot.checker.value ((Members.get? members slot.key).getD .null)
    cases hmember : Members.get? members slot.key with
    | some given =>
      rw [result_of_read (read_of_get? hmember)]
      rfl
    | none =>
      rw [result_of_read_none (by rw [read_of_otherKey hother, hmember]; rfl), Option.getD_none,
        hnull]
      split <;> rfl
  | _ => exact hnull.symm

/-! ## Plain fields -/

namespace FieldInfo

variable {options : RenderOptions} {info : FieldInfo}

/-- Where the values of a field are no objects of a known shape, they come out as they are. -/
theorem value_compiledPlain (mode : Mode) (h : info.kind.any FieldKind.isStructured = false)
    (value : Json) : (info.compiledPlain mode).value value = value := by
  cases hkind : info.kind with
  | none => simp [compiledPlain, plainChecker, hkind, Checker.any]
  | some kind =>
    rw [hkind, Option.any_some] at h
    cases kind with
    | text =>
      rcases compiledPlain_text mode hkind with ⟨-, -, hc⟩ | ⟨-, problem?, hc⟩ <;> rw [hc] <;> rfl
    | isodate =>
      obtain ⟨problem?, hc⟩ := compiledPlain_isodate mode hkind
      rw [hc]
      rfl
    | number => simp [compiledPlain, plainChecker, hkind, Checker.number]
    | boolean => simp [compiledPlain, plainChecker, hkind, Checker.boolean]
    | group => simp [compiledPlain, plainChecker, hkind, Checker.any]
    | blocks => simp [compiledPlain, plainChecker, hkind, Checker.any]
    | _ => cases h

theorem value_compiledPlain_arr {mode : Mode} (htaxonomy : info.kind ≠ some .taxonomy)
    (items : List Json) : (info.compiledPlain mode).value (.arr items) = .arr items := by
  cases hstructured : info.kind.any FieldKind.isStructured with
  | false => exact value_compiledPlain mode hstructured _
  | true =>
    cases hkind : info.kind with
    | none => simp [hkind] at hstructured
    | some kind =>
      rw [hkind, Option.any_some] at hstructured
      rw [compiledPlain, plainChecker, hkind]
      cases kind with
      | file => cases mode <;> rfl
      | json => cases info.isJsonRte <;> rfl
      | link => rfl
      | reference => rfl
      | globalField => rfl
      | taxonomy => exact absurd hkind htaxonomy
      | _ => cases hstructured

/-- A single value of a plain field is shown the same after its check. -/
theorem scalar_value (htaxonomy : info.kind ≠ some .taxonomy) (hjson : info.kind ≠ some .json)
    (value : Json) : scalar options info.kind ((info.compiledPlain .read).value value) =
      scalar options info.kind value := by
  cases hstructured : info.kind.any FieldKind.isStructured with
  | false => rw [value_compiledPlain .read hstructured]
  | true =>
    cases hkind : info.kind with
    | none => simp [hkind] at hstructured
    | some kind =>
      rw [hkind, Option.any_some] at hstructured
      rw [compiledPlain, plainChecker, hkind]
      cases kind with
      | file =>
        cases value with
        | obj members =>
          exact congrArg Except.ok (assetText_congr (ValueShape.get?_asset (.obj members)))
        | _ => rfl
      | link =>
        cases value with
        | obj members =>
          exact congrArg Except.ok (linkText_congr (ValueShape.get?_link (.obj members)))
        | _ => rfl
      | reference =>
        cases value with
        | obj members =>
          exact congrArg Except.ok (referenceText_congr
            (ValueShape.get?_reference (.obj members) (by decide) (by decide))
            (ValueShape.get?_reference (.obj members) (by decide) (by decide)))
        | _ => rfl
      | globalField =>
        cases value with
        | obj members =>
          exact congrArg Except.ok (referenceText_congr
            (ValueShape.get?_reference (.obj members) (by decide) (by decide))
            (ValueShape.get?_reference (.obj members) (by decide) (by decide)))
        | _ => rfl
      | taxonomy => exact absurd hkind htaxonomy
      | json => exact absurd hkind hjson
      | _ => cases hstructured

end FieldInfo

namespace Field

variable {options : RenderOptions} {draft : Bool} {field : Field}

/-- Where the values of a plain field are no objects of a known shape, they come out as they are. -/
theorem value_compiled (hg : field.kind ≠ some .group) (hb : field.kind ≠ some .blocks)
    (hplain : ∀ value, (field.compiledPlain .read).value value = value) (value : Json) :
    (field.compiled .read draft).value value = value := by
  rw [compiled_plain hg hb]
  split
  · cases value with
    | arr items => exact congrArg Json.arr ((List.map_congr_left fun item _ => hplain item).trans
        (List.map_id items))
    | _ => rfl
  · exact hplain value

/-- The terms of a taxonomy field are shown the same after their check. -/
theorem primitive_value_taxonomy (hkind : field.kind = some .taxonomy) (value : Json) :
    primitive options field.toFieldInfo ((field.compiled .read draft).value value) =
      primitive options field.toFieldInfo value := by
  have hc : field.compiled .read draft = .list none ValueShape.taxonomyTerm := by
    rw [compiled_plain (by simp [hkind]) (by simp [hkind])]
    simp [FieldInfo.isListed, FieldInfo.compiledPlain, FieldInfo.plainChecker, hkind]
  have hempty := (keepsForm_compiled .read draft field value).isEmptyValue_eq
  rw [hc] at hempty ⊢
  unfold primitive
  rw [hempty, hkind]
  split
  · rfl
  · cases value with
    | arr items =>
      exact congrArg (fun text => Except.ok (Json.str text)) (termLines_map
        (fun term => (Checker.KeepsForm.record _ _ term).isObject_eq) ValueShape.get?_taxonomyTerm
        items)
    | _ => rfl

/-- A rich text field is shown the same after its check. -/
theorem primitive_value_rte (hkind : field.kind = some .json) (hrte : field.isJsonRte = true)
    (value : Json) :
    primitive options field.toFieldInfo ((field.compiled .read draft).value value) =
      primitive options field.toFieldInfo value := by
  have hform := keepsForm_compiled .read draft field value
  rw [primitive_rte hkind hrte, primitive_rte hkind hrte, hform.isEmptyValue_eq, hform.isObject_eq]
  cases value with
  | obj members =>
    have hc : field.compiled .read draft =
        if field.isListed then .list none RichTextShape.document else RichTextShape.document := by
      rw [compiled_plain (by simp [hkind]) (by simp [hkind]), FieldInfo.compiledPlain,
        FieldInfo.plainChecker, hkind]
      simp [hrte]
    rw [hc]
    cases field.isListed with
    | true => rfl
    | false => rw [if_neg Bool.false_ne_true, RichTextShape.markdown_document]
  | _ => rfl

theorem primitive_value_scalar (hg : field.kind ≠ some .group) (hb : field.kind ≠ some .blocks)
    (htext : field.kind ≠ some .text) (htaxonomy : field.kind ≠ some .taxonomy)
    (hjson : field.kind ≠ some .json) (value : Json) :
    primitive options field.toFieldInfo ((field.compiled .read draft).value value) =
      primitive options field.toFieldInfo value := by
  have hform := keepsForm_compiled .read draft field value
  have hscalar (value : Json) :
      scalar options field.kind ((field.compiledPlain .read).value value) =
        scalar options field.kind value :=
    field.scalar_value htaxonomy hjson value
  rw [compiled_plain hg hb] at hform ⊢
  by_cases hitems : ∃ items, value = .arr items
  · obtain ⟨items, rfl⟩ := hitems
    cases field.isListed with
    | true =>
      rw [if_pos rfl, Checker.value_list_arr, primitive_items htext htaxonomy hjson,
        primitive_items htext htaxonomy hjson, List.isEmpty_map, joined, joined,
        scalars_map hscalar]
    | false => rw [if_neg Bool.false_ne_true, field.value_compiledPlain_arr htaxonomy]
  · have hsingle : ∀ items, value ≠ .arr items := fun items heq => hitems ⟨items, heq⟩
    have hsingle' : ∀ items, (if field.isListed then Checker.list none (field.compiledPlain .read)
        else field.compiledPlain .read).value value ≠ .arr items := by
      intro items heq
      rw [heq] at hform
      cases hform with
      | refl => exact hsingle _ rfl
      | arr => exact hsingle _ rfl
    rw [primitive_single htext htaxonomy hjson hsingle,
      primitive_single htext htaxonomy hjson hsingle', hform.isEmptyValue_eq]
    cases field.isListed with
    | true => rw [if_pos rfl, Checker.value_list_of_not_arr hsingle]
    | false => rw [if_neg Bool.false_ne_true, hscalar]

/-- The value of a plain field is shown the same after its check. -/
theorem primitive_value (hg : field.kind ≠ some .group) (hb : field.kind ≠ some .blocks)
    (value : Json) :
    primitive options field.toFieldInfo ((field.compiled .read draft).value value) =
      primitive options field.toFieldInfo value := by
  by_cases htext : field.kind = some .text
  · rw [value_compiled hg hb
      (field.value_compiledPlain .read (by simp [htext, FieldKind.isStructured]))]
  · by_cases htaxonomy : field.kind = some .taxonomy
    · exact primitive_value_taxonomy htaxonomy value
    · by_cases hjson : field.kind = some .json
      · cases hrte : field.isJsonRte with
        | true => exact primitive_value_rte hjson hrte value
        | false =>
          rw [value_compiled hg hb]
          intro value
          rw [FieldInfo.compiledPlain, FieldInfo.plainChecker, hjson]
          simp [hrte, Checker.any]
      · exact primitive_value_scalar hg hb htext htaxonomy hjson value

/-- What is looked up in an asset is found after its check. -/
theorem get?_value_file (hkind : field.kind = some .file) (value : Json) (key : String) :
    ((field.compiled .read draft).value value).get? key = value.get? key := by
  have hc : field.compiledPlain .read = ValueShape.asset := by
    rw [FieldInfo.compiledPlain, FieldInfo.plainChecker, hkind]
    rfl
  rw [compiled_plain (by simp [hkind]) (by simp [hkind]), hc]
  split
  · cases value <;> rfl
  · exact ValueShape.get?_asset value key

/-! ## Records of fields -/

variable {fields : List Field} {members : Members} {mode : Mode}

theorem value_slotWith (index : Nat) (value : Json) :
    (field.slotWith draft index (field.compiled mode draft)).checker.value value =
      (field.compiled mode draft).value value := by
  rw [FieldInfo.checker_slotWith]
  split
  · rfl
  · exact Checker.value_nullable (keepsForm_compiled mode draft field).value_null value

/-- What is looked up under the uid of a field in a checked record is the checked value of the
field, null standing for an absent one. -/
theorem valueOf_record (mode : Mode) (draft : Bool) (shape : Shape) (withMetadata : Bool)
    (hdistinct : DistinctUids fields) (hfield : field ∈ fields) (value : Json) :
    valueOf ((Checker.record shape (recordSlots mode draft withMetadata fields)).value
        value).members field.uid =
      (field.compiled mode draft).value (valueOf value.members field.uid) := by
  obtain ⟨i, hget⟩ := List.mem_iff_getElem?.1 hfield
  have hslot : field.slotWith draft i (field.compiled mode draft) ∈
      recordSlots mode draft withMetadata fields :=
    List.mem_append_left _ (mem_compiledSlots.2 ⟨i, field, hget, rfl⟩)
  rw [← value_slotWith i]
  exact (separate_recordSlots withMetadata hdistinct).valueOf_record shape hslot rfl
    (keepsForm_slotWith field i).value_null value

end Field

/-- What is looked up under the tag of a variant in a checked item is the checked payload. -/
theorem BlockOf.valueOf_record (mode : Mode) (draft : Bool) {blocks : List BlockDefinition}
    {block : BlockDefinition} (shape : Shape) (uid : String)
    (hnodup : (blocks.map fun block => block.uid).Nodup) (hblock : block ∈ blocks) (value : Json) :
    valueOf ((Checker.record shape (compiledSlots mode draft uid 0 blocks)).value value).members
        block.uid =
      (block.compiledPayload mode draft uid).value (valueOf value.members block.uid) := by
  obtain ⟨i, hget⟩ := List.mem_iff_getElem?.1 hblock
  exact (separate_compiledSlots uid hnodup).valueOf_record shape
    (mem_compiledSlots.2 ⟨i, block, hget, rfl⟩) rfl
    (keepsForm_payload mode draft uid block).value_null value

end ContentModel
