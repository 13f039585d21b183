import ContentModel.Proofs.Validation.Marks

/-!
# Drafts

A draft validator finds what the full validator finds, less what absent mandatory fields raise.

* `Relaxes` relates a full check, its draft form and the marked findings of the full check, and is
  kept by every way to build checks;
* `Field.relaxes` says that the two compiled checks of a field are so related;
* `Validator.check_draft` says what this means for the validators of a content type.
-/

namespace ContentModel

/-! ## Findings that remain -/

/-- The findings that were not raised by an absent mandatory field. -/
def Marked.remaining (all : List Marked) : List Finding :=
  (all.filter fun marked => !marked.absent).map fun marked => marked.finding

namespace Marked

theorem remaining_append (first second : List Marked) :
    remaining (first ++ second) = remaining first ++ remaining second := by
  simp [remaining]

theorem remaining_map_under (step : Step) (all : List Marked) :
    remaining (all.map (.under step)) = (remaining all).map (.under step) := by
  simp only [remaining, List.filter_map, List.map_map]
  rfl

theorem finding_map_under (step : Step) (all : List Marked) :
    (all.map (Marked.under step)).map (fun marked => marked.finding) =
      (all.map fun marked => marked.finding).map (.under step) := by
  simp only [List.map_map]
  rfl

theorem remaining_eq_nil {all : List Marked} (h : all.map (fun marked => marked.finding) = []) :
    remaining all = [] := by
  rw [List.map_eq_nil_iff.1 h]
  rfl

end Marked

/-! ## Relaxed checks -/

/-- A check whose findings are marked, and the check that finds only what remains of them. -/
structure Relaxes (full draft : Checker) (marks : Marks) : Prop where
  findings_full : ∀ value, full.findings value = (marks value).map fun marked => marked.finding
  findings_draft : ∀ value, draft.findings value = Marked.remaining (marks value)
  value_eq : ∀ value, full.findings value = [] → draft.value value = full.value value

namespace Relaxes

variable {full draft : Checker} {marks : Marks}

/-- A check without mandatory fields is its own draft form. -/
theorem ofChecker (checker : Checker) : Relaxes checker checker (.ofChecker checker) where
  findings_full value := by simp [Marks.ofChecker, Function.comp_def]
  findings_draft value := by
    have hall : (Marks.ofChecker checker value).filter (fun marked => !marked.absent) =
        Marks.ofChecker checker value :=
      List.filter_eq_self.2 fun marked hmem => by
        obtain ⟨finding, -, rfl⟩ := List.mem_map.1 hmem
        rfl
    rw [Marked.remaining, hall]
    simp [Marks.ofChecker, Function.comp_def]
  value_eq _ _ := rfl

theorem nullable (h : Relaxes full draft marks) :
    Relaxes full.nullable draft.nullable marks.nullable where
  findings_full value := by
    cases value with
    | null => rfl
    | _ => exact h.findings_full _
  findings_draft value := by
    cases value with
    | null => rfl
    | _ => exact h.findings_draft _
  value_eq value hvalue := by
    cases value with
    | null => rfl
    | _ => exact h.value_eq _ hvalue

theorem itemFindings (h : Relaxes full draft marks) (index : Nat) (items : List Json) :
    Checker.itemFindings full.findings index items =
        (Marks.items marks index items).map (fun marked => marked.finding) ∧
      Checker.itemFindings draft.findings index items =
        Marked.remaining (Marks.items marks index items) := by
  induction items generalizing index with
  | nil => exact ⟨rfl, rfl⟩
  | cons item rest ih =>
    obtain ⟨ihFull, ihDraft⟩ := ih (index + 1)
    constructor
    · rw [Checker.itemFindings, Marks.items, List.map_append, Marked.finding_map_under,
        h.findings_full, ihFull]
    · rw [Checker.itemFindings, Marks.items, Marked.remaining_append, Marked.remaining_map_under,
        h.findings_draft, ihDraft]

theorem list (most : Option Nat) (h : Relaxes full draft marks) :
    Relaxes (.list most full) (.list most draft) (.list most marks) where
  findings_full value := by
    cases value with
    | arr items =>
      by_cases hlimit : Checker.exceeds items.length most = true
      · simp [Checker.list, Marks.list, hlimit]
      · simp [Checker.list, Marks.list, hlimit, (h.itemFindings 0 items).1]
    | _ => rfl
  findings_draft value := by
    cases value with
    | arr items =>
      by_cases hlimit : Checker.exceeds items.length most = true
      · simp [Checker.list, Marks.list, hlimit, Marked.remaining]
      · simp [Checker.list, Marks.list, hlimit, (h.itemFindings 0 items).2]
    | _ => rfl
  value_eq value hvalue := by
    obtain ⟨items, rfl, -, hitems⟩ := Checker.findings_list_eq_nil.1 hvalue
    refine congrArg Json.arr (List.map_congr_left fun item hitem => ?_)
    exact h.value_eq item (hitems item hitem)

end Relaxes

/-! ## Relaxed records -/

/-- A slot with the marks of its values, and the slot that takes its place in a draft. -/
structure SlotRelaxes (full draft : Slot) (marks : Marks) : Prop where
  key_eq : draft.key = full.key
  handle_eq : draft.handle = full.handle
  otherKey_eq : draft.otherKey = full.otherKey
  optional : draft.required = false
  checker : Relaxes full.checker draft.checker marks

namespace SlotRelaxes

variable {full draft : Slot} {marks : Marks} {members : Members}

theorem read_eq (h : SlotRelaxes full draft marks) (members : Members) :
    draft.read members = full.read members := by
  simp only [Slot.read, h.key_eq, h.otherKey_eq]

theorem findings_full (h : SlotRelaxes full draft marks) (members : Members) :
    full.findings members = (Marks.member full marks members).map fun marked => marked.finding := by
  unfold Slot.findings Marks.member
  cases full.read members with
  | some pair => simp only [Marked.finding_map_under, h.checker.findings_full]
  | none => cases full.required <;> rfl

theorem findings_draft (h : SlotRelaxes full draft marks) (members : Members) :
    draft.findings members = Marked.remaining (Marks.member full marks members) := by
  unfold Slot.findings Marks.member
  rw [h.read_eq, h.optional]
  cases full.read members with
  | some pair => simp only [Marked.remaining_map_under, h.checker.findings_draft]
  | none => cases full.required <;> rfl

theorem pairs_eq (h : SlotRelaxes full draft marks) (others : Members)
    (hfull : full.findings members = []) :
    draft.pairs members others = full.pairs members others := by
  unfold Slot.pairs
  rw [h.read_eq, h.handle_eq, h.key_eq]
  split
  · next hread => rw [h.checker.value_eq _ ((Slot.findings_eq_nil.1 hfull).1 _ _ hread)]
  · rfl

end SlotRelaxes

/-- Slots with the marks of their values, and the slots that take their places in a draft, one by
one. -/
inductive SlotsRelax : List (Slot × Marks) → List Slot → Prop
  | nil : SlotsRelax [] []
  | cons {full draft : Slot} {marks : Marks} {pairs : List (Slot × Marks)} {drafts : List Slot}
      (first : SlotRelaxes full draft marks) (rest : SlotsRelax pairs drafts) :
      SlotsRelax ((full, marks) :: pairs) (draft :: drafts)

namespace SlotsRelax

variable {pairs more : List (Slot × Marks)} {drafts others : List Slot}

theorem append (h : SlotsRelax pairs drafts) (hmore : SlotsRelax more others) :
    SlotsRelax (pairs ++ more) (drafts ++ others) := by
  induction h with
  | nil => exact hmore
  | cons first _ ih => exact .cons first ih

theorem metadata (fields : List Field) :
    SlotsRelax (Marks.metadataSlots fields) (metadataSlots fields) := by
  unfold Marks.metadataSlots metadataSlots
  split
  · exact .nil
  · exact .cons ⟨rfl, rfl, rfl, rfl, .ofChecker _⟩ .nil

theorem readsAny_eq (h : SlotsRelax pairs drafts) (members : Members) (key : String) :
    Slot.readsAny drafts members key = Slot.readsAny (pairs.map (·.1)) members key := by
  induction h with
  | nil => rfl
  | cons first _ ih =>
    simp only [Slot.readsAny, List.map_cons, List.any_cons] at ih ⊢
    rw [first.read_eq, ih]

theorem undeclared_eq (h : SlotsRelax pairs drafts) (members : Members) :
    undeclared drafts members = undeclared (pairs.map (·.1)) members := by
  simp only [Slot.undeclared_eq, h.readsAny_eq]

theorem tagDeclared_eq (h : SlotsRelax pairs drafts) (members : Members) :
    tagDeclared drafts members = tagDeclared (pairs.map (·.1)) members := by
  unfold tagDeclared
  split
  · induction h with
    | nil => rfl
    | cons first _ ih => rw [List.map_cons, List.any_cons, List.any_cons, first.key_eq, ih]
  · rfl

theorem findings_full (h : SlotsRelax pairs drafts) (members : Members) :
    (pairs.map (·.1)).flatMap (fun slot => slot.findings members) =
      (pairs.flatMap fun (slot, marks) => Marks.member slot marks members).map
        fun marked => marked.finding := by
  induction h with
  | nil => rfl
  | cons first _ ih =>
    rw [List.map_cons, List.flatMap_cons, List.flatMap_cons, List.map_append, ih,
      first.findings_full]

theorem findings_draft (h : SlotsRelax pairs drafts) (members : Members) :
    drafts.flatMap (fun slot => slot.findings members) =
      Marked.remaining (pairs.flatMap fun (slot, marks) => Marks.member slot marks members) := by
  induction h with
  | nil => rfl
  | cons first _ ih =>
    rw [List.flatMap_cons, List.flatMap_cons, Marked.remaining_append, ih, first.findings_draft]

theorem pairs_eq (h : SlotsRelax pairs drafts) {members : Members} (others : Members)
    (hfull : ∀ slot ∈ pairs.map (·.1), slot.findings members = []) :
    drafts.flatMap (fun slot => slot.pairs members others) =
      (pairs.map (·.1)).flatMap fun slot => slot.pairs members others := by
  induction h with
  | nil => rfl
  | cons first _ ih =>
    rw [List.map_cons, List.forall_mem_cons] at hfull
    rw [List.map_cons, List.flatMap_cons, List.flatMap_cons, ih hfull.2, first.pairs_eq _ hfull.1]

/-- Records of slots that are relaxed one by one. -/
theorem record (shape : Shape) (h : SlotsRelax pairs drafts) :
    Relaxes (.record shape (pairs.map (·.1))) (.record shape drafts) (.record shape pairs) where
  findings_full value := by
    cases value with
    | obj members =>
      simp only [Checker.record, Marks.record]
      split
      · rfl
      · exact h.findings_full members
    | _ => rfl
  findings_draft value := by
    cases value with
    | obj members =>
      simp only [Checker.record, Marks.record, h.tagDeclared_eq]
      split
      · rfl
      · exact h.findings_draft members
    | _ => rfl
  value_eq value hvalue := by
    obtain ⟨members, rfl, -, hslots⟩ := Checker.findings_record_eq_nil.1 hvalue
    simp only [Checker.record, Checker.recordMembers, h.undeclared_eq, h.pairs_eq _ hslots]

end SlotsRelax

/-! ## Drafts of content types -/

namespace Field

variable {mode : Mode}

/-- The slots of fields whose checks are relaxed. -/
theorem slotsRelax {fields : List Field} (index : Nat)
    (ih : ∀ field ∈ fields,
      Relaxes (field.compiled mode false) (field.compiled mode true) (field.marks mode)) :
    SlotsRelax (markedSlots mode index fields) (compiledSlots mode true index fields) := by
  induction fields generalizing index with
  | nil => exact .nil
  | cons field rest ihRest =>
    rw [markedSlots, compiledSlots]
    refine .cons ⟨rfl, rfl, rfl, Bool.and_false _, ?_⟩
      (ihRest _ fun child hchild => ih child (List.mem_cons_of_mem _ hchild))
    have hfield := ih field List.mem_cons_self
    rw [FieldInfo.checker_slotWith, FieldInfo.checker_slotWith]
    split
    · exact hfield
    · exact hfield.nullable

end Field

/-- The slots of variants with fields whose checks are relaxed. -/
theorem BlockOf.slotsRelax {mode : Mode} {blocks : List BlockDefinition} (uid : String)
    (index : Nat) (ih : ∀ block ∈ blocks, ∀ field ∈ block.fields,
      Relaxes (field.compiled mode false) (field.compiled mode true) (field.marks mode)) :
    SlotsRelax (markedSlots mode uid index blocks) (compiledSlots mode true uid index blocks) := by
  induction blocks generalizing index with
  | nil => exact .nil
  | cons block rest ihRest =>
    rw [markedSlots, compiledSlots]
    refine .cons ⟨rfl, rfl, rfl, rfl, ?_⟩
      (ihRest _ fun other hother => ih other (List.mem_cons_of_mem _ hother))
    have hfields := Field.slotsRelax 0 (ih block List.mem_cons_self)
    obtain ⟨info, fields⟩ := block
    simp only [variantSlot, compiledPayload, payloadMarks]
    split
    · exact .ofChecker _
    · have := (hfields.append (.metadata fields)).record
        { name := recordName ("Block_" ++ uid) (some info.uid) }
      simpa only [payloadChecker, List.map_append, Field.map_fst_markedSlots,
        Marks.map_fst_metadataSlots] using this

namespace Field

variable {mode : Mode}

theorem relaxes_group {field : Field} (hkind : field.kind = some .group)
    (ih : ∀ child ∈ field.fields,
      Relaxes (child.compiled mode false) (child.compiled mode true) (child.marks mode)) :
    Relaxes (field.compiled mode false) (field.compiled mode true) (field.marks mode) := by
  rw [compiled_group hkind, compiled_group hkind, marks_group hkind]
  have hmetadata : SlotsRelax
      (if field.multiple then Marks.metadataSlots field.fields else [])
      (if field.multiple then metadataSlots field.fields else []) := by
    split
    · exact .metadata field.fields
    · exact .nil
  have hone := ((slotsRelax 0 ih).append hmetadata).record
    { name := recordName "Group" (some field.uid) }
  rw [List.map_append, map_fst_markedSlots] at hone
  have hmap : (if field.multiple then Marks.metadataSlots field.fields else []).map (·.1) =
      if field.multiple then metadataSlots field.fields else [] := by
    split
    · exact Marks.map_fst_metadataSlots field.fields
    · rfl
  rw [hmap] at hone
  unfold FieldInfo.groupChecker
  cases hmultiple : field.multiple with
  | false =>
    rw [hmultiple] at hone
    exact hone
  | true =>
    rw [hmultiple] at hone
    exact hone.list field.instanceLimit

theorem relaxes_blocks {field : Field} (hkind : field.kind = some .blocks)
    (ih : ∀ block ∈ field.blocks, ∀ child ∈ block.fields,
      Relaxes (child.compiled mode false) (child.compiled mode true) (child.marks mode)) :
    Relaxes (field.compiled mode false) (field.compiled mode true) (field.marks mode) := by
  rw [compiled_blocks hkind, compiled_blocks hkind, marks_blocks hkind]
  split
  · exact .ofChecker _
  · have hone := (BlockOf.slotsRelax field.uid 0 ih).record
      { name := recordName "Blocks" (some field.uid), isTagged := true }
    rw [BlockOf.map_fst_markedSlots] at hone
    exact hone.list none

/-- The full check of a field, the check of the field in a draft and the marks of the field. -/
theorem relaxes (mode : Mode) (field : Field) :
    Relaxes (field.compiled mode false) (field.compiled mode true) (field.marks mode) := by
  induction field using Field.induct with
  | node info fields blocks ihFields ihBlocks =>
    by_cases hg : info.kind = some .group
    · exact relaxes_group hg ihFields
    · by_cases hb : info.kind = some .blocks
      · exact relaxes_blocks hb ihBlocks
      · have hdraft : (Field.mk info fields blocks).compiled mode true =
            (Field.mk info fields blocks).compiled mode false := by
          rw [compiled_plain hg hb, compiled_plain hg hb]
        rw [hdraft, marks_plain hg hb]
        exact .ofChecker _

end Field

theorem ContentType.relaxes (mode : Mode) (contentType : ContentType) :
    Relaxes (contentType.compiled mode false) (contentType.compiled mode true)
      (contentType.marks mode) := by
  have hrecord := (Field.slotsRelax 0 fun field (_ : field ∈ contentType.fields) =>
    Field.relaxes mode field).record { name := recordName "Entry" contentType.uid, isOpen := false }
  rw [Field.map_fst_markedSlots] at hrecord
  exact hrecord

namespace Validator

/-- **The draft relaxation.** A content type with a full validator has a draft validator, which
`draft` gives as well. For every entry the issues of the full validator are the marked findings of
the content type in order, the issues of the draft validator are those that are not marked, and the
marked ones are the missing members at the places where the entry lacks a mandatory field. An entry
that the full validator accepts, the draft validator accepts with the same value. -/
theorem check_draft {contentType : ContentType} {mode : Mode} {full : Validator}
    (h : (build contentType mode false).result = .ok full) :
    ∃ draft, (build contentType mode true).result = .ok draft ∧ full.draft.result = .ok draft ∧
      ∀ entry,
        (full.check entry).issues =
          (contentType.marks mode entry).map (fun marked => marked.finding) ∧
        (draft.check entry).issues =
          ((contentType.marks mode entry).filter fun marked => !marked.absent).map
            (fun marked => marked.finding) ∧
        (∀ finding, ⟨finding, true⟩ ∈ contentType.marks mode entry ↔
          finding.problem = .missing ∧ contentType.Lacks entry finding.location) ∧
        ∀ value, full.check entry = .accepted value → draft.check entry = .accepted value := by
  have hdraft := result_build mode true h
  obtain rfl := eq_compiled h
  have hrelaxes := ContentType.relaxes mode contentType
  refine ⟨_, hdraft, hdraft, fun entry => ⟨?_, ?_, fun _ => ContentType.mem_marks_iff, ?_⟩⟩
  · rw [check, Checker.issues_verdict]
    exact hrelaxes.findings_full entry
  · rw [check, Checker.issues_verdict]
    exact hrelaxes.findings_draft entry
  · intro value hvalue
    obtain ⟨hfull, rfl⟩ := check_eq_accepted.1 hvalue
    have hmarks := (hrelaxes.findings_full entry).symm.trans hfull
    exact check_eq_accepted.2 ⟨(hrelaxes.findings_draft entry).trans
      (Marked.remaining_eq_nil hmarks), hrelaxes.value_eq entry hfull⟩

/-- An asset that lacks its uid and a group that lacks a mandatory text: a draft may lack the
text. -/
theorem check_draft_asset :
    let contentType : ContentType :=
      { fields := [⟨{ uid := "hero", dataType := some "file" }, [], []⟩,
          ⟨{ uid := "seo", dataType := some "group" },
            [⟨{ uid := "title", dataType := some "text", mandatory := true }, [], []⟩], []⟩] }
    let entry : Json := .obj [("hero", .obj []), ("seo", .obj [])]
    ∃ full draft, (build contentType .read false).result = .ok full ∧
      full.draft.result = .ok draft ∧
      (full.check entry).issues = [⟨[.key "hero", .key "uid"], .missing⟩,
        ⟨[.key "seo", .key "title"], .missing⟩] ∧
      (draft.check entry).issues = [⟨[.key "hero", .key "uid"], .missing⟩] := by
  intro contentType entry
  have h : (build contentType .read false).result =
      .ok (compiled contentType .read false) := rfl
  obtain ⟨draft, -, hdraft, hcheck⟩ := check_draft h
  obtain ⟨hfull, hrest, -⟩ := hcheck entry
  exact ⟨_, draft, h, hdraft, hfull.trans (by decide), hrest.trans (by decide)⟩

end Validator

end ContentModel
