import ContentModel.Proofs.Schema.Layout
import ContentModel.Proofs.Validation.Plain

/-!
# Order of findings

What is found in a value stands in the order in which the parts of the value are declared.

* `Checker.OrderedAt` says this of the findings in one value, `Checker.Ordered` of all findings of
  a check, with one lemma for every way to build checks;
* `Field.ordered_compiled` says it of the compiled checks of fields;
* `Validator.issues_in_order` says it of the issues of an entry. Issues in this order are never
  about the same place, nor is one about a part of what another is about.
-/

namespace ContentModel

variable {mode : Mode} {draft : Bool} {layout : Layout}

namespace Checker

variable {checker : Checker} {value : Json}

/-- What is found in a value stands in the order of a layout. -/
def OrderedAt (checker : Checker) (layout : Layout) (value : Json) : Prop :=
  (checker.findings value).Pairwise fun first second =>
    first.location.Before layout second.location

/-- What is found in any value stands in the order of a layout. -/
def Ordered (checker : Checker) (layout : Layout) : Prop := ∀ value, checker.OrderedAt layout value

/-- One finding alone is in any order. -/
theorem ordered_leaf (problem? : Json → Option Problem) (layout : Layout) :
    (leaf problem?).Ordered layout := by
  intro value
  cases h : problem? value <;> simp [OrderedAt, leaf, h]

theorem OrderedAt.nullable (h : checker.OrderedAt layout value) :
    checker.nullable.OrderedAt layout value := by
  cases value with
  | null => exact List.Pairwise.nil
  | _ => exact h

theorem Ordered.nullable (h : checker.Ordered layout) : checker.nullable.Ordered layout :=
  fun value => (h value).nullable

/-- What is found in a part is found in the whole in the same order. -/
theorem OrderedAt.under {step : Step} (h : checker.OrderedAt (layout.below step) value) :
    ((checker.findings value).map (Finding.under step)).Pairwise fun first second =>
      first.location.Before layout second.location :=
  List.pairwise_map.2 (List.Pairwise.imp (fun hbefore => .tail hbefore) h)

/-! ## Lists -/

theorem pairwise_itemFindings {items : List Json}
    (h : ∀ item ∈ items, checker.OrderedAt layout item) (index : Nat) :
    (itemFindings checker.findings index items).Pairwise fun first second =>
      first.location.Before (.list layout) second.location := by
  induction items generalizing index with
  | nil => exact List.Pairwise.nil
  | cons item rest ih =>
    obtain ⟨hitem, hrest⟩ := List.forall_mem_cons.1 h
    refine List.pairwise_append.2 ⟨OrderedAt.under hitem, ih hrest (index + 1), ?_⟩
    intro first hfirst second hsecond
    obtain ⟨inner, -, rfl⟩ := List.mem_map.1 hfirst
    obtain ⟨i, -, other, -, -, rfl⟩ := mem_itemFindings_iff.1 hsecond
    have hindex : (index : Int) < (index + 1 + i : Nat) := by omega
    exact .head (.index hindex)

theorem orderedAt_list {most : Option Nat}
    (h : ∀ items, value = .arr items → ∀ item ∈ items, checker.OrderedAt layout item) :
    (list most checker).OrderedAt (.list layout) value := by
  unfold OrderedAt
  cases value with
  | arr items =>
    simp only [list]
    split
    · exact List.pairwise_singleton _ _
    · exact pairwise_itemFindings (h items rfl) 0
  | _ => exact List.pairwise_singleton _ _

theorem Ordered.list (most : Option Nat) (h : checker.Ordered layout) :
    (list most checker).Ordered (.list layout) :=
  fun _ => orderedAt_list fun _ _ item _ => h item

end Checker

/-! ## Records -/

namespace Slot

variable {slot : Slot} {slots : List Slot} {members : Members}

theorem flatMap_names (h : ∀ slot ∈ slots, slot.otherKey = none) :
    slots.flatMap names = slots.map fun slot => slot.key := by
  induction slots with
  | nil => rfl
  | cons slot rest ih =>
    obtain ⟨hslot, hrest⟩ := List.forall_mem_cons.1 h
    rw [List.flatMap_cons, ih hrest, names, hslot, List.map_cons]
    rfl

theorem mem_names_of_read {key : String} {value : Json}
    (h : slot.read members = some (key, value)) : key ∈ slot.names := by
  rcases read_cases h with ⟨rfl, -⟩ | ⟨-, hother, -⟩
  · exact List.mem_cons_self
  · exact List.mem_cons_of_mem _ (Option.mem_toList.2 hother)

/-- What is found in a slot is found at one of its keys. -/
theorem exists_key_of_mem_findings {finding : Finding} (h : finding ∈ slot.findings members) :
    ∃ key ∈ slot.names, ∃ rest, finding.location = .key key :: rest := by
  rcases findings_cases h with ⟨key, value, inner, hread, -, rfl⟩ | ⟨-, rfl⟩
  · exact ⟨key, mem_names_of_read hread, inner.location, rfl⟩
  · exact ⟨slot.key, List.mem_cons_self, [], rfl⟩

theorem pairwise_findings (h : ∀ key value, slot.read members = some (key, value) →
      slot.checker.OrderedAt (layout.below (.key key)) value) :
    (slot.findings members).Pairwise fun first second =>
      first.location.Before layout second.location := by
  unfold findings
  split
  · next key value hread => exact (h key value hread).under
  · split
    · exact List.pairwise_singleton _ _
    · exact List.Pairwise.nil

end Slot

namespace Checker

variable {checker : Checker} {value : Json} {slots : List Slot} {shape : Shape}

/-- A record is in order if the keys of its slots are those that are declared, and what is found in
each of its members is in order. -/
theorem orderedAt_record (hnodup : (layout []).Nodup) (hkeys : slots.flatMap Slot.names = layout [])
    (h : ∀ members, value = .obj members → ∀ slot ∈ slots, ∀ key member,
      slot.read members = some (key, member) →
        slot.checker.OrderedAt (layout.below (.key key)) member) :
    (record shape slots).OrderedAt layout value := by
  unfold OrderedAt
  cases value with
  | obj members =>
    simp only [record]
    split
    · exact List.pairwise_singleton _ _
    · have hnames : (slots.flatMap Slot.names).Pairwise fun first second =>
          (Step.key first).Before (layout []) (.key second) := by
        rw [hkeys]
        exact Step.Before.pairwise_keys hnodup
      -- Within a slot the order is that of its member, between two slots that of their keys.
      refine List.pairwise_flatMap.2 ⟨fun slot hs => Slot.pairwise_findings (h members rfl slot hs),
        (List.pairwise_flatMap.1 hnames).2.imp fun hbefore first hfirst second hsecond => ?_⟩
      obtain ⟨key, hkey, rest, hlocation⟩ := Slot.exists_key_of_mem_findings hfirst
      obtain ⟨other, hother, more, hotherLocation⟩ := Slot.exists_key_of_mem_findings hsecond
      rw [hlocation, hotherLocation]
      exact .head (hbefore key hkey other hother)
  | _ => exact List.pairwise_singleton _ _

theorem ordered_record (shape : Shape) {members : List (String × Layout)}
    (hnodup : (members.map fun member => member.1).Nodup)
    (hkeys : slots.flatMap Slot.names = members.map fun member => member.1)
    (h : ∀ slot ∈ slots, ∀ key ∈ slot.names, ∃ layout, (key, layout) ∈ members ∧
      slot.checker.Ordered layout) : (record shape slots).Ordered (.record members) := by
  intro value
  refine orderedAt_record hnodup hkeys fun _ _ slot hs key member hread => ?_
  obtain ⟨layout, hmem, hordered⟩ := h slot hs key (Slot.mem_names_of_read hread)
  rw [Layout.record_below hnodup hmem]
  exact hordered member

/-- The slots and the declared members correspond one by one where every slot has one key. -/
theorem ordered_record_of_keys (shape : Shape) {members : List (String × Layout)}
    (hnodup : (slots.map fun slot => slot.key).Nodup)
    (hkeys : (slots.map fun slot => slot.key) = members.map fun member => member.1)
    (h : ∀ slot ∈ slots, slot.otherKey = none ∧ ∃ layout, (slot.key, layout) ∈ members ∧
      slot.checker.Ordered layout) : (record shape slots).Ordered (.record members) := by
  have hnames : slots.flatMap Slot.names = slots.map fun slot => slot.key :=
    Slot.flatMap_names fun slot hs => (h slot hs).1
  refine ordered_record shape (hkeys ▸ hnodup) (hnames.trans hkeys) fun slot hs key hkey => ?_
  obtain ⟨hother, hslot⟩ := h slot hs
  rw [Slot.names, hother] at hkey
  rw [List.mem_singleton.1 hkey]
  exact hslot

theorem ordered_flat (shape : Shape) {keys : List String} (hnodup : keys.Nodup)
    (hkeys : slots.flatMap Slot.names = keys)
    (h : ∀ slot ∈ slots, slot.checker.Ordered .bare) :
    (record shape slots).Ordered (.flat keys) := by
  have hmap : (keys.map fun key => (key, Layout.bare)).map (fun member => member.1) = keys := by
    rw [List.map_map]
    exact List.map_id keys
  refine ordered_record shape (by rwa [hmap]) (by rwa [hmap]) fun slot hs key hkey => ?_
  have hmem : key ∈ keys := hkeys ▸ List.mem_flatMap.2 ⟨slot, hs, hkey⟩
  exact ⟨.bare, List.mem_map_of_mem hmem, h slot hs⟩

end Checker

/-! ## Structured values -/

namespace RichTextShape

theorem ordered_node : node.Ordered .node := by
  intro value
  rw [node_eq]
  induction value using Json.inductUnder "children" with
  | other value hvalue =>
    refine Checker.orderedAt_record (by decide) rfl fun members heq => ?_
    rw [heq] at hvalue
    cases hvalue
  | obj members ih =>
    refine Checker.orderedAt_record (by decide) rfl fun _ heq slot hs key member hread => ?_
    cases heq
    rcases nodeSlots_cases hs with ⟨_, problem?, -, rfl⟩ | rfl
    · exact (Checker.ordered_leaf problem? _).nullable member
    · obtain ⟨rfl, hmember⟩ := (Slot.read_eq_some_iff rfl).1 hread
      rw [Layout.node_below]
      refine Checker.OrderedAt.nullable (Checker.orderedAt_list fun items heq item hitem => ?_)
      rw [node_eq]
      exact ih items (heq ▸ hmember) item hitem

theorem ordered_document : document.Ordered .document := by
  refine Checker.ordered_record_of_keys _ (by decide) rfl fun slot hs => ?_
  simp only [List.mem_cons, List.not_mem_nil, or_false] at hs
  rcases hs with rfl | rfl | rfl | rfl
  · exact ⟨rfl, .bare, by simp, Checker.ordered_leaf _ _⟩
  · exact ⟨rfl, .bare, by simp [optional], (Checker.ordered_leaf _ _).nullable⟩
  · exact ⟨rfl, .bare, by simp [optional], (Checker.ordered_leaf _ _).nullable⟩
  · exact ⟨rfl, .list .node, by simp, ordered_node.list none⟩

end RichTextShape

theorem Checker.OfTexts.ordered {keys : List String} {checker : Checker}
    (h : checker.OfTexts keys) : checker.Ordered (.flat keys) := by
  cases h with
  | record _ hnames hnodup hslots =>
    exact ordered_flat _ hnodup hnames fun slot hs =>
      (hslots slot hs).elim (P := fun checker => checker.Ordered .bare) (ordered_leaf _ _)
        (ordered_leaf _ _).nullable

/-! ## Fields -/

theorem FieldInfo.ordered_compiledPlain (mode : Mode) (info : FieldInfo) :
    (info.compiledPlain mode).Ordered info.plainLayout := by
  cases hkind : info.kind with
  | none =>
    rw [compiledPlain, plainChecker, hkind]
    exact Checker.ordered_leaf _ _
  | some kind =>
    cases kind with
    | text =>
      rcases compiledPlain_text mode hkind with ⟨-, -, h⟩ | ⟨-, problem?, h⟩
      · rw [h]
        exact Checker.ordered_leaf _ _
      · rw [h]
        exact Checker.ordered_leaf _ _
    | isodate =>
      obtain ⟨problem?, h⟩ := compiledPlain_isodate mode hkind
      rw [h]
      exact Checker.ordered_leaf _ _
    | file =>
      rw [compiledPlain, plainChecker, plainLayout, hkind]
      cases mode with
      | read => exact ValueShape.asset_ofTexts.ordered
      | upsert => exact Checker.ordered_leaf _ _
    | json =>
      rw [compiledPlain, plainChecker, plainLayout, hkind]
      by_cases hrte : info.isJsonRte = true
      · simp only [hrte]
        exact RichTextShape.ordered_document
      · simp only [hrte]
        exact Checker.ordered_leaf _ _
    | link =>
      rw [compiledPlain, plainChecker, plainLayout, hkind]
      exact ValueShape.link_ofTexts.ordered
    | reference =>
      rw [compiledPlain, plainChecker, plainLayout, hkind]
      exact ValueShape.reference_ofTexts.ordered
    | globalField =>
      rw [compiledPlain, plainChecker, plainLayout, hkind]
      exact ValueShape.reference_ofTexts.ordered
    | taxonomy =>
      rw [compiledPlain, plainChecker, plainLayout, hkind]
      exact ValueShape.taxonomyTerm_ofTexts.ordered.list none
    | _ =>
      rw [compiledPlain, plainChecker, hkind]
      exact Checker.ordered_leaf _ _

namespace Field

variable {fields : List Field}

theorem keys_memberLayouts (fields : List Field) :
    (memberLayouts fields).map (fun member => member.1) = fields.map fun field => field.uid := by
  rw [memberLayouts_eq, List.map_map]
  rfl

theorem keys_recordSlots (withMetadata : Bool) (fields : List Field) :
    (recordSlots mode draft withMetadata fields).map (fun slot => slot.key) =
      (memberLayouts fields ++ if withMetadata then metadataLayouts fields else []).map
        fun member => member.1 := by
  rw [recordSlots, List.map_append, List.map_append, keys_compiledSlots, keys_memberLayouts]
  congr 1
  -- A field with the key of the metadata takes its place in the record and in the layout.
  unfold metadataSlots metadataLayouts
  split
  · split <;> rfl
  · rfl

theorem mem_metadataLayouts {slot : Slot} {withMetadata : Bool}
    (h : slot ∈ if withMetadata then metadataSlots fields else []) :
    ("_metadata", Layout.itemMetadata) ∈ if withMetadata then metadataLayouts fields else [] := by
  cases withMetadata with
  | false => cases h
  | true =>
    simp only [if_true, metadataSlots, metadataLayouts] at h ⊢
    split at h
    · cases h
    · next hnone =>
      rw [if_neg hnone]
      exact List.mem_singleton_self _

/-- A record of fields is in order if its fields are. -/
theorem ordered_record (shape : Shape) (withMetadata : Bool) (hdistinct : DistinctUids fields)
    (ih : ∀ field ∈ fields, (field.compiled mode draft).Ordered field.layout) :
    (Checker.record shape (recordSlots mode draft withMetadata fields)).Ordered
      (.record (memberLayouts fields ++ if withMetadata then metadataLayouts fields else [])) := by
  refine Checker.ordered_record_of_keys shape (separate_recordSlots withMetadata hdistinct).keys_nodup
    (keys_recordSlots withMetadata fields) fun slot hs => ⟨otherKey_recordSlots hs, ?_⟩
  rcases List.mem_append.1 hs with hs | hs
  · obtain ⟨i, field, hget, rfl⟩ := mem_compiledSlots.1 hs
    have hfield := List.mem_of_getElem? hget
    refine ⟨field.layout, ?_, ?_⟩
    · rw [memberLayouts_eq]
      exact List.mem_append_left _ (List.mem_map_of_mem hfield)
    · rw [FieldInfo.checker_slotWith]
      split
      · exact ih field hfield
      · exact (ih field hfield).nullable
  · obtain ⟨rfl, -⟩ := eq_metadataSlot hs
    exact ⟨.itemMetadata, List.mem_append_right _ (mem_metadataLayouts hs),
      ValueShape.itemMetadata_ofTexts.ordered.nullable⟩

end Field

theorem BlockOf.ordered_payload {block : BlockDefinition} (uid : String)
    (hdistinct : Field.DistinctUids block.fields)
    (ih : ∀ field ∈ block.fields, (field.compiled mode draft).Ordered field.layout) :
    (block.compiledPayload mode draft uid).Ordered block.payloadLayout := by
  obtain ⟨info, fields⟩ := block
  rw [compiledPayload, payloadLayout]
  split
  · exact ValueShape.reference_ofTexts.ordered
  · exact Field.ordered_record _ true hdistinct ih

namespace Field

variable {field : Field}

theorem ordered_plain (hg : field.kind ≠ some .group) (hb : field.kind ≠ some .blocks) :
    (field.compiled mode draft).Ordered field.layout := by
  rw [compiled_plain hg hb, layout_plain hg hb]
  simp only [isListed_iff hg hb]
  split
  · exact (field.ordered_compiledPlain mode).list none
  · exact field.ordered_compiledPlain mode

/-- A list of block items is in order if the payloads of the variants are. -/
theorem ordered_blocks (hkind : field.kind = some .blocks)
    (huids : (field.blocks.map fun block => block.uid).Nodup)
    (ih : ∀ block ∈ field.blocks,
      (block.compiledPayload mode draft field.uid).Ordered block.payloadLayout) :
    (field.compiled mode draft).Ordered field.layout := by
  rw [compiled_blocks hkind, layout_blocks hkind]
  split
  · exact Checker.Ordered.list none (Checker.ordered_leaf _ _)
  · refine Checker.Ordered.list none (Checker.ordered_record_of_keys _
      (BlockOf.separate_compiledSlots _ huids).keys_nodup ?_ fun slot hs =>
        ⟨BlockOf.otherKey_compiledSlots hs, ?_⟩)
    · rw [BlockOf.keys_compiledSlots, BlockOf.memberLayouts_eq, List.map_map]
      rfl
    · obtain ⟨i, block, hget, rfl⟩ := BlockOf.mem_compiledSlots.1 hs
      have hblock := List.mem_of_getElem? hget
      refine ⟨block.payloadLayout, ?_, ih block hblock⟩
      rw [BlockOf.memberLayouts_eq]
      exact List.mem_map_of_mem hblock

/-- What the compiled check of a field finds in a value stands in the order of the layout of the
field, where no two siblings have the same uid. -/
theorem ordered_compiled (mode : Mode) (draft : Bool) (hdistinct : field.Distinct) :
    (field.compiled mode draft).Ordered field.layout := by
  induction field using Field.induct with
  | node info fields blocks ihFields ihBlocks =>
    obtain ⟨huids, hblockUids, hblockFields, hbelow, hbelowBlocks⟩ := hdistinct
    have hfields : ∀ field ∈ fields, (field.compiled mode draft).Ordered field.layout :=
      fun field hfield => ihFields field hfield (hbelow field hfield)
    by_cases hg : info.kind = some .group
    · cases hmultiple : info.multiple with
      | false =>
        rw [compiled_single hg hmultiple, layout_single hg hmultiple]
        simpa using ordered_record _ false huids hfields
      | true =>
        rw [compiled_instances hg hmultiple, layout_instances hg hmultiple]
        exact (ordered_record _ true huids hfields).list _
    · by_cases hb : info.kind = some .blocks
      · refine ordered_blocks hb hblockUids fun block hblock => ?_
        refine BlockOf.ordered_payload _ (hblockFields block hblock) fun field hfield => ?_
        exact ihBlocks block hblock field hfield (hbelowBlocks block hblock field hfield)
      · exact ordered_plain hg hb

end Field

theorem ContentType.ordered_compiled (mode : Mode) (draft : Bool) {contentType : ContentType}
    (hdistinct : contentType.Distinct) :
    (contentType.compiled mode draft).Ordered contentType.layout := by
  have hfields : ∀ field ∈ contentType.fields, (field.compiled mode draft).Ordered field.layout :=
    fun field hfield => Field.ordered_compiled mode draft (hdistinct.2 field hfield)
  rw [contentType.compiled_eq, layout]
  simpa using Field.ordered_record _ false hdistinct.1 hfields

namespace Validator

/-- **Order of issues.** Where no two siblings of a content type have the same uid, the locations of
the issues of an entry strictly increase in the order of the content type. So no two issues have the
same location, and no issue is about a part of what another is about: what is refused as a whole is
refused once, and nothing is reported inside. -/
theorem issues_in_order {contentType : ContentType} {validator : Validator}
    (hdistinct : contentType.Distinct)
    (h : (build contentType mode draft).result = .ok validator) (entry : Json) :
    ((validator.check entry).issues.Pairwise fun first second =>
      first.location.Before contentType.layout second.location) ∧
    ((validator.check entry).issues.map Finding.location).Nodup ∧
    ∀ outer ∈ (validator.check entry).issues, ∀ inner ∈ (validator.check entry).issues,
      outer.location <+: inner.location → outer = inner := by
  obtain rfl := eq_compiled h
  rw [check, Checker.issues_verdict]
  have hordered := contentType.ordered_compiled mode draft hdistinct entry
  refine ⟨hordered, List.pairwise_map.2 (hordered.imp Location.Before.ne), ?_⟩
  -- Of two different issues one stands before the other, and then neither location leads on.
  refine List.Pairwise.forall_of_forall_of_flip (fun _ _ _ => rfl) ?_ ?_
  · exact hordered.imp fun hbefore hprefix => absurd hprefix hbefore.not_isPrefix.1
  · exact hordered.imp fun hbefore hprefix => absurd hprefix hbefore.not_isPrefix.2

/-- An entry without its mandatory title, with an instance in which two members are wrong and with a
number in place of an instance. -/
theorem issues_in_order_rows :
    let title : Field := ⟨{ uid := "title", dataType := some "text", mandatory := true }, [], []⟩
    let size : Field := ⟨{ uid := "size", dataType := some "number" }, [], []⟩
    let rows : Field :=
      ⟨{ uid := "rows", dataType := some "group", multiple := true }, [title, size], []⟩
    let contentType : ContentType := { fields := [title, rows] }
    let entry : Json := .obj [("rows", .arr [.obj [("size", .str "1")], .int 2])]
    let locations : List Location := [[.key "title"], [.key "rows", .index 0, .key "title"],
      [.key "rows", .index 0, .key "size"], [.key "rows", .index 1]]
    ∃ validator, (build contentType .read false).result = .ok validator ∧
      (validator.check entry).issues.map Finding.location = locations ∧
      locations.Pairwise (Location.Before contentType.layout) ∧ locations.Nodup := by
  intro title size rows contentType entry locations
  have h : (build contentType .read false).result = .ok (compiled contentType .read false) := rfl
  have hdistinct : contentType.Distinct := by
    have hplain : ∀ info : FieldInfo, Field.Distinct ⟨info, [], []⟩ :=
      fun info => .of_fields List.nodup_nil nofun
    refine ⟨show ["title", "rows"].Nodup by decide, List.forall_mem_cons.2 ⟨hplain _, ?_⟩⟩
    refine List.forall_mem_singleton.2 (.of_fields (show ["title", "size"].Nodup by decide) ?_)
    exact List.forall_mem_cons.2 ⟨hplain _, List.forall_mem_singleton.2 (hplain _)⟩
  have hlocations : ((compiled contentType .read false).check entry).issues.map Finding.location =
      locations := by decide
  obtain ⟨hordered, hnodup, -⟩ := issues_in_order hdistinct h entry
  exact ⟨_, h, hlocations, hlocations ▸ List.pairwise_map.2 hordered, hlocations ▸ hnodup⟩

end Validator

end ContentModel
