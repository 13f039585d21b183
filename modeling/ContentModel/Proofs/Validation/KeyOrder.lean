import ContentModel.Proofs.Json.Replaced
import ContentModel.Proofs.Validation.Governed
import ContentModel.Proofs.Validation.Plain
import ContentModel.Proofs.Validation.Reordering

/-!
# The order of members does not count

The order of members shows in a check in one place only: the tag of a block item is its first key
that may be one. Where no item has a choice of tags, entries that are the same up to the order of
members are judged alike.

* `RecordSchema.SingleTags` says that no item of a blocks field has a choice of tags, in any record
  that a schema governs in a value;
* `FieldInfo.orderBlind_compiledPlain` and `Field.alikeOn_compiled` are the statements for fields
  without and with nested definitions;
* `Validator.check_reordered` says it of the validators of a content type.
-/

namespace ContentModel

open Json (Reordered)

variable {mode : Mode} {draft : Bool}

/-! ## Tags of block items -/

namespace RecordSchema

variable {record : RecordSchema} {members itemMembers : Members} {field : Field}
  {block : BlockDefinition} {value item : Json} {items : List Json}

/-- In every record that a schema governs in a value, the items of blocks fields have at most one
key that may be their tag. -/
def SingleTags (record : RecordSchema) (value : Json) : Prop :=
  ∀ location (target : RecordSchema) (members : Members), record.Reaches value location target →
    value.at? location = some (.obj members) →
    ∀ field ∈ target.fields, field.kind = some .blocks →
    ∀ items, members.get? field.uid = some (.arr items) →
    ∀ itemMembers : Members, .obj itemMembers ∈ items → itemMembers.SingleTag

namespace SingleTags

theorem blockItem (h : record.SingleTags (.obj members)) (hmem : field ∈ record.fields)
    (hkind : field.kind = some .blocks) (given : members.get? field.uid = some (.arr items))
    (hitem : .obj itemMembers ∈ items) : itemMembers.SingleTag :=
  h [] record members (.here record members) rfl field hmem hkind items given itemMembers hitem

theorem group (h : record.SingleTags (.obj members)) (hmem : field ∈ record.fields)
    (hkind : field.kind = some .group) (hsingle : field.multiple = false)
    (given : members.get? field.uid = some value) : field.record.SingleTags value := by
  intro location target inner hreach hat
  exact h (.key field.uid :: location) target inner (.group hmem hkind hsingle given hreach)
    ((Json.at?_member given location).trans hat)

theorem groupItem (h : record.SingleTags (.obj members)) (hmem : field ∈ record.fields)
    (hkind : field.kind = some .group) (hmultiple : field.multiple = true)
    (given : members.get? field.uid = some (.arr items)) (hitem : item ∈ items) :
    field.record.SingleTags item := by
  obtain ⟨i, hget⟩ := List.mem_iff_getElem?.1 hitem
  intro location target inner hreach hat
  refine h (.key field.uid :: .index i :: location) target inner
    (.groupItem hmem hkind hmultiple given hget hreach) ?_
  rw [Json.at?_member given, Json.at?_item hget, hat]

theorem payload (h : record.SingleTags (.obj members)) (hmem : field ∈ record.fields)
    (hkind : field.kind = some .blocks) (given : members.get? field.uid = some (.arr items))
    (hitem : .obj itemMembers ∈ items) (hblock : block ∈ field.blocks)
    (hinline : block.isReference = false) (hpayload : itemMembers.get? block.uid = some value) :
    block.record.SingleTags value := by
  obtain ⟨i, hget⟩ := List.mem_iff_getElem?.1 hitem
  intro location target inner hreach hat
  refine h (.key field.uid :: .index i :: .key block.uid :: location) target inner
    (.payload hmem hkind given hget hblock hinline hpayload hreach) ?_
  rw [Json.at?_member given, Json.at?_item hget, Json.at?_member hpayload, hat]

end SingleTags

end RecordSchema

/-! ## Fields without nested definitions -/

namespace FieldInfo

theorem orderBlind_compiledPlain (mode : Mode) (info : FieldInfo) :
    (info.compiledPlain mode).OrderBlind := by
  have hdone {checker : Checker} (h : info.plainChecker mode = .done checker)
      (hblind : checker.OrderBlind) : (info.compiledPlain mode).OrderBlind := by
    rwa [compiledPlain_of_done h]
  cases hkind : info.kind with
  | none => exact hdone (by rw [plainChecker, hkind]) Checker.orderBlind_any
  | some kind =>
    cases kind with
    | text =>
      rcases compiledPlain_text mode hkind with ⟨-, -, h⟩ | ⟨-, problem?, h⟩
      · rw [h]
        exact Checker.orderBlind_choice _
      · rw [h]
        exact Checker.orderBlind_textWith problem?
    | isodate =>
      obtain ⟨problem?, h⟩ := compiledPlain_isodate mode hkind
      rw [h]
      exact Checker.orderBlind_textWith problem?
    | number => exact hdone (by rw [plainChecker, hkind]) Checker.orderBlind_number
    | boolean => exact hdone (by rw [plainChecker, hkind]) Checker.orderBlind_boolean
    | file =>
      refine hdone (by rw [plainChecker, hkind]) ?_
      cases mode with
      | read => exact ValueShape.asset_ofTexts.orderBlind
      | upsert => exact Checker.orderBlind_textWith _
    | link => exact hdone (by rw [plainChecker, hkind]) ValueShape.link_ofTexts.orderBlind
    | reference => exact hdone (by rw [plainChecker, hkind]) ValueShape.reference_ofTexts.orderBlind
    | globalField => exact hdone (by rw [plainChecker, hkind]) ValueShape.reference_ofTexts.orderBlind
    | taxonomy =>
      exact hdone (by rw [plainChecker, hkind]) (ValueShape.taxonomyTerm_ofTexts.orderBlind.list none)
    | json =>
      refine hdone (by rw [plainChecker, hkind]) ?_
      split
      · exact RichTextShape.orderBlind_document
      · exact Checker.orderBlind_any
    | group => exact hdone (by rw [plainChecker, hkind]) Checker.orderBlind_any
    | blocks => exact hdone (by rw [plainChecker, hkind]) Checker.orderBlind_any

end FieldInfo

/-! ## Fields -/

/-- A field judges alike the values that it has in two records, if no block item in the first one
has a choice of tags. -/
def Field.JudgesAlike (mode : Mode) (draft : Bool) (field : Field) : Prop :=
  ∀ (record : RecordSchema) (members : Members) (value other : Json), field ∈ record.fields →
    record.SingleTags (.obj members) → members.get? field.uid = some value →
    value.KeysDistinct → Reordered value other → (field.compiled mode draft).AlikeOn value other

namespace RecordSchema

/-- A record judges two values alike if its fields do. -/
theorem alikeOn_checker {record : RecordSchema} {value other : Json}
    (ih : ∀ field ∈ record.fields, field.JudgesAlike mode draft)
    (hsingle : record.SingleTags value) (hdistinct : value.KeysDistinct)
    (hreordered : Reordered value other) (name : String) :
    (record.checker mode draft name).AlikeOn value other := by
  refine Checker.alikeOn_record hdistinct hreordered (fun _ _ _ _ => nofun)
    fun members heq slot hs key member hread hget other hmember => ?_
  subst heq
  rcases mem_slots_iff.1 hs with ⟨i, field, hfield, rfl⟩ | ⟨-, -, rfl⟩
  · obtain ⟨rfl, -⟩ := (Slot.read_eq_some_iff rfl).1 hread
    have hmem := List.mem_of_getElem? hfield
    have halike : (field.compiled mode draft).AlikeOn member other :=
      ih field hmem record members member other hmem hsingle hget (hdistinct.member hget) hmember
    rw [FieldInfo.checker_slotWith]
    split
    · exact halike
    · exact halike.nullable hmember
  · exact ValueShape.itemMetadata_ofTexts.orderBlind.nullable (hdistinct.member hget) hmember

end RecordSchema

/-- An item of a blocks field is judged alike if it has no choice of tags and its payloads are. -/
theorem BlockOf.alikeOn_item {uid : String} {blocks : List BlockDefinition} {item other : Json}
    (hdistinct : item.KeysDistinct) (hreordered : Reordered item other)
    (hsingle : ∀ members : Members, item = .obj members → members.SingleTag)
    (h : ∀ members : Members, item = .obj members → ∀ block ∈ blocks, block.isReference = false →
      ∀ payload other, members.get? block.uid = some payload → Reordered payload other →
        (block.compiledPayload mode draft uid).AlikeOn payload other) :
    (blockItemChecker uid (compiledSlots mode draft uid 0 blocks)).AlikeOn item other := by
  refine Checker.alikeOn_record hdistinct hreordered ?_
    fun members heq slot hs key payload hread hget other hpayload => ?_
  · rintro members others rfl rfl -
    exact (hsingle members rfl).tag?_eq (Json.reordered_obj_iff.1 hreordered).1
  · subst heq
    obtain ⟨i, block, hblock, rfl⟩ := mem_compiledSlots.1 hs
    obtain ⟨rfl, -⟩ := (Slot.read_eq_some_iff rfl).1 hread
    cases hinline : block.isReference with
    | false =>
      have hmem : block ∈ blocks := List.mem_of_getElem? hblock
      exact h members rfl block hmem hinline payload other hget hpayload
    | true =>
      have hreference : block.compiledPayload mode draft uid = ValueShape.reference := by
        obtain ⟨info, fields⟩ := block
        rw [compiledPayload, if_pos hinline]
      rw [variantSlot, hreference]
      exact ValueShape.reference_ofTexts.orderBlind (hdistinct.member hget) hpayload

namespace Field

/-- A field judges values alike that are the same up to the order of members. -/
theorem judgesAlike (mode : Mode) (draft : Bool) (field : Field) :
    field.JudgesAlike mode draft := by
  induction field using Field.induct with
  | node info fields blocks ihFields ihBlocks =>
    intro record members value other hmem hsingle hget hdistinct hreordered
    by_cases hg : info.kind = some .group
    · cases hmultiple : info.multiple with
      | false =>
        rw [RecordSchema.compiled_single hg hmultiple]
        exact RecordSchema.alikeOn_checker ihFields (hsingle.group hmem hg hmultiple hget)
          hdistinct hreordered _
      | true =>
        rw [RecordSchema.compiled_instances hg hmultiple]
        refine Checker.alikeOn_list_of_reordered hreordered
          fun items heq item hitem other hother => ?_
        subst heq
        exact RecordSchema.alikeOn_checker ihFields
          (hsingle.groupItem hmem hg hmultiple hget hitem) (hdistinct.item hitem) hother _
    · by_cases hb : info.kind = some .blocks
      · rw [compiled_blocks hb]
        split
        · exact Checker.orderBlind_any.list none hdistinct hreordered
        · refine Checker.alikeOn_list_of_reordered hreordered
            fun items heq item hitem other hother => ?_
          subst heq
          refine BlockOf.alikeOn_item (hdistinct.item hitem) hother ?_ ?_
          · rintro itemMembers rfl
            exact hsingle.blockItem hmem hb hget hitem
          · rintro itemMembers rfl block hblock hinline payload other hpayload hreordered
            rw [RecordSchema.compiledPayload_inline hinline]
            exact RecordSchema.alikeOn_checker (ihBlocks block hblock)
              (hsingle.payload hmem hb hget hitem hblock hinline hpayload)
              ((hdistinct.item hitem).member hpayload) hreordered _
      · rw [compiled_plain hg hb]
        split
        · exact (info.orderBlind_compiledPlain mode).list none hdistinct hreordered
        · exact info.orderBlind_compiledPlain mode hdistinct hreordered

end Field

namespace Validator

/-- **The order of members does not count.** Two entries that are the same up to the order of
members are both accepted or both refused, with the same issues in the same order, and if they are
accepted, the values that come out are the same up to the order of members; provided that no object
has a key twice and no item of a blocks field has a choice of tags. -/
theorem check_reordered {contentType : ContentType} {validator : Validator}
    (h : (build contentType mode draft).result = .ok validator) {entry other : Json}
    (hdistinct : entry.KeysDistinct) (hsingle : contentType.record.SingleTags entry)
    (hreordered : Reordered entry other) :
    (validator.check entry).ok = (validator.check other).ok ∧
      (validator.check entry).issues = (validator.check other).issues ∧
      ∀ value value', validator.check entry = .accepted value →
        validator.check other = .accepted value' → Reordered value value' := by
  obtain rfl := eq_compiled h
  have halike : (compiled contentType mode draft).checker.AlikeOn entry other := by
    rw [checker_compiled]
    exact RecordSchema.alikeOn_checker (fun field _ => field.judgesAlike mode draft) hsingle
      hdistinct hreordered _
  refine ⟨?_, ?_, fun value value' haccepted haccepted' => ?_⟩
  · rw [check, check, Checker.ok_verdict, Checker.ok_verdict, Checker.accepts, Checker.accepts,
      halike.findings]
  · rw [check, check, Checker.issues_verdict, Checker.issues_verdict, halike.findings]
  · obtain ⟨-, rfl⟩ := check_eq_accepted.1 haccepted
    obtain ⟨-, rfl⟩ := check_eq_accepted.1 haccepted'
    exact halike.value

/-- An object that is a choice of a field, and a block item with metadata before or after its
tag. -/
theorem check_reordered_blocks :
    let a : String × Json := ("a", .int 1)
    let b : String × Json := ("b", .int 2)
    let hero : String × Json := ("hero", .obj [])
    let metadata : String × Json := ("_metadata", .obj [("uid", .str "m")])
    let enum : FieldEnum := { choices := [{ value := .obj [b, a] }] }
    let pick : Field := ⟨{ uid := "pick", dataType := some "text", choices := some enum }, [], []⟩
    let sections : Field :=
      ⟨{ uid := "sections", dataType := some "blocks" }, [], [⟨{ uid := "hero" }, []⟩]⟩
    let entry : Json := .obj [("pick", .obj [a, b]), ("sections", .arr [.obj [metadata, hero]])]
    let other : Json := .obj [("pick", .obj [b, a]), ("sections", .arr [.obj [hero, metadata]])]
    ∃ validator, (build { fields := [pick, sections] } .read false).result = .ok validator ∧
      ∃ value value', validator.check entry = .accepted value ∧
        validator.check other = .accepted value' ∧ Reordered value value' := by
  intro a b hero metadata enum pick sections entry other
  have h : (build { fields := [pick, sections] } .read false).result =
      .ok (compiled { fields := [pick, sections] } .read false) := rfl
  have hdistinct : entry.KeysDistinct := by
    have hmetadata : metadata.2.KeysDistinct :=
      .obj (by decide) (List.forall_mem_singleton.2 (.str "m"))
    have hitem : (Json.obj [metadata, hero]).KeysDistinct :=
      .obj (by decide) (List.forall_mem_cons.2
        ⟨hmetadata, List.forall_mem_singleton.2 (.obj List.nodup_nil nofun)⟩)
    have hpick : (Json.obj [a, b]).KeysDistinct :=
      .obj (by decide) (List.forall_mem_cons.2 ⟨.int 1, List.forall_mem_singleton.2 (.int 2)⟩)
    exact .obj (by decide) (List.forall_mem_cons.2
      ⟨hpick, List.forall_mem_singleton.2 (.arr (List.forall_mem_singleton.2 hitem))⟩)
  have hsingle : (ContentType.record { fields := [pick, sections] }).SingleTags entry := by
    rintro location target members hreach hat field hfield hkind items hget itemMembers hitem
    generalize hentry : entry = given at hreach
    cases hreach with
    | here =>
      obtain rfl := Json.obj.inj (Option.some.inj hat)
      rcases List.mem_pair.1 hfield with rfl | rfl
      · cases hkind
      · cases hget
        obtain rfl := Json.obj.inj (List.mem_singleton.1 hitem)
        unfold Members.SingleTag
        decide
    | group hmem hgroup => rcases List.mem_pair.1 hmem with rfl | rfl <;> cases hgroup
    | groupItem hmem hgroup => rcases List.mem_pair.1 hmem with rfl | rfl <;> cases hgroup
    | payload hmem hblocks _ _ hblock _ _ hdeeper =>
      rcases List.mem_pair.1 hmem with rfl | rfl
      · cases hblocks
      · obtain rfl := List.mem_singleton.1 hblock
        cases hdeeper with
        | here => cases hfield
        | group hnone => cases hnone
        | groupItem hnone => cases hnone
        | payload hnone => cases hnone
  have hreordered : Reordered entry other := by
    have hitem : Reordered (.obj [metadata, hero]) (.obj [hero, metadata]) :=
      Json.reordered_of_perm (by decide) (.swap _ _ _)
    have hpick : Reordered (.obj [a, b]) (.obj [b, a]) :=
      Json.reordered_of_perm (by decide) (.swap _ _ _)
    have hitems : Reordered (.arr [.obj [metadata, hero]]) (.arr [.obj [hero, metadata]]) := by
      refine .arr rfl fun i item other hget hother => ?_
      cases i with
      | zero =>
        cases hget
        cases hother
        exact hitem
      | succ i => cases hget
    exact Members.Parallel.reordered (.cons ⟨rfl, hpick⟩ (.cons ⟨rfl, hitems⟩ .nil))
  have haccepted : (compiled { fields := [pick, sections] } .read false).check entry =
      .accepted (.obj [("pick", .obj [a, b]), ("sections", .arr [.obj [hero, metadata]])]) := by
    decide
  have haccepted' : (compiled { fields := [pick, sections] } .read false).check other =
      .accepted other := by decide
  exact ⟨_, h, _, _, haccepted, haccepted',
    (check_reordered h hdistinct hsingle hreordered).2.2 _ _ haccepted haccepted'⟩

end Validator

end ContentModel
