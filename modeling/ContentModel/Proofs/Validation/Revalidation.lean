import ContentModel.Proofs.Validation.Plain

/-!
# Checking a value again

The value that comes out of an accepted entry, checked again.

A slot of a record has a handle besides its key, which is made of its position. Where a member that
no field declares is spelled like the handle of a field or variant that is not given, the field or
variant comes out as null, and null need not be accepted the second time.

* `Field.Shadowed`, `Field.ShadowedIn` and `ContentType.Shadowed` say where an entry has such a
  member, without any check;
* `Field.settles_compiled_iff` says that this is all that keeps the check of a field from settling;
* `Validator.check_value_iff` says the same of the validators of a content type.
-/

namespace ContentModel

variable {mode : Mode} {draft : Bool}

/-! ## Members in the way -/

/-- A member that is spelled like a handle stands in a record where no member of the record is
declared under that key. -/
def Slot.HandleGiven (keys : List String) (members : Members) (handle : String) : Prop :=
  members.has handle = true ∧ handle ∉ keys

mutual

/-- In a record with the given fields a member is in the way. -/
inductive Field.Shadowed : List Field → Members → Prop
  /-- It is spelled like the handle of a mandatory field that is not given and takes no null. -/
  | here {fields : List Field} {members : Members} {field : Field} {index : Nat}
      (get : fields[index]? = some field) (absent : members.get? field.uid = none)
      (given : Slot.HandleGiven (fields.map fun other => other.uid) members
        ("f" ++ Digits.intText index))
      (mandatory : field.mandatory = true) (refused : field.takesNull = false) :
      Field.Shadowed fields members
  /-- It stands in the value of a field. -/
  | inside {fields : List Field} {members : Members} {field : Field} {value : Json}
      (mem : field ∈ fields) (given : members.get? field.uid = some value)
      (shadowed : Field.ShadowedIn field value) : Field.Shadowed fields members

/-- In the value of a field a member is in the way. -/
inductive Field.ShadowedIn : Field → Json → Prop
  /-- In a group. -/
  | group {field : Field} {members : Members} (kind : field.kind = some .group)
      (single : field.multiple = false) (shadowed : Field.Shadowed field.fields members) :
      Field.ShadowedIn field (.obj members)
  /-- In an instance of a repeatable group. -/
  | groupItem {field : Field} {items : List Json} {members : Members}
      (kind : field.kind = some .group) (multiple : field.multiple = true)
      (mem : .obj members ∈ items) (shadowed : Field.Shadowed field.fields members) :
      Field.ShadowedIn field (.arr items)
  /-- In a block item, spelled like the handle of a variant that is not given. -/
  | variant {field : Field} {items : List Json} {members : Members} {block : BlockDefinition}
      {index : Nat} (kind : field.kind = some .blocks) (mem : .obj members ∈ items)
      (get : field.blocks[index]? = some block) (absent : members.get? block.uid = none)
      (given : Slot.HandleGiven (field.blocks.map fun other => other.uid) members
        ("v" ++ Digits.intText index)) :
      Field.ShadowedIn field (.arr items)
  /-- In a payload of a block item. -/
  | payload {field : Field} {items : List Json} {members payload : Members}
      {block : BlockDefinition} (kind : field.kind = some .blocks) (mem : .obj members ∈ items)
      (block_mem : block ∈ field.blocks) (inline : block.isReference = false)
      (given : members.get? block.uid = some (.obj payload))
      (shadowed : Field.Shadowed block.fields payload) :
      Field.ShadowedIn field (.arr items)

end

/-- In the value of a field of an entry a member is in the way. The entry itself keeps no member
that it does not declare. -/
def ContentType.Shadowed (contentType : ContentType) (entry : Json) : Prop :=
  ∃ field ∈ contentType.fields, ∃ value, entry.members.get? field.uid = some value ∧
    field.ShadowedIn value

namespace Field

variable {field : Field} {fields : List Field} {members : Members}

theorem not_shadowed_iff : ¬ Shadowed fields members ↔
    ∀ (i : Nat) (field : Field), fields[i]? = some field →
      (∀ value, members.get? field.uid = some value → ¬ field.ShadowedIn value) ∧
      (members.get? field.uid = none →
        Slot.HandleGiven (fields.map fun other => other.uid) members ("f" ++ Digits.intText i) →
        field.mandatory = true → field.takesNull = true) := by
  constructor
  · intro h i field hget
    refine ⟨fun value hvalue hshadowed => ?_, fun habsent hgiven hmandatory => ?_⟩
    · exact h (.inside (List.mem_of_getElem? hget) hvalue hshadowed)
    · cases hnull : field.takesNull with
      | true => rfl
      | false => exact absurd (.here hget habsent hgiven hmandatory hnull) h
  · rintro h (⟨hget, habsent, hgiven, hmandatory, hrefused⟩ | ⟨hmem, hgiven, hshadowed⟩)
    · rw [(h _ _ hget).2 habsent hgiven hmandatory] at hrefused
      cases hrefused
    · obtain ⟨i, hget⟩ := List.mem_iff_getElem?.1 hmem
      exact (h i _ hget).1 _ hgiven hshadowed

theorem not_shadowedIn_of_plain {value : Json} (hg : field.kind ≠ some .group)
    (hb : field.kind ≠ some .blocks) : ¬ field.ShadowedIn value := by
  rintro (hkind | hkind | hkind | hkind)
  · exact hg hkind
  · exact hg hkind
  · exact hb hkind
  · exact hb hkind

theorem shadowedIn_group_iff (hkind : field.kind = some .group) (hsingle : field.multiple = false) :
    field.ShadowedIn (.obj members) ↔ Shadowed field.fields members := by
  constructor
  · intro h
    cases h with
    | group _ _ hshadowed => exact hshadowed
  · exact .group hkind hsingle

theorem shadowedIn_instances_iff {items : List Json} (hkind : field.kind = some .group)
    (hmultiple : field.multiple = true) :
    field.ShadowedIn (.arr items) ↔
      ∃ members, .obj members ∈ items ∧ Shadowed field.fields members := by
  constructor
  · intro h
    cases h with
    | groupItem _ _ hmem hshadowed => exact ⟨_, hmem, hshadowed⟩
    | variant hblocks => simp [hkind] at hblocks
    | payload hblocks => simp [hkind] at hblocks
  · rintro ⟨members, hmem, hshadowed⟩
    exact .groupItem hkind hmultiple hmem hshadowed

theorem shadowedIn_blocks_iff {items : List Json} (hkind : field.kind = some .blocks) :
    field.ShadowedIn (.arr items) ↔ ∃ members, .obj members ∈ items ∧
      ∃ (i : Nat) (block : BlockDefinition), field.blocks[i]? = some block ∧
        ((members.get? block.uid = none ∧ Slot.HandleGiven
            (field.blocks.map fun other => other.uid) members ("v" ++ Digits.intText i)) ∨
          (block.isReference = false ∧ ∃ payload, members.get? block.uid = some (.obj payload) ∧
            Shadowed block.fields payload)) := by
  constructor
  · intro h
    cases h with
    | groupItem hgroup => simp [hkind] at hgroup
    | variant _ hmem hget habsent hgiven => exact ⟨_, hmem, _, _, hget, Or.inl ⟨habsent, hgiven⟩⟩
    | payload _ hmem hblock hinline hgiven hshadowed =>
      obtain ⟨i, hget⟩ := List.mem_iff_getElem?.1 hblock
      exact ⟨_, hmem, i, _, hget, Or.inr ⟨hinline, _, hgiven, hshadowed⟩⟩
  · rintro ⟨members, hmem, i, block, hget,
      ⟨habsent, hgiven⟩ | ⟨hinline, payload, hgiven, hshadowed⟩⟩
    · exact .variant hkind hmem hget habsent hgiven
    · exact .payload hkind hmem (List.mem_of_getElem? hget) hinline hgiven hshadowed

/-! ## When checks settle -/

theorem settles_slot_iff {index : Nat} {value : Json}
    (ih : (field.compiled mode draft).findings value = [] →
      ((field.compiled mode draft).Settles value ↔ ¬ field.ShadowedIn value))
    (h : (field.slotWith draft index (field.compiled mode draft)).checker.findings value = []) :
    (field.slotWith draft index (field.compiled mode draft)).checker.Settles value ↔
      ¬ field.ShadowedIn value := by
  rw [FieldInfo.checker_slotWith] at h ⊢
  split
  · next hmandatory =>
    rw [if_pos hmandatory] at h
    exact ih h
  · next hmandatory =>
    rw [if_neg hmandatory] at h
    by_cases hnull : value = .null
    · rw [hnull]
      exact ⟨fun _ => by rintro ⟨⟩, fun _ => Checker.settles_nullable_null _⟩
    · rw [Checker.settles_nullable_iff (keepsForm_compiled mode draft field) hnull]
      exact ih ((Checker.findings_nullable_eq_nil.1 h).resolve_left hnull)

theorem findings_slot_null_iff {index : Nat} :
    (field.slotWith draft index (field.compiled mode draft)).checker.findings .null = [] ↔
      (field.mandatory = true → field.takesNull = true) := by
  rw [FieldInfo.checker_slotWith]
  split
  · next hmandatory => simp [findings_compiled_null_iff, hmandatory]
  · next hmandatory => simp [Checker.nullable, hmandatory]

/-- The slots of fields that settle on the values of the fields, given the members that come after
them. -/
theorem settles_slots_iff {others : Members}
    (ih : ∀ field ∈ fields, ∀ value, (field.compiled mode draft).findings value = [] →
      ((field.compiled mode draft).Settles value ↔ ¬ field.ShadowedIn value))
    (h : ∀ slot ∈ compiledSlots mode draft 0 fields, slot.findings members = []) :
    (∀ slot ∈ compiledSlots mode draft 0 fields,
      (∀ key value, slot.read members = some (key, value) → slot.checker.Settles value) ∧
      (slot.read members = none → others.has slot.handle = true →
        slot.checker.findings .null = [])) ↔
    ∀ (i : Nat) (field : Field), fields[i]? = some field →
      (∀ value, members.get? field.uid = some value → ¬ field.ShadowedIn value) ∧
      (members.get? field.uid = none → others.has ("f" ++ Digits.intText i) = true →
        field.mandatory = true → field.takesNull = true) := by
  have hslot : ∀ (i : Nat) (field : Field), fields[i]? = some field →
      ∀ value, members.get? field.uid = some value →
      ((field.slotWith draft i (field.compiled mode draft)).checker.Settles value ↔
        ¬ field.ShadowedIn value) := by
    intro i field hget value hvalue
    refine settles_slot_iff (ih field (List.mem_of_getElem? hget) value) ?_
    have hfindings := h _ (mem_compiledSlots.2 ⟨i, field, hget, rfl⟩)
    exact (Slot.findings_eq_nil.1 hfindings).1 field.uid value (Slot.read_of_get? hvalue)
  constructor
  · intro hall i field hget
    obtain ⟨hgiven, habsent⟩ := hall _ (mem_compiledSlots.2 ⟨i, field, hget, rfl⟩)
    constructor
    · intro value hvalue
      exact (hslot i field hget value hvalue).1 (hgiven field.uid value (Slot.read_of_get? hvalue))
    · intro hnone hhas
      exact findings_slot_null_iff.1 (habsent (Slot.read_eq_none_iff.2 ⟨hnone, nofun⟩) hhas)
  · intro hall slot hs
    obtain ⟨i, field, hget, rfl⟩ := mem_compiledSlots.1 hs
    obtain ⟨hgiven, habsent⟩ := hall i field hget
    rw [Slot.read_of_otherKey rfl]
    constructor
    · intro key value hread
      obtain ⟨value, hvalue, heq⟩ := Option.map_eq_some_iff.1 hread
      cases heq
      exact (hslot i field hget value hvalue).2 (hgiven value hvalue)
    · intro hread hhas
      exact findings_slot_null_iff.2 (habsent (Option.map_eq_none_iff.1 hread) hhas)

theorem handle_ne_metadata (i : Nat) : "f" ++ Digits.intText i ≠ "_metadata" := by
  intro h
  have := congrArg String.toList h
  simp at this

/-- Among the members that a record keeps, those under the key of a field or of the metadata do not
occur. -/
theorem has_kept_iff (mode : Mode) (draft withMetadata : Bool) {shape : Shape} {key : String}
    (hopen : shape.isOpen = true) (hkey : key ≠ "_metadata") :
    (Slot.kept shape (recordSlots mode draft withMetadata fields) members).has key = true ↔
      Slot.HandleGiven (fields.map fun other => other.uid) members key := by
  rw [Slot.kept, if_pos hopen, Slot.has_undeclared_iff fun _ => otherKey_recordSlots,
    Slot.HandleGiven, recordSlots, List.map_append, keys_compiledSlots, List.mem_append]
  refine and_congr_right fun _ => not_congr ⟨fun h => h.resolve_right ?_, Or.inl⟩
  rw [List.mem_map]
  rintro ⟨slot, hslot, hslotKey⟩
  rw [(eq_metadataSlot hslot).1] at hslotKey
  exact hkey hslotKey.symm

theorem has_kept_handle_iff (mode : Mode) (draft withMetadata : Bool) {shape : Shape}
    (hopen : shape.isOpen = true) (i : Nat) :
    (Slot.kept shape (recordSlots mode draft withMetadata fields) members).has
        ("f" ++ Digits.intText i) = true ↔
      Slot.HandleGiven (fields.map fun other => other.uid) members ("f" ++ Digits.intText i) :=
  has_kept_iff mode draft withMetadata hopen (handle_ne_metadata i)

/-- The check of a record of fields settles when those of the fields do on their values, and where a
field that is not given comes out as null, it takes null. -/
theorem settles_recordSlots_iff {shape : Shape} (withMetadata : Bool)
    (hdistinct : DistinctUids fields)
    (ih : ∀ field ∈ fields, ∀ value, (field.compiled mode draft).findings value = [] →
      ((field.compiled mode draft).Settles value ↔ ¬ field.ShadowedIn value))
    (h : (Checker.record shape (recordSlots mode draft withMetadata fields)).findings
      (.obj members) = []) :
    (Checker.record shape (recordSlots mode draft withMetadata fields)).Settles (.obj members) ↔
      ∀ (i : Nat) (field : Field), fields[i]? = some field →
        (∀ value, members.get? field.uid = some value → ¬ field.ShadowedIn value) ∧
        (members.get? field.uid = none →
          (Slot.kept shape (recordSlots mode draft withMetadata fields) members).has
            ("f" ++ Digits.intText i) = true →
          field.mandatory = true → field.takesNull = true) := by
  obtain ⟨_, hobj, -, hslots⟩ := Checker.findings_record_eq_nil.1 h
  cases hobj
  have hmetadata : ∀ slot ∈ (if withMetadata then metadataSlots fields else []),
      (∀ key value, slot.read members = some (key, value) → slot.checker.Settles value) ∧
      (slot.read members = none → (Slot.kept shape (recordSlots mode draft withMetadata fields)
        members).has slot.handle = true → slot.checker.findings .null = []) := by
    intro slot hs
    have hfindings := hslots slot (List.mem_append_right _ hs)
    rw [(eq_metadataSlot hs).1] at hfindings ⊢
    refine ⟨fun key value hread => ?_, fun _ _ => rfl⟩
    exact Checker.Stable.nullable (.record _ _) ValueShape.itemMetadata_ofTexts.stable value
      ((Slot.findings_eq_nil.1 hfindings).1 key value hread)
  rw [Checker.settles_record_iff (separate_recordSlots withMetadata hdistinct)
    (fun slot hs => (keepsForm_recordSlots hs).value_null) h,
    ← settles_slots_iff ih fun slot hs => hslots slot (List.mem_append_left _ hs)]
  constructor
  · intro hall slot hs
    exact hall slot (List.mem_append_left _ hs)
  · intro hall slot hs
    exact (List.mem_append.1 hs).elim (hall slot) (hmetadata slot)

/-- The check of a record that keeps undeclared members settles when no member is in the way. -/
theorem settles_record_iff {shape : Shape} (withMetadata : Bool) (hopen : shape.isOpen = true)
    (hdistinct : DistinctUids fields)
    (ih : ∀ field ∈ fields, ∀ value, (field.compiled mode draft).findings value = [] →
      ((field.compiled mode draft).Settles value ↔ ¬ field.ShadowedIn value))
    (h : (Checker.record shape (recordSlots mode draft withMetadata fields)).findings
      (.obj members) = []) :
    (Checker.record shape (recordSlots mode draft withMetadata fields)).Settles (.obj members) ↔
      ¬ Shadowed fields members := by
  rw [settles_recordSlots_iff withMetadata hdistinct ih h, not_shadowed_iff]
  simp only [has_kept_handle_iff mode draft withMetadata hopen]

end Field

namespace BlockOf

variable {uid : String} {block : BlockDefinition} {blocks : List BlockDefinition}
  {members : Members}

/-- The check of a payload settles when the payload is not inline or no member of it is in the
way. -/
theorem settles_payload_iff {value : Json} (hdistinct : Field.DistinctUids block.fields)
    (ih : ∀ field ∈ block.fields, ∀ value, (field.compiled mode draft).findings value = [] →
      ((field.compiled mode draft).Settles value ↔ ¬ field.ShadowedIn value))
    (h : (block.compiledPayload mode draft uid).findings value = []) :
    (block.compiledPayload mode draft uid).Settles value ↔ ¬ (block.isReference = false ∧
      ∃ payload, value = .obj payload ∧ Field.Shadowed block.fields payload) := by
  obtain ⟨info, fields⟩ := block
  rw [compiledPayload] at h ⊢
  split
  · next hreference =>
    rw [if_pos hreference] at h
    exact ⟨fun _ hinline => by simp [hreference] at hinline,
      fun _ => ValueShape.reference_ofTexts.stable value h⟩
  · next hinline =>
    rw [if_neg hinline] at h
    obtain ⟨payload, rfl, -⟩ := Checker.findings_record_eq_nil.1 h
    refine (Field.settles_record_iff true (by rfl) hdistinct ih h).trans (not_congr ?_)
    simp [hinline]

theorem findings_payload_null (mode : Mode) (draft : Bool) (uid : String)
    (block : BlockDefinition) : (block.compiledPayload mode draft uid).findings .null ≠ [] := by
  obtain ⟨info, fields⟩ := block
  rw [compiledPayload]
  split
  · simp [ValueShape.reference, Checker.record]
  · simp [payloadChecker, Checker.record]

theorem has_kept_variant_iff (uid : String) (members : Members) (i : Nat) :
    (Slot.kept { name := recordName "Blocks" (some uid), isTagged := true }
      (compiledSlots mode draft uid 0 blocks) members).has ("v" ++ Digits.intText i) = true ↔
      Slot.HandleGiven (blocks.map fun other => other.uid) members ("v" ++ Digits.intText i) := by
  rw [Slot.kept, if_pos rfl, Slot.has_undeclared_iff fun _ => otherKey_compiledSlots,
    keys_compiledSlots, Slot.HandleGiven]

/-- The check of a block item settles when no member of the item is in the way. -/
theorem settles_item_iff (hnodup : (blocks.map fun block => block.uid).Nodup)
    (hdistinct : ∀ block ∈ blocks, Field.DistinctUids block.fields)
    (ih : ∀ block ∈ blocks, ∀ field ∈ block.fields, ∀ value,
      (field.compiled mode draft).findings value = [] →
      ((field.compiled mode draft).Settles value ↔ ¬ field.ShadowedIn value))
    (h : (blockItemChecker uid (compiledSlots mode draft uid 0 blocks)).findings
      (.obj members) = []) :
    (blockItemChecker uid (compiledSlots mode draft uid 0 blocks)).Settles (.obj members) ↔
      ∀ (i : Nat) (block : BlockDefinition), blocks[i]? = some block →
        ¬ ((members.get? block.uid = none ∧ Slot.HandleGiven
            (blocks.map fun other => other.uid) members ("v" ++ Digits.intText i)) ∨
          (block.isReference = false ∧ ∃ payload, members.get? block.uid = some (.obj payload) ∧
            Field.Shadowed block.fields payload)) := by
  obtain ⟨_, hobj, -, hslots⟩ := Checker.findings_record_eq_nil.1 h
  cases hobj
  have hnull : ∀ slot ∈ compiledSlots mode draft uid 0 blocks,
      slot.checker.value .null = .null := by
    intro slot hs
    obtain ⟨i, block, -, rfl⟩ := mem_compiledSlots.1 hs
    exact (keepsForm_payload mode draft uid block).value_null
  refine (Checker.settles_record_iff (separate_compiledSlots uid hnodup) hnull h).trans ?_
  have hpayload : ∀ (i : Nat) (block : BlockDefinition), blocks[i]? = some block →
      ∀ value, members.get? block.uid = some value →
      ((block.compiledPayload mode draft uid).Settles value ↔ ¬ (block.isReference = false ∧
        ∃ payload, value = .obj payload ∧ Field.Shadowed block.fields payload)) := by
    intro i block hget value hvalue
    have hmem := List.mem_of_getElem? hget
    have hfindings := hslots _ (mem_compiledSlots.2 ⟨i, block, hget, rfl⟩)
    exact settles_payload_iff (hdistinct block hmem) (ih block hmem)
      ((Slot.findings_eq_nil.1 hfindings).1 block.uid value (Slot.read_of_get? hvalue))
  constructor
  · intro hall i block hget hbad
    obtain ⟨hgiven, habsent⟩ := hall _ (mem_compiledSlots.2 ⟨i, block, hget, rfl⟩)
    rcases hbad with ⟨hnone, hhandle⟩ | ⟨hinline, payload, hvalue, hshadowed⟩
    · exact findings_payload_null mode draft uid block
        (habsent (Slot.read_eq_none_iff.2 ⟨hnone, nofun⟩)
          ((has_kept_variant_iff uid members i).2 hhandle))
    · exact (hpayload i block hget _ hvalue).1
        (hgiven block.uid _ (Slot.read_of_get? hvalue)) ⟨hinline, payload, rfl, hshadowed⟩
  · intro hall slot hs
    obtain ⟨i, block, hget, rfl⟩ := mem_compiledSlots.1 hs
    rw [Slot.read_of_otherKey rfl]
    constructor
    · intro key value hread
      obtain ⟨value, hvalue, heq⟩ := Option.map_eq_some_iff.1 hread
      cases heq
      refine (hpayload i block hget value hvalue).2 ?_
      rintro ⟨hinline, payload, rfl, hshadowed⟩
      exact hall i block hget (Or.inr ⟨hinline, payload, hvalue, hshadowed⟩)
    · intro hread hhas
      refine absurd (Or.inl ⟨Option.map_eq_none_iff.1 hread, ?_⟩) (hall i block hget)
      exact (has_kept_variant_iff uid members i).1 hhas

end BlockOf

namespace Field

theorem settles_group_iff {field : Field} {value : Json} (hkind : field.kind = some .group)
    (hdistinct : DistinctUids field.fields)
    (ih : ∀ child ∈ field.fields, ∀ value, (child.compiled mode draft).findings value = [] →
      ((child.compiled mode draft).Settles value ↔ ¬ child.ShadowedIn value))
    (h : (field.compiled mode draft).findings value = []) :
    (field.compiled mode draft).Settles value ↔ ¬ field.ShadowedIn value := by
  cases hmultiple : field.multiple with
  | false =>
    rw [compiled_single hkind hmultiple] at h ⊢
    obtain ⟨members, rfl, -⟩ := Checker.findings_record_eq_nil.1 h
    rw [shadowedIn_group_iff hkind hmultiple]
    exact settles_record_iff false rfl hdistinct ih h
  | true =>
    rw [compiled_instances hkind hmultiple] at h ⊢
    obtain ⟨items, rfl, hlimit, hitems⟩ := Checker.findings_list_eq_nil.1 h
    rw [Checker.settles_list_iff hlimit, shadowedIn_instances_iff hkind hmultiple]
    constructor
    · rintro hall ⟨members, hmem, hshadowed⟩
      exact (settles_record_iff true rfl hdistinct ih (hitems _ hmem)).1 (hall _ hmem) hshadowed
    · intro hnone item hitem
      obtain ⟨members, rfl, -⟩ := Checker.findings_record_eq_nil.1 (hitems item hitem)
      exact (settles_record_iff true rfl hdistinct ih (hitems _ hitem)).2
        fun hshadowed => hnone ⟨members, hitem, hshadowed⟩

theorem settles_blocks_iff {field : Field} {value : Json} (hkind : field.kind = some .blocks)
    (hnodup : (field.blocks.map fun block => block.uid).Nodup)
    (hdistinct : ∀ block ∈ field.blocks, DistinctUids block.fields)
    (ih : ∀ block ∈ field.blocks, ∀ child ∈ block.fields, ∀ value,
      (child.compiled mode draft).findings value = [] →
      ((child.compiled mode draft).Settles value ↔ ¬ child.ShadowedIn value))
    (h : (field.compiled mode draft).findings value = []) :
    (field.compiled mode draft).Settles value ↔ ¬ field.ShadowedIn value := by
  rw [compiled_blocks hkind] at h ⊢
  split
  · next hempty =>
    rw [if_pos hempty] at h
    obtain ⟨items, rfl, -⟩ := Checker.findings_list_eq_nil.1 h
    refine ⟨fun _ => ?_, fun _ => Checker.Stable.list none (.leaf _) _ h⟩
    rw [shadowedIn_blocks_iff hkind, List.isEmpty_iff.1 hempty]
    simp
  · next hblocks =>
    rw [if_neg hblocks] at h
    obtain ⟨items, rfl, hlimit, hitems⟩ := Checker.findings_list_eq_nil.1 h
    rw [Checker.settles_list_iff hlimit, shadowedIn_blocks_iff hkind]
    constructor
    · rintro hall ⟨members, hmem, i, block, hget, hbad⟩
      exact (BlockOf.settles_item_iff hnodup hdistinct ih (hitems _ hmem)).1 (hall _ hmem)
        i block hget hbad
    · intro hnone item hitem
      obtain ⟨members, rfl, -⟩ := Checker.findings_record_eq_nil.1 (hitems item hitem)
      exact (BlockOf.settles_item_iff hnodup hdistinct ih (hitems _ hitem)).2
        fun i block hget hbad => hnone ⟨members, hitem, i, block, hget, hbad⟩

/-- The check of a field settles on an accepted value when no member in the value is in the way. -/
theorem settles_compiled_iff {field : Field} {value : Json} (hdistinct : field.Distinct)
    (h : (field.compiled mode draft).findings value = []) :
    (field.compiled mode draft).Settles value ↔ ¬ field.ShadowedIn value := by
  induction field using Field.induct generalizing value with
  | node info fields blocks ihFields ihBlocks =>
    obtain ⟨hfields, hblocks, hblockFields, hbelow, hbelowBlocks⟩ := hdistinct
    by_cases hg : info.kind = some .group
    · exact settles_group_iff hg hfields
        (fun child hchild value => ihFields child hchild (hbelow child hchild)) h
    · by_cases hb : info.kind = some .blocks
      · exact settles_blocks_iff hb hblocks hblockFields
          (fun block hblock child hchild value =>
            ihBlocks block hblock child hchild (hbelowBlocks block hblock child hchild)) h
      · exact ⟨fun _ => not_shadowedIn_of_plain hg hb, fun _ => stable_of_plain hg hb value h⟩

end Field

/-- The check of the entries of a content type settles on an accepted entry when no member in the
values of its fields is in the way. -/
theorem ContentType.settles_compiled_iff {contentType : ContentType} {entry : Json}
    (hdistinct : contentType.Distinct)
    (h : (contentType.compiled mode draft).findings entry = []) :
    (contentType.compiled mode draft).Settles entry ↔ ¬ contentType.Shadowed entry := by
  rw [compiled_eq] at h ⊢
  obtain ⟨members, rfl, -⟩ := Checker.findings_record_eq_nil.1 h
  rw [Field.settles_recordSlots_iff false hdistinct.1 (fun field hfield value =>
    Field.settles_compiled_iff (hdistinct.2 field hfield)) h]
  constructor
  · rintro hall ⟨field, hfield, value, hvalue, hshadowed⟩
    obtain ⟨i, hget⟩ := List.mem_iff_getElem?.1 hfield
    exact (hall i field hget).1 value hvalue hshadowed
  · intro hnone i field hget
    refine ⟨fun value hvalue hshadowed => ?_, fun _ hhas => ?_⟩
    · exact hnone ⟨field, List.mem_of_getElem? hget, value, hvalue, hshadowed⟩
    · cases hhas

namespace Validator

/-- **Checking the value again.** Where no two siblings of a content type have the same uid, the
value that comes out of an accepted entry is accepted again, with itself as its value, just when
no member in the values of the fields of the entry is in the way. -/
theorem check_value_iff {contentType : ContentType} {validator : Validator} {entry value : Json}
    (hdistinct : contentType.Distinct)
    (h : (build contentType mode draft).result = .ok validator)
    (haccepted : validator.check entry = .accepted value) :
    validator.check value = .accepted value ↔ ¬ contentType.Shadowed entry := by
  obtain rfl := eq_compiled h
  obtain ⟨hfindings, rfl⟩ := check_eq_accepted.1 haccepted
  rw [check_eq_accepted]
  exact ContentType.settles_compiled_iff hdistinct hfindings

/-- A block item of the second variant with a member spelled like the handle of the first: its value
is refused, since the first variant comes out of the item as null. -/
theorem check_value_variant :
    let sections : Field := ⟨{ uid := "sections", dataType := some "blocks" }, [],
      [⟨{ uid := "hero" }, []⟩, ⟨{ uid := "quote" }, []⟩]⟩
    let contentType : ContentType := { fields := [sections] }
    let item : Members := [("quote", .obj []), ("v0", .int 1)]
    ∃ validator, (build contentType .read false).result = .ok validator ∧ ∃ value,
      validator.check (.obj [("sections", .arr [.obj item])]) = .accepted value ∧
      validator.check value ≠ .accepted value := by
  intro sections contentType item
  have h : (build contentType .read false).result = .ok (compiled contentType .read false) := rfl
  have hdistinct : contentType.Distinct := by
    refine ⟨by simp [Field.DistinctUids, contentType], fun field hfield => ?_⟩
    rw [List.mem_singleton.1 hfield]
    exact .intro (by simp [Field.DistinctUids, sections]) (by simp [sections])
      (by simp [Field.DistinctUids, sections]) (by simp [sections]) (by simp [sections])
  have haccepted : (compiled contentType .read false).check
      (.obj [("sections", .arr [.obj item])]) = .accepted (.obj [("sections",
        .arr [.obj [("hero", .null), ("quote", .obj []), ("v0", .int 1)]])]) := by decide
  refine ⟨_, h, _, haccepted, fun hagain => ?_⟩
  refine (check_value_iff hdistinct h haccepted).1 hagain
    ⟨sections, by simp [contentType], _, rfl, ?_⟩
  exact .variant rfl (List.mem_singleton_self _) (show sections.blocks[0]? = some _ from rfl) rfl
    ⟨by decide, by decide⟩

end Validator

end ContentModel
