import ContentModel.Proofs.Validation.Plain
import ContentModel.Proofs.Validation.Preserved
import ContentModel.Proofs.Validation.Revalidation

/-!
# Values of accepted entries

The value that comes out of an accepted entry is the entry without the members that its content type
does not declare, up to the order of members, unless something in the values of its fields is
altered.

* `FieldInfo.Alters` says when a value of a plain field is: a reference whose content type is given
  under the second key, a term with other members than those that name it;
* `Field.Altered`, `Field.AlteredIn` and `ContentType.Altered` carry this through records, where
  a member spelled like a handle brings in a null besides;
* `Field.preserves_compiled_iff` says that this is all that the check of a field alters;
* `Validator.check_value_reordered_iff` says the same of the validators of a content type.
-/

namespace ContentModel

open Json

variable {mode : Mode} {draft : Bool}

/-! ## What is altered -/

namespace FieldInfo

/-- A single value of a plain field comes out altered. -/
def AltersOne (info : FieldInfo) (value : Json) : Prop :=
  match info.kind with
  | some .reference => RenamedReference value
  | some .globalField => RenamedReference value
  | some .taxonomy => ∃ items, value = .arr items ∧ ∃ term ∈ items, CutTerm term
  | _ => False

/-- The value of a plain field, or an item of it if it is a list, comes out altered. -/
def Alters (info : FieldInfo) (value : Json) : Prop :=
  if info.isListed then ∃ items, value = .arr items ∧ ∃ item ∈ items, info.AltersOne item
  else info.AltersOne value

end FieldInfo

/-- A member brings in the metadata of an instance or block, which are not given and have no field
of their own. -/
def MetadataInvented (fields : List Field) (members : Members) : Prop :=
  (∀ field ∈ fields, field.uid ≠ "_metadata") ∧ members.get? "_metadata" = none ∧
    Slot.HandleGiven (fields.map fun field => field.uid) members "item_metadata"

mutual

/-- A record with the given fields comes out altered. -/
inductive Field.Altered : List Field → Members → Prop
  /-- A member is spelled like the handle of a field that is not given. -/
  | invented {fields : List Field} {members : Members} {field : Field} {index : Nat}
      (get : fields[index]? = some field) (absent : members.get? field.uid = none)
      (given : Slot.HandleGiven (fields.map fun other => other.uid) members
        ("f" ++ Digits.intText index)) : Field.Altered fields members
  /-- The value of a field comes out altered. -/
  | inside {fields : List Field} {members : Members} {field : Field} {value : Json}
      (mem : field ∈ fields) (given : members.get? field.uid = some value)
      (altered : Field.AlteredIn field value) : Field.Altered fields members

/-- An instance or an inline payload, a record with metadata, comes out altered. -/
inductive Field.InstanceAltered : List Field → Members → Prop
  | record {fields : List Field} {members : Members} (altered : Field.Altered fields members) :
      Field.InstanceAltered fields members
  | metadata {fields : List Field} {members : Members}
      (invented : MetadataInvented fields members) : Field.InstanceAltered fields members

/-- The payload of a block comes out altered. -/
inductive BlockOf.AlteredIn : BlockOf Field → Json → Prop
  | reference {block : BlockOf Field} {payload : Json} (reference : block.isReference = true)
      (renamed : RenamedReference payload) : BlockOf.AlteredIn block payload
  | inline {block : BlockOf Field} {payload : Members} (inline : block.isReference = false)
      (altered : Field.InstanceAltered block.fields payload) :
      BlockOf.AlteredIn block (.obj payload)

/-- The value of a field comes out altered. -/
inductive Field.AlteredIn : Field → Json → Prop
  | plain {field : Field} {value : Json} (notGroup : field.kind ≠ some .group)
      (notBlocks : field.kind ≠ some .blocks) (altered : field.Alters value) :
      Field.AlteredIn field value
  | group {field : Field} {members : Members} (kind : field.kind = some .group)
      (single : field.multiple = false) (altered : Field.Altered field.fields members) :
      Field.AlteredIn field (.obj members)
  | groupItem {field : Field} {items : List Json} {members : Members}
      (kind : field.kind = some .group) (multiple : field.multiple = true)
      (mem : .obj members ∈ items) (altered : Field.InstanceAltered field.fields members) :
      Field.AlteredIn field (.arr items)
  /-- A member of a block item is spelled like the handle of a variant that is not given. -/
  | variant {field : Field} {items : List Json} {members : Members} {block : BlockOf Field}
      {index : Nat} (kind : field.kind = some .blocks) (mem : .obj members ∈ items)
      (get : field.blocks[index]? = some block) (absent : members.get? block.uid = none)
      (given : Slot.HandleGiven (field.blocks.map fun other => other.uid) members
        ("v" ++ Digits.intText index)) : Field.AlteredIn field (.arr items)
  | payload {field : Field} {items : List Json} {members : Members} {block : BlockOf Field}
      {payload : Json} (kind : field.kind = some .blocks) (mem : .obj members ∈ items)
      (block_mem : block ∈ field.blocks) (given : members.get? block.uid = some payload)
      (altered : BlockOf.AlteredIn block payload) : Field.AlteredIn field (.arr items)

end

/-- The value of a field of an entry comes out altered. -/
def ContentType.Altered (contentType : ContentType) (entry : Json) : Prop :=
  ∃ field ∈ contentType.fields, ∃ value, entry.get? field.uid = some value ∧ field.AlteredIn value

/-- The members that a content type declares. -/
def ContentType.declared (contentType : ContentType) (members : Members) : Members :=
  members.filter fun pair => contentType.fields.any fun field => field.uid == pair.1

/-- An entry without the members that its content type does not declare. -/
def ContentType.restricted (contentType : ContentType) (entry : Json) : Json :=
  match entry with
  | .obj members => .obj (contentType.declared members)
  | value => value

/-! ## One level at a time -/

namespace Field

variable {field : Field} {fields : List Field} {members : Members}

theorem not_altered_iff : ¬ Altered fields members ↔
    (∀ field ∈ fields, ∀ value, members.get? field.uid = some value → ¬ field.AlteredIn value) ∧
    ∀ (i : Nat) (field : Field), fields[i]? = some field → members.get? field.uid = none →
      ¬ Slot.HandleGiven (fields.map fun other => other.uid) members
        ("f" ++ Digits.intText i) := by
  constructor
  · intro h
    refine ⟨fun field hfield value hvalue haltered => ?_, fun i field hget habsent hgiven => ?_⟩
    · exact h (.inside hfield hvalue haltered)
    · exact h (.invented hget habsent hgiven)
  · rintro ⟨hinside, hinvented⟩ (⟨hget, habsent, hgiven⟩ | ⟨hmem, hgiven, haltered⟩)
    · exact hinvented _ _ hget habsent hgiven
    · exact hinside _ hmem _ hgiven haltered

theorem instanceAltered_iff : InstanceAltered fields members ↔
    Altered fields members ∨ MetadataInvented fields members := by
  constructor
  · rintro (haltered | hinvented)
    · exact Or.inl haltered
    · exact Or.inr hinvented
  · rintro (haltered | hinvented)
    · exact .record haltered
    · exact .metadata hinvented

theorem alteredIn_plain_iff {value : Json} (hg : field.kind ≠ some .group)
    (hb : field.kind ≠ some .blocks) : field.AlteredIn value ↔ field.Alters value := by
  constructor
  · rintro (⟨-, -, haltered⟩ | hkind | hkind | hkind | hkind)
    · exact haltered
    · exact absurd hkind hg
    · exact absurd hkind hg
    · exact absurd hkind hb
    · exact absurd hkind hb
  · exact .plain hg hb

theorem alteredIn_group_iff {value : Json} (hkind : field.kind = some .group)
    (hsingle : field.multiple = false) : field.AlteredIn value ↔
      ∃ members, value = .obj members ∧ Altered field.fields members := by
  constructor
  · intro h
    cases h with
    | plain hg => exact absurd hkind hg
    | group _ _ haltered => exact ⟨_, rfl, haltered⟩
    | groupItem _ hmultiple => simp [hsingle] at hmultiple
    | variant hb => simp [hkind] at hb
    | payload hb => simp [hkind] at hb
  · rintro ⟨members, rfl, haltered⟩
    exact .group hkind hsingle haltered

theorem alteredIn_instances_iff {items : List Json} (hkind : field.kind = some .group)
    (hmultiple : field.multiple = true) : field.AlteredIn (.arr items) ↔
      ∃ members, .obj members ∈ items ∧ InstanceAltered field.fields members := by
  constructor
  · intro h
    cases h with
    | plain hg => exact absurd hkind hg
    | groupItem _ _ hmem haltered => exact ⟨_, hmem, haltered⟩
    | variant hb => simp [hkind] at hb
    | payload hb => simp [hkind] at hb
  · rintro ⟨members, hmem, haltered⟩
    exact .groupItem hkind hmultiple hmem haltered

theorem alteredIn_blocks_iff {items : List Json} (hkind : field.kind = some .blocks) :
    field.AlteredIn (.arr items) ↔ ∃ members, .obj members ∈ items ∧
      ∃ (i : Nat) (block : BlockDefinition), field.blocks[i]? = some block ∧
        ((members.get? block.uid = none ∧ Slot.HandleGiven
            (field.blocks.map fun other => other.uid) members ("v" ++ Digits.intText i)) ∨
          ∃ payload, members.get? block.uid = some payload ∧ block.AlteredIn payload) := by
  constructor
  · intro h
    cases h with
    | plain _ hb => exact absurd hkind hb
    | groupItem hg => simp [hkind] at hg
    | variant _ hmem hget habsent hgiven => exact ⟨_, hmem, _, _, hget, Or.inl ⟨habsent, hgiven⟩⟩
    | payload _ hmem hblock hgiven haltered =>
      obtain ⟨i, hget⟩ := List.mem_iff_getElem?.1 hblock
      exact ⟨_, hmem, i, _, hget, Or.inr ⟨_, hgiven, haltered⟩⟩
  · rintro ⟨members, hmem, i, block, hget,
      ⟨habsent, hgiven⟩ | ⟨payload, hgiven, haltered⟩⟩
    · exact .variant hkind hmem hget habsent hgiven
    · exact .payload hkind hmem (List.mem_of_getElem? hget) hgiven haltered

/-- The value of a field with a list of values is altered only if it is a list. -/
theorem not_alteredIn_of_ne_arr {value : Json}
    (hkind : (field.kind = some .group ∧ field.multiple = true) ∨ field.kind = some .blocks)
    (h : ∀ items, value ≠ .arr items) : ¬ field.AlteredIn value := by
  rintro (⟨hg, hb, -⟩ | ⟨hg, hsingle, -⟩ | _ | _ | _)
  · exact hkind.elim (fun hgroup => hg hgroup.1) hb
  · rcases hkind with ⟨-, hmultiple⟩ | hblocks
    · simp [hsingle] at hmultiple
    · simp [hg] at hblocks
  · exact h _ rfl
  · exact h _ rfl
  · exact h _ rfl

end Field

/-! ## When checks preserve values -/

/-- The check of a single value of a plain field preserves the values that are not altered. -/
theorem FieldInfo.preserves_compiledPlain_iff {info : FieldInfo} {value : Json} :
    (info.compiledPlain mode).Preserves value ↔ ¬ info.AltersOne value := by
  unfold AltersOne
  cases hkind : info.kind with
  | none =>
    rw [compiledPlain_of_done (by rw [plainChecker, hkind])]
    exact iff_of_true (.refl value) id
  | some kind =>
    cases kind with
    | text =>
      refine iff_of_true ?_ id
      rcases compiledPlain_text mode hkind with ⟨-, -, h⟩ | ⟨-, problem?, h⟩
      · rw [h]
        exact .refl value
      · rw [h]
        exact .refl value
    | isodate =>
      obtain ⟨problem?, h⟩ := compiledPlain_isodate mode hkind
      rw [h]
      exact iff_of_true (.refl value) id
    | file =>
      rw [compiledPlain_of_done (by rw [plainChecker, hkind])]
      cases mode with
      | read => exact iff_of_true (ValueShape.preserves_asset value) id
      | upsert => exact iff_of_true (.refl value) id
    | link =>
      rw [compiledPlain_of_done (by rw [plainChecker, hkind])]
      exact iff_of_true (ValueShape.preserves_link value) id
    | reference =>
      rw [compiledPlain_of_done (by rw [plainChecker, hkind])]
      exact ValueShape.preserves_reference_iff
    | globalField =>
      rw [compiledPlain_of_done (by rw [plainChecker, hkind])]
      exact ValueShape.preserves_reference_iff
    | taxonomy =>
      rw [compiledPlain_of_done (by rw [plainChecker, hkind])]
      exact Checker.preserves_list_iff_not fun _ => ValueShape.preserves_taxonomyTerm_iff
    | json =>
      rw [compiledPlain_of_done (by rw [plainChecker, hkind])]
      refine iff_of_true ?_ id
      split
      · exact RichTextShape.preserves_document value
      · exact .refl value
    | _ =>
      rw [compiledPlain_of_done (by rw [plainChecker, hkind])]
      exact iff_of_true (.refl value) id

namespace Field

variable {field : Field} {fields : List Field} {members : Members} {shape : Shape}

theorem preserves_slotWith_iff {index : Nat} {value : Json}
    (ih : (field.compiled mode draft).Preserves value ↔ ¬ field.AlteredIn value) :
    (field.slotWith draft index (field.compiled mode draft)).checker.Preserves value ↔
      ¬ field.AlteredIn value := by
  rw [FieldInfo.checker_slotWith]
  split
  · exact ih
  · rw [Checker.preserves_nullable_iff (keepsForm_compiled mode draft field).value_null]
    exact ih

/-- The slots of fields are given under their own keys, and preserve the values of the fields that
are not altered. -/
theorem preserves_slots_iff
    (ih : ∀ field ∈ fields, ∀ value,
      ((field.compiled mode draft).Preserves value ↔ ¬ field.AlteredIn value)) :
    (∀ slot ∈ compiledSlots mode draft 0 fields, ∀ key value,
      slot.read members = some (key, value) → key = slot.key ∧ slot.checker.Preserves value) ↔
    ∀ field ∈ fields, ∀ value, members.get? field.uid = some value →
      ¬ field.AlteredIn value := by
  constructor
  · intro hall field hfield value hvalue
    obtain ⟨i, hget⟩ := List.mem_iff_getElem?.1 hfield
    have hslot := hall _ (mem_compiledSlots.2 ⟨i, field, hget, rfl⟩) field.uid value
      (Slot.read_of_get? hvalue)
    exact (preserves_slotWith_iff (ih field hfield value)).1 hslot.2
  · intro hall slot hs key value hread
    obtain ⟨i, field, hget, rfl⟩ := mem_compiledSlots.1 hs
    have hfield := List.mem_of_getElem? hget
    obtain ⟨hkey, hvalue⟩ := (Slot.read_eq_some_iff rfl).1 hread
    refine ⟨hkey, (preserves_slotWith_iff (ih field hfield value)).2 ?_⟩
    exact hall field hfield value hvalue

/-- The slots of fields come out of a record that they are not in when a member brings them in. -/
theorem absent_compiledSlots_iff (mode : Mode) (draft withMetadata : Bool)
    (hopen : shape.isOpen = true) :
    (∀ slot ∈ compiledSlots mode draft 0 fields, slot.read members = none →
      (Slot.kept shape (recordSlots mode draft withMetadata fields) members).has slot.handle =
        false) ↔
      ∀ (i : Nat) (field : Field), fields[i]? = some field → members.get? field.uid = none →
        ¬ Slot.HandleGiven (fields.map fun other => other.uid) members
          ("f" ++ Digits.intText i) := by
  constructor
  · intro hall i field hget hnone hgiven
    have hfalse := hall _ (mem_compiledSlots.2 ⟨i, field, hget, rfl⟩)
      (Slot.read_eq_none_iff.2 ⟨hnone, nofun⟩)
    exact Bool.eq_false_iff.1 hfalse
      ((has_kept_handle_iff mode draft withMetadata hopen i).2 hgiven)
  · intro hall slot hs hnone
    obtain ⟨i, field, hget, rfl⟩ := mem_compiledSlots.1 hs
    rw [Bool.eq_false_iff]
    intro hhas
    exact hall i field hget (Slot.read_eq_none_iff.1 hnone).1
      ((has_kept_handle_iff mode draft withMetadata hopen i).1 hhas)

/-- The slot for the metadata comes out of a record that it is not in when a member brings it in. -/
theorem absent_metadata_iff (mode : Mode) (draft withMetadata : Bool)
    (hopen : shape.isOpen = true) :
    (∀ slot ∈ (if withMetadata then metadataSlots fields else []), slot.read members = none →
      (Slot.kept shape (recordSlots mode draft withMetadata fields) members).has slot.handle =
        false) ↔ (withMetadata = true → ¬ MetadataInvented fields members) := by
  have hhandle : (Slot.kept shape (recordSlots mode draft withMetadata fields) members).has
        metadataSlot.handle = true ↔
      Slot.HandleGiven (fields.map fun other => other.uid) members "item_metadata" :=
    has_kept_iff mode draft withMetadata hopen (by decide)
  have hread : metadataSlot.read members = none ↔ members.get? "_metadata" = none := by
    rw [Slot.read_of_otherKey rfl, Option.map_eq_none_iff]
    rfl
  cases withMetadata with
  | false => simp
  | true =>
    simp only [if_true, true_implies]
    constructor
    · rintro hall ⟨hnone, habsent, hgiven⟩
      have hfalse := hall metadataSlot (mem_metadataSlots_iff.2 ⟨rfl, hnone⟩) (hread.2 habsent)
      rw [hhandle.2 hgiven] at hfalse
      cases hfalse
    · intro hnot slot hs habsent
      obtain ⟨rfl, hnone⟩ := mem_metadataSlots_iff.1 hs
      rw [Bool.eq_false_iff, Ne, hhandle]
      exact fun hgiven => hnot ⟨hnone, hread.1 habsent, hgiven⟩

/-- A record of fields that keeps undeclared members preserves the objects that are not altered. -/
theorem preserves_recordSlots_iff (withMetadata : Bool) (hopen : shape.isOpen = true)
    (hdistinct : DistinctUids fields)
    (ih : ∀ field ∈ fields, ∀ value,
      ((field.compiled mode draft).Preserves value ↔ ¬ field.AlteredIn value)) :
    (Checker.record shape (recordSlots mode draft withMetadata fields)).Preserves (.obj members) ↔
      ¬ Altered fields members ∧ (withMetadata = true → ¬ MetadataInvented fields members) := by
  have hmetadata : ∀ slot ∈ (if withMetadata then metadataSlots fields else []), ∀ key value,
      slot.read members = some (key, value) → key = slot.key ∧ slot.checker.Preserves value := by
    intro slot hs key value hread
    obtain ⟨rfl, -⟩ := eq_metadataSlot hs
    refine ⟨((Slot.read_eq_some_iff rfl).1 hread).1, ?_⟩
    exact (Checker.preserves_nullable_iff rfl).2 (ValueShape.preserves_itemMetadata value)
  rw [Checker.preserves_record_iff (separate_recordSlots withMetadata hdistinct), not_altered_iff,
    ← preserves_slots_iff ih, ← absent_compiledSlots_iff mode draft withMetadata hopen,
    ← absent_metadata_iff mode draft withMetadata hopen]
  conv => lhs; rw [recordSlots, List.forall_mem_append, List.forall_mem_append]
  constructor
  · rintro ⟨⟨hread, -⟩, ⟨hnone, hnoneMetadata⟩, -⟩
    exact ⟨⟨hread, hnone⟩, hnoneMetadata⟩
  · rintro ⟨⟨hread, hnone⟩, hnoneMetadata⟩
    exact ⟨⟨hread, hmetadata⟩, ⟨hnone, hnoneMetadata⟩, fun hclosed => by simp [hopen] at hclosed⟩

/-- A record with metadata preserves the objects that are not altered. -/
theorem preserves_instance_iff (hopen : shape.isOpen = true) (hdistinct : DistinctUids fields)
    (ih : ∀ field ∈ fields, ∀ value,
      ((field.compiled mode draft).Preserves value ↔ ¬ field.AlteredIn value)) :
    (Checker.record shape (recordSlots mode draft true fields)).Preserves (.obj members) ↔
      ¬ InstanceAltered fields members := by
  rw [preserves_recordSlots_iff true hopen hdistinct ih, instanceAltered_iff, not_or]
  simp

end Field

namespace BlockOf

variable {uid : String} {block : BlockDefinition} {blocks : List BlockDefinition}
  {members : Members}

theorem preserves_payload_iff {value : Json} (hdistinct : Field.DistinctUids block.fields)
    (ih : ∀ field ∈ block.fields, ∀ value,
      ((field.compiled mode draft).Preserves value ↔ ¬ field.AlteredIn value)) :
    (block.compiledPayload mode draft uid).Preserves value ↔ ¬ block.AlteredIn value := by
  obtain ⟨info, fields⟩ := block
  rw [compiledPayload]
  by_cases href : info.isReference = true
  · rw [if_pos href, ValueShape.preserves_reference_iff]
    refine not_congr ⟨.reference href, fun h => ?_⟩
    cases h with
    | reference _ hrenamed => exact hrenamed
    | inline hinline => exact absurd href (Bool.eq_false_iff.1 hinline)
  · rw [if_neg href]
    by_cases hobj : ∃ payload, value = .obj payload
    · obtain ⟨payload, rfl⟩ := hobj
      refine (Field.preserves_instance_iff rfl hdistinct ih).trans (not_congr ?_)
      refine ⟨.inline (Bool.eq_false_iff.2 href), fun h => ?_⟩
      cases h with
      | reference hreference => exact absurd hreference href
      | inline _ haltered => exact haltered
    · refine iff_of_true (Checker.preserves_record_of_ne fun payload heq => hobj ⟨payload, heq⟩) ?_
      intro h
      cases h with
      | reference hreference => exact href hreference
      | inline => exact hobj ⟨_, rfl⟩

/-- The check of a block item preserves the items that no member brings a variant into and whose
payloads are not altered. -/
theorem preserves_item_iff (hnodup : (blocks.map fun block => block.uid).Nodup)
    (hdistinct : ∀ block ∈ blocks, Field.DistinctUids block.fields)
    (ih : ∀ block ∈ blocks, ∀ field ∈ block.fields, ∀ value,
      ((field.compiled mode draft).Preserves value ↔ ¬ field.AlteredIn value)) :
    (blockItemChecker uid (compiledSlots mode draft uid 0 blocks)).Preserves (.obj members) ↔
      ∀ (i : Nat) (block : BlockDefinition), blocks[i]? = some block →
        ¬ ((members.get? block.uid = none ∧ Slot.HandleGiven
            (blocks.map fun other => other.uid) members ("v" ++ Digits.intText i)) ∨
          ∃ payload, members.get? block.uid = some payload ∧ block.AlteredIn payload) := by
  refine (Checker.preserves_record_iff (separate_compiledSlots uid hnodup)).trans ?_
  constructor
  · rintro ⟨hread, habsent, -⟩ i block hget hbad
    have hmem := List.mem_of_getElem? hget
    have hslot : variantSlot block.uid i (block.compiledPayload mode draft uid) ∈
        compiledSlots mode draft uid 0 blocks := mem_compiledSlots.2 ⟨i, block, hget, rfl⟩
    rcases hbad with ⟨hnone, hgiven⟩ | ⟨payload, hvalue, haltered⟩
    · have hfalse := habsent _ hslot (Slot.read_eq_none_iff.2 ⟨hnone, nofun⟩)
      exact Bool.eq_false_iff.1 hfalse ((has_kept_variant_iff uid members i).2 hgiven)
    · have hpreserves := (hread _ hslot block.uid payload (Slot.read_of_get? hvalue)).2
      exact (preserves_payload_iff (hdistinct block hmem) (ih block hmem)).1 hpreserves haltered
  · intro hall
    refine ⟨fun slot hs key payload hread => ?_, fun slot hs hnone => ?_, nofun⟩
    · obtain ⟨i, block, hget, rfl⟩ := mem_compiledSlots.1 hs
      have hmem := List.mem_of_getElem? hget
      obtain ⟨hkey, hvalue⟩ := (Slot.read_eq_some_iff rfl).1 hread
      refine ⟨hkey, (preserves_payload_iff (hdistinct block hmem) (ih block hmem)).2 ?_⟩
      exact fun haltered => hall i block hget (Or.inr ⟨payload, hvalue, haltered⟩)
    · obtain ⟨i, block, hget, rfl⟩ := mem_compiledSlots.1 hs
      rw [Bool.eq_false_iff]
      intro hhas
      refine hall i block hget (Or.inl ⟨(Slot.read_eq_none_iff.1 hnone).1, ?_⟩)
      exact (has_kept_variant_iff uid members i).1 hhas

end BlockOf

namespace Field

variable {field : Field} {value : Json}

theorem preserves_group_iff (hkind : field.kind = some .group)
    (hdistinct : DistinctUids field.fields)
    (ih : ∀ child ∈ field.fields, ∀ value,
      ((child.compiled mode draft).Preserves value ↔ ¬ child.AlteredIn value)) :
    (field.compiled mode draft).Preserves value ↔ ¬ field.AlteredIn value := by
  cases hmultiple : field.multiple with
  | false =>
    rw [compiled_single hkind hmultiple, alteredIn_group_iff hkind hmultiple]
    by_cases hobj : ∃ members, value = .obj members
    · obtain ⟨members, rfl⟩ := hobj
      rw [preserves_recordSlots_iff false rfl hdistinct ih]
      simp
    · refine iff_of_true (Checker.preserves_record_of_ne fun members heq => hobj ⟨members, heq⟩) ?_
      rintro ⟨members, heq, -⟩
      exact hobj ⟨members, heq⟩
  | true =>
    rw [compiled_instances hkind hmultiple]
    by_cases hlist : ∃ items, value = .arr items
    · obtain ⟨items, rfl⟩ := hlist
      rw [Checker.preserves_list_iff, alteredIn_instances_iff hkind hmultiple]
      constructor
      · rintro hall ⟨members, hmem, haltered⟩
        exact (preserves_instance_iff rfl hdistinct ih).1 (hall _ hmem) haltered
      · intro hnot item hitem
        by_cases hobj : ∃ members, item = .obj members
        · obtain ⟨members, rfl⟩ := hobj
          exact (preserves_instance_iff rfl hdistinct ih).2 fun haltered =>
            hnot ⟨members, hitem, haltered⟩
        · exact Checker.preserves_record_of_ne fun members heq => hobj ⟨members, heq⟩
    · have hne : ∀ items, value ≠ .arr items := fun items heq => hlist ⟨items, heq⟩
      exact iff_of_true (Checker.preserves_list_of_ne hne)
        (not_alteredIn_of_ne_arr (Or.inl ⟨hkind, hmultiple⟩) hne)

theorem preserves_blocks_iff (hkind : field.kind = some .blocks)
    (hnodup : (field.blocks.map fun block => block.uid).Nodup)
    (hdistinct : ∀ block ∈ field.blocks, DistinctUids block.fields)
    (ih : ∀ block ∈ field.blocks, ∀ child ∈ block.fields, ∀ value,
      ((child.compiled mode draft).Preserves value ↔ ¬ child.AlteredIn value)) :
    (field.compiled mode draft).Preserves value ↔ ¬ field.AlteredIn value := by
  rw [compiled_blocks hkind]
  by_cases hlist : ∃ items, value = .arr items
  · obtain ⟨items, rfl⟩ := hlist
    rw [alteredIn_blocks_iff hkind]
    split
    · next hempty =>
      rw [List.isEmpty_iff.1 hempty, Checker.preserves_list_iff]
      exact iff_of_true (fun item _ => .refl item) (by simp)
    · next hblocks =>
      rw [Checker.preserves_list_iff]
      constructor
      · rintro hall ⟨members, hmem, i, block, hget, hbad⟩
        exact (BlockOf.preserves_item_iff hnodup hdistinct ih).1 (hall _ hmem) i block hget hbad
      · intro hnot item hitem
        by_cases hobj : ∃ members, item = .obj members
        · obtain ⟨members, rfl⟩ := hobj
          exact (BlockOf.preserves_item_iff hnodup hdistinct ih).2
            fun i block hget hbad => hnot ⟨members, hitem, i, block, hget, hbad⟩
        · exact Checker.preserves_record_of_ne fun members heq => hobj ⟨members, heq⟩
  · have hne : ∀ items, value ≠ .arr items := fun items heq => hlist ⟨items, heq⟩
    refine iff_of_true ?_ (not_alteredIn_of_ne_arr (Or.inr hkind) hne)
    split
    · exact Checker.preserves_list_of_ne hne
    · exact Checker.preserves_list_of_ne hne

/-- The check of a field preserves a value unless something in the value is altered. -/
theorem preserves_compiled_iff (hdistinct : field.Distinct) :
    (field.compiled mode draft).Preserves value ↔ ¬ field.AlteredIn value := by
  induction field using Field.induct generalizing value with
  | node info fields blocks ihFields ihBlocks =>
    obtain ⟨hfields, hblocks, hblockFields, hbelow, hbelowBlocks⟩ := hdistinct
    by_cases hg : info.kind = some .group
    · exact preserves_group_iff hg hfields
        fun child hchild value => ihFields child hchild (hbelow child hchild)
    · by_cases hb : info.kind = some .blocks
      · exact preserves_blocks_iff hb hblocks hblockFields
          fun block hblock child hchild value =>
            ihBlocks block hblock child hchild (hbelowBlocks block hblock child hchild)
      · rw [compiled_plain hg hb, alteredIn_plain_iff hg hb, FieldInfo.Alters]
        split
        · exact Checker.preserves_list_iff_not fun _ => FieldInfo.preserves_compiledPlain_iff
        · exact FieldInfo.preserves_compiledPlain_iff

end Field

/-! ## Entries -/

namespace ContentType

variable {contentType : ContentType} {members : Members}

theorem get?_declared (key : String) : (contentType.declared members).get? key =
    if key ∈ contentType.fields.map fun field => field.uid then members.get? key else none := by
  have hfilter : (contentType.declared members).get? key =
      if contentType.fields.any fun field => field.uid == key then members.get? key else none :=
    Members.get?_filter members
      (fun key => contentType.fields.any fun field => field.uid == key) key
  rw [hfilter]
  by_cases hkey : key ∈ contentType.fields.map fun field => field.uid
  · rw [if_pos hkey, if_pos (by simpa using hkey)]
  · rw [if_neg hkey, if_neg (by simpa using hkey)]

theorem keys_recordSlots : (Field.recordSlots mode draft false contentType.fields).map
    (fun slot => slot.key) = contentType.fields.map fun field => field.uid := by
  rw [Field.recordSlots, if_neg Bool.false_ne_true, List.append_nil, Field.keys_compiledSlots]

/-- What comes out of an entry does not depend on the members that are not declared. -/
theorem value_restricted (hdistinct : Field.DistinctUids contentType.fields) (entry : Json) :
    (contentType.compiled mode draft).value (contentType.restricted entry) =
      (contentType.compiled mode draft).value entry := by
  cases entry with
  | obj members =>
    let shape : Shape := { name := recordName "Entry" contentType.uid, isOpen := false }
    let slots := Field.recordSlots mode draft false contentType.fields
    have hseparate : Slot.Separate slots := Field.separate_recordSlots false hdistinct
    have hresult : ∀ slot ∈ slots,
        slot.result (contentType.declared members) [] = slot.result members [] := by
      intro slot hs
      have hkey : slot.key ∈ contentType.fields.map fun field => field.uid := by
        rw [← keys_recordSlots]
        exact List.mem_map_of_mem hs
      rw [Slot.result, Slot.result, Slot.read_of_otherKey (Field.otherKey_recordSlots hs),
        Slot.read_of_otherKey (Field.otherKey_recordSlots hs), get?_declared, if_pos hkey]
    have hmembers : Checker.recordMembers shape slots (contentType.declared members) =
        Checker.recordMembers shape slots members := by
      rw [hseparate.recordMembers_eq, hseparate.recordMembers_eq]
      exact congrArg (· ++ []) ((Slot.results_eq_iff hseparate.keys_nodup).2 hresult)
    rw [compiled_eq]
    exact congrArg Json.obj hmembers
  | _ => rfl

/-- The value that comes out of an entry is the entry without the members that are not declared, up
to the order of members, unless something in the values of its fields is altered. -/
theorem reordered_restricted_iff (hdistinct : contentType.Distinct) (entry : Json) :
    Reordered (contentType.restricted entry) ((contentType.compiled mode draft).value entry) ↔
      ¬ contentType.Altered entry := by
  rw [← value_restricted hdistinct.1]
  cases entry with
  | obj members =>
    have hundeclared : undeclared (Field.recordSlots mode draft false contentType.fields)
        (contentType.declared members) = [] := by
      rw [Members.eq_nil_iff]
      intro key hhas
      obtain ⟨hgiven, hnotMem⟩ :=
        (Slot.has_undeclared_iff fun _ => Field.otherKey_recordSlots).1 hhas
      rw [keys_recordSlots] at hnotMem
      rw [Members.has, get?_declared, if_neg hnotMem] at hgiven
      cases hgiven
    have hread : (∀ slot ∈ Field.recordSlots mode draft false contentType.fields, ∀ key value,
        slot.read (contentType.declared members) = some (key, value) →
          key = slot.key ∧ slot.checker.Preserves value) ↔
        ∀ field ∈ contentType.fields, ∀ value, Members.get? members field.uid = some value →
          ¬ field.AlteredIn value := by
      rw [Field.recordSlots, if_neg Bool.false_ne_true, List.append_nil,
        Field.preserves_slots_iff fun field hfield value =>
          Field.preserves_compiled_iff (hdistinct.2 field hfield)]
      refine forall₂_congr fun field hfield => ?_
      rw [get?_declared, if_pos (List.mem_map_of_mem hfield)]
    rw [restricted, ← Checker.Preserves, compiled_eq, Checker.preserves_record_iff
      (Field.separate_recordSlots false hdistinct.1), hread]
    constructor
    · rintro ⟨hall, -, -⟩ ⟨field, hfield, value, hvalue, haltered⟩
      exact hall field hfield value hvalue haltered
    · intro hnot
      refine ⟨fun field hfield value hvalue haltered => ?_, fun _ _ _ => rfl, fun _ => hundeclared⟩
      exact hnot ⟨field, hfield, value, hvalue, haltered⟩
  | _ =>
    refine iff_of_true (.refl _) ?_
    rintro ⟨field, -, value, ⟨⟩, -⟩

end ContentType

namespace Validator

/-- **The value of an accepted entry.** Where no two siblings of a content type have the same uid,
the value that comes out of an accepted entry is the entry without the members that the content type
does not declare, up to the order of members, just when nothing in the values of the fields of the
entry is altered. -/
theorem check_value_reordered_iff {contentType : ContentType} {validator : Validator}
    {entry value : Json} (hdistinct : contentType.Distinct)
    (h : (build contentType mode draft).result = .ok validator)
    (haccepted : validator.check entry = .accepted value) :
    Reordered (contentType.restricted entry) value ↔ ¬ contentType.Altered entry := by
  obtain rfl := eq_compiled h
  obtain ⟨-, rfl⟩ := check_eq_accepted.1 haccepted
  exact ContentType.reordered_restricted_iff hdistinct entry

/-- A term of a taxonomy with a third member, which does not come out. -/
theorem check_value_reordered_term :
    let topics : Field := ⟨{ uid := "topics", dataType := some "taxonomy" }, [], []⟩
    let contentType : ContentType := { fields := [topics] }
    let named : Members := [("taxonomy_uid", .str "t"), ("term_uid", .str "x")]
    let entry : Json := .obj [("topics", .arr [.obj (named ++ [("name", .str "n")])])]
    ∃ validator, (build contentType .read false).result = .ok validator ∧
      ∃ value, validator.check entry = .accepted value ∧
        ¬ Reordered (contentType.restricted entry) value := by
  intro topics contentType named entry
  have h : (build contentType .read false).result = .ok (compiled contentType .read false) := rfl
  have hdistinct : contentType.Distinct := by
    refine ⟨by simp [Field.DistinctUids, contentType], fun field hfield => ?_⟩
    rw [List.mem_singleton.1 hfield]
    exact .intro (by simp [Field.DistinctUids, topics]) (by simp [topics])
      (by simp [topics]) (by simp [topics]) (by simp [topics])
  have haccepted : (compiled contentType .read false).check entry =
      .accepted (.obj [("topics", .arr [.obj named])]) := by decide
  refine ⟨_, h, _, haccepted, fun hreordered => ?_⟩
  refine (check_value_reordered_iff hdistinct h haccepted).1 hreordered
    ⟨topics, List.mem_singleton_self _, _, rfl, ?_⟩
  refine .plain (by decide) (by decide) ?_
  exact ⟨_, rfl, _, List.mem_singleton_self _, "name", rfl, by decide⟩

end Validator

end ContentModel
