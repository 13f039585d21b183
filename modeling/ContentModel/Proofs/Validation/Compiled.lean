import ContentModel.Proofs.Schema.Tree
import ContentModel.Proofs.Validation.Records
import ContentModel.Validation.Validator

/-!
# Compiled checks

The checks that building gives, without the building. `Field.checker` hands on warnings, the depth
and errors; what it returns when it returns depends on none of these:

* `Field.compiled`, `Field.compiledSlots`, `BlockOf.compiledSlots`, `BlockOf.compiledPayload` and
  `ContentType.compiled` are the checks and slots themselves, by recursion on the schema alone;
* `Field.result_checker` says that a field that compiles for one mode and draft setting compiles
  for all, to its compiled check;
* `Validator.result_build` says the same of the validator of a content type.
-/

namespace ContentModel

variable {mode mode' : Mode} {draft draft' : Bool}

/-! ## Results of steps of building -/

namespace Build

variable {α β : Type}

@[simp] theorem result_bind (first : Build α) (second : α → Build β) :
    (first >>= second).result = first.result.bind fun value => (second value).result :=
  result_andThen first second

@[simp] theorem result_pure (value : α) : (pure value : Build α).result = .ok value := rfl

@[simp] theorem result_done (value : α) : (done value).result = .ok value := rfl

/-- A result of two steps comes from a result of the first. -/
theorem bind_eq_ok {first : Except BuildError α} {second : α → Except BuildError β} {value : β}
    (h : first.bind second = .ok value) :
    ∃ middle, first = .ok middle ∧ second middle = .ok value := by
  cases first with
  | ok middle => exact ⟨middle, rfl, h⟩
  | error error => cases h

end Build

/-! ## The checks -/

/-- The check of a single value of a plain field. Where it cannot be built, any text goes. -/
def FieldInfo.compiledPlain (mode : Mode) (field : FieldInfo) : Checker :=
  match (field.plainChecker mode).result with
  | .ok checker => checker
  | .error _ => .text

theorem FieldInfo.compiledPlain_eq {mode : Mode} {info : FieldInfo} {checker : Checker}
    (h : (info.plainChecker mode).result = .ok checker) : info.compiledPlain mode = checker := by
  rw [compiledPlain, h]

theorem FieldInfo.compiledPlain_of_done {mode : Mode} {info : FieldInfo} {checker : Checker}
    (h : info.plainChecker mode = .done checker) : info.compiledPlain mode = checker :=
  compiledPlain_eq (by rw [h, Build.result_done])

theorem FieldInfo.checker_slotWith (info : FieldInfo) (draft : Bool) (index : Nat)
    (checker : Checker) : (info.slotWith draft index checker).checker =
      if info.mandatory then checker else checker.nullable := rfl

mutual

/-- The check of a field on one value of it, or on the list of its values. -/
def Field.compiled (mode : Mode) (draft : Bool) : Field → Checker
  | ⟨info, fields, blocks⟩ =>
    match info.kind with
    | some .group =>
      info.groupChecker (Field.compiledSlots mode draft 0 fields
        ++ if info.multiple then metadataSlots fields else [])
    | some .blocks =>
      if blocks.isEmpty then .list none .any
      else .list none
        (blockItemChecker info.uid (BlockOf.compiledSlots mode draft info.uid 0 blocks))
    | _ =>
      if info.isListed then .list none (info.compiledPlain mode) else info.compiledPlain mode

/-- The slots of the fields of a record, from an index on. -/
def Field.compiledSlots (mode : Mode) (draft : Bool) : (index : Nat) → List Field → List Slot
  | _, [] => []
  | index, field :: rest =>
    field.slotWith draft index (Field.compiled mode draft field)
      :: Field.compiledSlots mode draft (index + 1) rest

/-- The slots of the variants of a blocks field, from an index on. -/
def BlockOf.compiledSlots (mode : Mode) (draft : Bool) (field : String) :
    (index : Nat) → List (BlockOf Field) → List Slot
  | _, [] => []
  | index, block :: rest =>
    variantSlot block.uid index (BlockOf.compiledPayload mode draft field block)
      :: BlockOf.compiledSlots mode draft field (index + 1) rest

/-- The check of the payload of a variant. -/
def BlockOf.compiledPayload (mode : Mode) (draft : Bool) (field : String) :
    BlockOf Field → Checker
  | ⟨info, fields⟩ =>
    if info.isReference then ValueShape.reference
    else payloadChecker field info.uid
      (Field.compiledSlots mode draft 0 fields ++ metadataSlots fields)

end

/-- The check of the entries of a content type. -/
def ContentType.compiled (mode : Mode) (draft : Bool) (contentType : ContentType) : Checker :=
  .record { name := recordName "Entry" contentType.uid, isOpen := false }
    (Field.compiledSlots mode draft 0 contentType.fields)

/-! ## One kind of field at a time -/

namespace Field

variable {field : Field}

theorem compiled_group (h : field.kind = some .group) :
    field.compiled mode draft = field.groupChecker (compiledSlots mode draft 0 field.fields
      ++ if field.multiple then metadataSlots field.fields else []) := by
  obtain ⟨info, fields, blocks⟩ := field
  rw [compiled, h]

theorem compiled_blocks (h : field.kind = some .blocks) :
    field.compiled mode draft =
      if field.blocks.isEmpty then .list none .any
      else .list none (blockItemChecker field.uid
        (BlockOf.compiledSlots mode draft field.uid 0 field.blocks)) := by
  obtain ⟨info, fields, blocks⟩ := field
  rw [compiled, h]

/-- The values of a plain field are lists where there are many of them, unless it is a taxonomy. -/
theorem isListed_iff (hg : field.kind ≠ some .group) (hb : field.kind ≠ some .blocks) :
    field.isListed = true ↔ field.multiple = true ∧ field.kind ≠ some .taxonomy := by
  simp [FieldInfo.isListed, FieldInfo.isGroup, FieldInfo.isBlocks, hg, hb]

theorem compiled_plain (hg : field.kind ≠ some .group) (hb : field.kind ≠ some .blocks) :
    field.compiled mode draft =
      if field.isListed then .list none (field.compiledPlain mode)
      else field.compiledPlain mode := by
  obtain ⟨info, fields, blocks⟩ := field
  rw [compiled]
  split
  · next h => exact absurd h hg
  · next h => exact absurd h hb
  · rfl

end Field

/-! ## The slots -/

namespace Field

theorem compiledSlots_eq (mode : Mode) (draft : Bool) (index : Nat) (fields : List Field) :
    compiledSlots mode draft index fields = (fields.zipIdx index).map fun (field, i) =>
      field.slotWith draft i (field.compiled mode draft) := by
  induction fields generalizing index with
  | nil => rfl
  | cons field rest ih => rw [compiledSlots, ih, List.zipIdx_cons, List.map_cons]

theorem keys_compiledSlots (mode : Mode) (draft : Bool) (fields : List Field) :
    (compiledSlots mode draft 0 fields).map (fun slot => slot.key) =
      fields.map fun field => field.uid := by
  rw [compiledSlots_eq, List.map_map]
  conv => rhs; rw [← List.zipIdx_map_fst 0 fields, List.map_map]
  rfl

theorem mem_compiledSlots {fields : List Field} {slot : Slot} :
    slot ∈ compiledSlots mode draft 0 fields ↔ ∃ (i : Nat) (field : Field),
      fields[i]? = some field ∧ slot = field.slotWith draft i (field.compiled mode draft) := by
  rw [compiledSlots_eq]
  simp only [List.mem_map, Prod.exists, List.mem_zipIdx_iff_getElem?]
  grind

end Field

namespace BlockOf

theorem compiledSlots_eq (mode : Mode) (draft : Bool) (uid : String) (index : Nat)
    (blocks : List BlockDefinition) :
    compiledSlots mode draft uid index blocks = (blocks.zipIdx index).map fun (block, i) =>
      variantSlot block.uid i (block.compiledPayload mode draft uid) := by
  induction blocks generalizing index with
  | nil => rfl
  | cons block rest ih => rw [compiledSlots, ih, List.zipIdx_cons, List.map_cons]

theorem keys_compiledSlots (mode : Mode) (draft : Bool) (uid : String)
    (blocks : List BlockDefinition) :
    (compiledSlots mode draft uid 0 blocks).map (fun slot => slot.key) =
      blocks.map fun block => block.uid := by
  rw [compiledSlots_eq, List.map_map]
  conv => rhs; rw [← List.zipIdx_map_fst 0 blocks, List.map_map]
  rfl

theorem mem_compiledSlots {uid : String} {blocks : List BlockDefinition} {slot : Slot} :
    slot ∈ compiledSlots mode draft uid 0 blocks ↔ ∃ (i : Nat) (block : BlockDefinition),
      blocks[i]? = some block ∧
      slot = variantSlot block.uid i (block.compiledPayload mode draft uid) := by
  rw [compiledSlots_eq]
  simp only [List.mem_map, Prod.exists, List.mem_zipIdx_iff_getElem?]
  grind

/-- The tag of an item is declared when it is the uid of a variant. -/
theorem tagDeclared_compiledSlots_iff {uid : String} {blocks : List BlockDefinition}
    {members : Members} : tagDeclared (compiledSlots mode draft uid 0 blocks) members = true ↔
      ∃ tag, members.tag? = some tag ∧ ∃ block ∈ blocks, block.uid = tag := by
  have hkeys : ∀ tag : String, ((compiledSlots mode draft uid 0 blocks).any fun slot =>
      slot.key == tag) = true ↔ ∃ block ∈ blocks, block.uid = tag := by
    intro tag
    have := congrArg (tag ∈ ·) (keys_compiledSlots mode draft uid blocks)
    simpa only [List.mem_map, eq_iff_iff, List.any_eq_true, beq_iff_eq] using this
  unfold tagDeclared
  cases members.tag? with
  | none => simp
  | some tag => simp only [hkeys, Option.some.injEq, exists_eq_left']

end BlockOf

/-! ## Records of compiled slots -/

namespace Field

variable {fields : List Field}

/-- The slots of a record of fields, with a slot for the metadata or without one. -/
def recordSlots (mode : Mode) (draft withMetadata : Bool) (fields : List Field) : List Slot :=
  compiledSlots mode draft 0 fields ++ if withMetadata then metadataSlots fields else []

/-- A group is a record of its fields. -/
theorem compiled_single {field : Field} (hkind : field.kind = some .group)
    (hsingle : field.multiple = false) :
    field.compiled mode draft = .record { name := recordName "Group" (some field.uid) }
      (recordSlots mode draft false field.fields) := by
  rw [compiled_group hkind, FieldInfo.groupChecker, hsingle]
  rfl

/-- A repeatable group is a list of such records, with metadata. -/
theorem compiled_instances {field : Field} (hkind : field.kind = some .group)
    (hmultiple : field.multiple = true) :
    field.compiled mode draft = .list field.instanceLimit
      (.record { name := recordName "Group" (some field.uid) }
        (recordSlots mode draft true field.fields)) := by
  rw [compiled_group hkind, FieldInfo.groupChecker, hmultiple]
  rfl

theorem mem_metadataSlots_iff {slot : Slot} : slot ∈ metadataSlots fields ↔
    slot = metadataSlot ∧ ∀ field ∈ fields, field.uid ≠ "_metadata" := by
  unfold metadataSlots
  split
  · next hany =>
    obtain ⟨field, hfield, huid⟩ := List.any_eq_true.1 hany
    exact ⟨nofun, fun h => absurd (beq_iff_eq.1 huid) (h.2 field hfield)⟩
  · next hany =>
    rw [List.mem_singleton]
    refine ⟨fun hslot => ⟨hslot, fun field hfield heq => hany ?_⟩, fun h => h.1⟩
    exact List.any_eq_true.2 ⟨field, hfield, by simp [heq]⟩

theorem eq_metadataSlot {slot : Slot} {withMetadata : Bool}
    (h : slot ∈ if withMetadata then metadataSlots fields else []) :
    slot = metadataSlot ∧ ∀ field ∈ fields, field.uid ≠ "_metadata" := by
  split at h
  · exact mem_metadataSlots_iff.1 h
  · cases h

theorem otherKey_recordSlots {slot : Slot} {withMetadata : Bool}
    (h : slot ∈ recordSlots mode draft withMetadata fields) : slot.otherKey = none := by
  rcases List.mem_append.1 h with h | h
  · obtain ⟨i, field, -, rfl⟩ := mem_compiledSlots.1 h
    rfl
  · rw [(eq_metadataSlot h).1]
    rfl

theorem separate_recordSlots (withMetadata : Bool) (h : DistinctUids fields) :
    Slot.Separate (recordSlots mode draft withMetadata fields) := by
  refine .of_noOther ?_ fun slot => otherKey_recordSlots
  rw [recordSlots, List.map_append, keys_compiledSlots, List.nodup_append]
  refine ⟨h, ?_, ?_⟩
  · split
    · unfold metadataSlots
      split <;> simp
    · simp
  · intro uid huid key hkey heq
    obtain ⟨field, hfield, rfl⟩ := List.mem_map.1 huid
    obtain ⟨slot, hslot, rfl⟩ := List.mem_map.1 hkey
    obtain ⟨rfl, hnone⟩ := eq_metadataSlot hslot
    exact hnone field hfield heq

end Field

/-- The check of an entry is a record of the fields of its content type, without metadata. -/
theorem ContentType.compiled_eq (contentType : ContentType) :
    contentType.compiled mode draft =
      .record { name := recordName "Entry" contentType.uid, isOpen := false }
        (Field.recordSlots mode draft false contentType.fields) := by
  simp [ContentType.compiled, Field.recordSlots]

namespace BlockOf

variable {block : BlockDefinition} {uid : String}

theorem compiledPayload_reference (h : block.isReference = true) :
    block.compiledPayload mode draft uid = ValueShape.reference := by
  obtain ⟨info, fields⟩ := block
  rw [compiledPayload, if_pos h]

theorem compiledPayload_inline (h : block.isReference = false) :
    block.compiledPayload mode draft uid =
      .record { name := recordName ("Block_" ++ uid) (some block.uid) }
        (Field.recordSlots mode draft true block.fields) := by
  obtain ⟨info, fields⟩ := block
  rw [compiledPayload, if_neg (by simpa using h)]
  rfl

theorem otherKey_compiledSlots {uid : String} {blocks : List BlockDefinition} {slot : Slot}
    (h : slot ∈ compiledSlots mode draft uid 0 blocks) : slot.otherKey = none := by
  obtain ⟨i, block, -, rfl⟩ := mem_compiledSlots.1 h
  rfl

theorem separate_compiledSlots {blocks : List BlockDefinition} (uid : String)
    (h : (blocks.map fun block => block.uid).Nodup) :
    Slot.Separate (compiledSlots mode draft uid 0 blocks) :=
  .of_noOther (by rwa [keys_compiledSlots]) fun _ => otherKey_compiledSlots

end BlockOf

/-! ## What building returns -/

/-- Whether the check of a plain field can be built does not depend on the mode. -/
theorem FieldInfo.result_plainChecker {info : FieldInfo} {checker : Checker}
    (h : (info.plainChecker mode).result = .ok checker) (mode' : Mode) :
    (info.plainChecker mode').result = .ok (info.compiledPlain mode') := by
  have hok : ∃ checker', (info.plainChecker mode').result = .ok checker' := by
    unfold plainChecker at h ⊢
    split at h <;> simp_all
  obtain ⟨checker', h'⟩ := hok
  rw [compiledPlain, h']

/-- What is known of every field of a list is known of the slots of the list. -/
theorem Field.result_slots (mode' : Mode) (draft' : Bool) {fields : List Field}
    {depth index : Nat} {slots : List Slot}
    (ih : ∀ field ∈ fields, ∀ checker, (field.checker mode draft depth).result = .ok checker →
      (field.checker mode' draft' depth).result = .ok (field.compiled mode' draft'))
    (h : (Field.slots mode draft depth index fields).result = .ok slots) :
    (Field.slots mode' draft' depth index fields).result =
      .ok (Field.compiledSlots mode' draft' index fields) := by
  induction fields generalizing index slots with
  | nil => simp [Field.slots, Field.compiledSlots]
  | cons field rest ihRest =>
    simp only [Field.slots, Build.result_bind] at h
    obtain ⟨checker, hchecker, h⟩ := Build.bind_eq_ok h
    obtain ⟨others, hothers, -⟩ := Build.bind_eq_ok h
    have hhead := ih field (by simp) checker hchecker
    have htail := ihRest (fun child hchild => ih child (by simp [hchild])) hothers
    simp [Field.slots, Field.compiledSlots, hhead, htail, Except.bind]

/-- What is known of the fields of every variant is known of the slots of the variants. -/
theorem BlockOf.result_slots (mode' : Mode) (draft' : Bool) {blocks : List BlockDefinition}
    {depth index : Nat} {uid : String} {slots : List Slot}
    (ih : ∀ block ∈ blocks, ∀ field ∈ block.fields, ∀ checker,
      (field.checker mode draft depth).result = .ok checker →
        (field.checker mode' draft' depth).result = .ok (field.compiled mode' draft'))
    (h : (BlockOf.slots mode draft depth uid index blocks).result = .ok slots) :
    (BlockOf.slots mode' draft' depth uid index blocks).result =
      .ok (BlockOf.compiledSlots mode' draft' uid index blocks) := by
  induction blocks generalizing index slots with
  | nil => simp [BlockOf.slots, BlockOf.compiledSlots]
  | cons block rest ihRest =>
    simp only [BlockOf.slots, Build.result_bind] at h
    obtain ⟨checker, hchecker, h⟩ := Build.bind_eq_ok h
    obtain ⟨others, hothers, -⟩ := Build.bind_eq_ok h
    have htail := ihRest (fun child hchild => ih child (by simp [hchild])) hothers
    have hhead : (BlockOf.payload mode' draft' depth uid block).result =
        .ok (BlockOf.compiledPayload mode' draft' uid block) := by
      obtain ⟨info, fields⟩ := block
      rw [BlockOf.payload] at hchecker ⊢
      rw [BlockOf.compiledPayload]
      split at hchecker
      · next href => simp [href]
      · next href =>
        simp only [Build.result_bind] at hchecker
        obtain ⟨slots, hslots, hchecker⟩ := Build.bind_eq_ok hchecker
        obtain ⟨named, hnamed, hchecker⟩ := Build.bind_eq_ok hchecker
        obtain ⟨limits, hlimits, -⟩ := Build.bind_eq_ok hchecker
        have := Field.result_slots mode' draft'
          (fun field hfield => ih ⟨info, fields⟩ (by simp) field hfield) hslots
        simp [href, this, hnamed, hlimits, Except.bind]
    simp [BlockOf.slots, BlockOf.compiledSlots, hhead, htail, Except.bind]

/-- A field that compiles for one mode and draft setting compiles for all, to its compiled
check. -/
theorem Field.result_checker (mode' : Mode) (draft' : Bool) {field : Field} {depth : Nat}
    {checker : Checker} (h : (field.checker mode draft depth).result = .ok checker) :
    (field.checker mode' draft' depth).result = .ok (field.compiled mode' draft') := by
  induction field using Field.induct generalizing depth checker with
  | node info fields blocks ihFields ihBlocks =>
    rw [Field.checker] at h ⊢
    split at h
    · cases h
    · next hdepth =>
      rw [if_neg hdepth]
      split at h
      · next hkind =>
        simp only [Build.result_bind] at h
        obtain ⟨slots, hslots, h⟩ := Build.bind_eq_ok h
        obtain ⟨limits, hlimits, -⟩ := Build.bind_eq_ok h
        have := Field.result_slots mode' draft'
          (fun field hfield _ => ihFields field hfield) hslots
        simp [compiled_group (show (Field.mk info fields blocks).kind = _ from hkind), this,
          hlimits, Except.bind]
      · next hkind =>
        rw [compiled_blocks (show (Field.mk info fields blocks).kind = _ from hkind)]
        split at h
        · next hempty => simp [hempty]
        · next hempty =>
          simp only [Build.result_bind] at h
          obtain ⟨slots, hslots, -⟩ := Build.bind_eq_ok h
          have := BlockOf.result_slots mode' draft'
            (fun block hblock field hfield _ => ihBlocks block hblock field hfield) hslots
          simp [hempty, this, Except.bind]
      · next hg hb =>
        simp only [Build.result_bind] at h
        obtain ⟨plain, hplain, -⟩ := Build.bind_eq_ok h
        rw [compiled_plain (show (Field.mk info fields blocks).kind ≠ _ from hg) hb]
        simp [FieldInfo.result_plainChecker hplain mode', Except.bind]

/-- A content type that compiles for one mode and draft setting compiles for all, to its compiled
check. -/
theorem ContentType.result_checker (mode' : Mode) (draft' : Bool) {contentType : ContentType}
    {checker : Checker} (h : (contentType.checker mode draft).result = .ok checker) :
    (contentType.checker mode' draft').result = .ok (contentType.compiled mode' draft') := by
  simp only [ContentType.checker, Build.result_bind] at h
  obtain ⟨slots, hslots, h⟩ := Build.bind_eq_ok h
  obtain ⟨limits, hlimits, -⟩ := Build.bind_eq_ok h
  have := Field.result_slots mode' draft'
          (fun _ _ _ => Field.result_checker mode' draft') hslots
  simp [ContentType.checker, ContentType.compiled, this, hlimits, Except.bind]

namespace Validator

theorem check_eq_accepted {validator : Validator} {entry value : Json} :
    validator.check entry = .accepted value ↔
      validator.checker.findings entry = [] ∧ validator.checker.value entry = value := by
  unfold check Checker.verdict
  split
  · next h => simp [h]
  · next h => exact ⟨nofun, fun hvalue => absurd hvalue.1 h⟩

/-- The validator of a content type, without the building. -/
def compiled (contentType : ContentType) (mode : Mode) (isDraft : Bool) : Validator :=
  ⟨contentType, mode, isDraft, contentType.compiled mode isDraft⟩

/-- A content type with a validator for one mode and draft setting has one for all. -/
theorem result_build (mode' : Mode) (draft' : Bool) {contentType : ContentType}
    {validator : Validator} (h : (build contentType mode draft).result = .ok validator) :
    (build contentType mode' draft').result = .ok (compiled contentType mode' draft') := by
  simp only [build, Build.result_bind] at h ⊢
  obtain ⟨checker, hchecker, -⟩ := Build.bind_eq_ok h
  simp [ContentType.result_checker mode' draft' hchecker, Except.bind, compiled]

/-- The validator that is built is the compiled one. -/
theorem eq_compiled {contentType : ContentType} {validator : Validator}
    (h : (build contentType mode draft).result = .ok validator) :
    validator = compiled contentType mode draft :=
  Except.ok.inj (h.symm.trans (result_build mode draft h))

end Validator

end ContentModel
