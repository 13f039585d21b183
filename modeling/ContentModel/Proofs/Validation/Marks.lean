import ContentModel.Proofs.Validation.Compiled
import ContentModel.Proofs.Validation.Records

/-!
# Findings of absent fields

The findings of the full check of a content type, each with a mark that says whether it was raised
by an absent mandatory field. The location does not tell: an asset that lacks its uid and a group
that lacks a field `uid` are reported alike.

* `Marked` is a finding with its mark, `Field.marks` and `ContentType.marks` are the marked
  findings of fields and entries, by recursion on the schema;
* `Field.Lacks`, `Field.LacksMember` and `ContentType.Lacks` say, without any check, where an entry
  lacks a mandatory field;
* `ContentType.mem_marks_iff` says that the findings marked as absent are those of the places where
  the entry lacks a mandatory field.
-/

namespace ContentModel

/-- A finding, and whether it was raised by an absent mandatory field. -/
structure Marked where
  finding : Finding
  absent : Bool
  deriving DecidableEq

/-- The marked findings of values. -/
abbrev Marks := Json → List Marked

/-- A marked finding with a part of a value, seen from the value. -/
def Marked.under (step : Step) (marked : Marked) : Marked :=
  ⟨marked.finding.under step, marked.absent⟩

/-! ## Checks with marks -/

namespace Marks

variable {marks : Marks} {value : Json} {finding : Finding}

/-- The findings of a check that no absent mandatory field raises. -/
def ofChecker (checker : Checker) : Marks := fun value => (checker.findings value).map (⟨·, false⟩)

/-- The marked findings when null is taken as well. -/
def nullable (marks : Marks) : Marks
  | .null => []
  | value => marks value

/-- The marked findings of the items of a list from an index on. -/
def items (marks : Marks) : (index : Nat) → List Json → List Marked
  | _, [] => []
  | index, item :: rest => (marks item).map (.under (.index index)) ++ items marks (index + 1) rest

/-- The marked findings of a list. -/
def list (most : Option Nat) (marks : Marks) : Marks
  | .arr values =>
    if Checker.exceeds values.length most then
      [⟨.here (.tooLong (most.getD 0) values.length), false⟩]
    else items marks 0 values
  | _ => [⟨.here .notAList, false⟩]

/-- The marked findings of the member of a slot. -/
def member (slot : Slot) (marks : Marks) (members : Members) : List Marked :=
  match slot.read members with
  | some (key, value) => (marks value).map (.under (.key key))
  | none => if slot.required then [⟨⟨[.key slot.key], .missing⟩, true⟩] else []

/-- The marked findings of a record. -/
def record (shape : Shape) (slots : List (Slot × Marks)) : Marks
  | .obj members =>
    if shape.isTagged && !tagDeclared (slots.map (·.1)) members then
      [⟨.here (.unknownVariant (Members.tag? members)), false⟩]
    else slots.flatMap fun (slot, marks) => member slot marks members
  | _ => [⟨.here (.notARecord shape.name), false⟩]

/-! ## Findings marked as absent -/

theorem mem_map_under_iff {step : Step} {all : List Marked} :
    ⟨finding, true⟩ ∈ all.map (Marked.under step) ↔
      ∃ inner : Finding, ⟨inner, true⟩ ∈ all ∧ finding = inner.under step := by
  rw [List.mem_map]
  constructor
  · rintro ⟨⟨inner, absent⟩, hmem, heq⟩
    rw [Marked.under, Marked.mk.injEq] at heq
    obtain ⟨rfl, rfl⟩ := heq
    exact ⟨inner, hmem, rfl⟩
  · rintro ⟨inner, hmem, rfl⟩
    exact ⟨⟨inner, true⟩, hmem, rfl⟩

theorem notMem_ofChecker (checker : Checker) (value : Json) (finding : Finding) :
    ⟨finding, true⟩ ∉ ofChecker checker value := by
  simp [ofChecker]

theorem mem_nullable_iff :
    ⟨finding, true⟩ ∈ nullable marks value ↔ value ≠ .null ∧ ⟨finding, true⟩ ∈ marks value := by
  cases value <;> simp [nullable]

theorem mem_items_iff {index : Nat} {values : List Json} :
    ⟨finding, true⟩ ∈ items marks index values ↔ ∃ (i : Nat) (item : Json) (inner : Finding),
      values[i]? = some item ∧ ⟨inner, true⟩ ∈ marks item ∧
        finding = inner.under (.index (index + i : Nat)) := by
  induction values generalizing index with
  | nil => simp [items]
  | cons first rest ih =>
    rw [items, List.mem_append, mem_map_under_iff, ih]
    constructor
    · rintro (⟨inner, hmem, heq⟩ | ⟨i, item, inner, hget, hmem, heq⟩)
      · exact ⟨0, first, inner, rfl, hmem, heq⟩
      · refine ⟨i + 1, item, inner, by simpa using hget, hmem, ?_⟩
        rw [heq, Nat.add_right_comm, Nat.add_assoc]
    · rintro ⟨i, item, inner, hget, hmem, heq⟩
      cases i with
      | zero =>
        cases hget
        exact Or.inl ⟨inner, hmem, heq⟩
      | succ i =>
        refine Or.inr ⟨i, item, inner, by simpa using hget, hmem, ?_⟩
        rw [heq, Nat.add_right_comm, Nat.add_assoc]

theorem mem_list_iff {most : Option Nat} :
    ⟨finding, true⟩ ∈ list most marks value ↔ ∃ values, value = .arr values ∧
      Checker.exceeds values.length most = false ∧ ∃ (i : Nat) (item : Json) (inner : Finding),
        values[i]? = some item ∧ ⟨inner, true⟩ ∈ marks item ∧
          finding = inner.under (.index i) := by
  cases value with
  | arr values =>
    by_cases h : Checker.exceeds values.length most = true
    · simp [list, h]
    · simp [list, h, mem_items_iff]
  | _ => simp [list]

theorem mem_member_iff {slot : Slot} {members : Members} (h : slot.otherKey = none) :
    ⟨finding, true⟩ ∈ member slot marks members ↔
      (∃ (value : Json) (inner : Finding), members.get? slot.key = some value ∧
        ⟨inner, true⟩ ∈ marks value ∧ finding = inner.under (.key slot.key)) ∨
      (members.get? slot.key = none ∧ slot.required = true ∧
        finding = ⟨[.key slot.key], .missing⟩) := by
  rw [member, Slot.read_of_otherKey h]
  cases hget : members.get? slot.key with
  | some value => simp [mem_map_under_iff]
  | none => by_cases hrequired : slot.required = true <;> simp [hrequired]

theorem mem_record_iff {shape : Shape} {slots : List (Slot × Marks)} :
    ⟨finding, true⟩ ∈ record shape slots value ↔ ∃ members, value = .obj members ∧
      (shape.isTagged = true → tagDeclared (slots.map (·.1)) members = true) ∧
      ∃ pair ∈ slots, ⟨finding, true⟩ ∈ member pair.1 pair.2 members := by
  cases value with
  | obj members =>
    by_cases h : (shape.isTagged && !tagDeclared (slots.map (·.1)) members) = true
    · simp_all [record]
    · simp only [record, h, if_false, Bool.false_eq_true]
      simp_all
  | _ => simp [record]

/-- The slot for the metadata, unless a field has its key. No mark stands below it. -/
def metadataSlots (fields : List Field) : List (Slot × Marks) :=
  (ContentModel.metadataSlots fields).map fun slot => (slot, ofChecker slot.checker)

end Marks

/-! ## The marks of a content type -/

mutual

/-- The marked findings of the full check of a field. -/
def Field.marks (mode : Mode) : Field → Marks
  | ⟨info, fields, blocks⟩ =>
    match info.kind with
    | some .group =>
      let one := Marks.record { name := recordName "Group" (some info.uid) }
        (Field.markedSlots mode 0 fields ++
          if info.multiple then Marks.metadataSlots fields else [])
      if info.multiple then .list info.instanceLimit one else one
    | some .blocks =>
      if blocks.isEmpty then .ofChecker (.list none .any)
      else .list none (.record { name := recordName "Blocks" (some info.uid), isTagged := true }
        (BlockOf.markedSlots mode info.uid 0 blocks))
    | _ =>
      .ofChecker
        (if info.isListed then .list none (info.compiledPlain mode) else info.compiledPlain mode)

/-- The slots of the fields of a record with the marks of their values, from an index on. -/
def Field.markedSlots (mode : Mode) : (index : Nat) → List Field → List (Slot × Marks)
  | _, [] => []
  | index, field :: rest =>
    (field.slotWith false index (Field.compiled mode false field),
        if field.mandatory then Field.marks mode field else .nullable (Field.marks mode field))
      :: Field.markedSlots mode (index + 1) rest

/-- The slots of the variants of a blocks field with the marks of their values, from an index
on. -/
def BlockOf.markedSlots (mode : Mode) (field : String) :
    (index : Nat) → List (BlockOf Field) → List (Slot × Marks)
  | _, [] => []
  | index, block :: rest =>
    (variantSlot block.uid index (BlockOf.compiledPayload mode false field block),
        BlockOf.payloadMarks mode field block)
      :: BlockOf.markedSlots mode field (index + 1) rest

/-- The marked findings of the payload of a variant. -/
def BlockOf.payloadMarks (mode : Mode) (field : String) : BlockOf Field → Marks
  | ⟨info, fields⟩ =>
    if info.isReference then .ofChecker ValueShape.reference
    else .record { name := recordName ("Block_" ++ field) (some info.uid) }
      (Field.markedSlots mode 0 fields ++ Marks.metadataSlots fields)

end

/-- The marked findings of the full check of the entries of a content type. -/
def ContentType.marks (mode : Mode) (contentType : ContentType) : Marks :=
  .record { name := recordName "Entry" contentType.uid, isOpen := false }
    (Field.markedSlots mode 0 contentType.fields)

/-! ## Places where a mandatory field is absent -/

mutual

/-- At a location in a record with the given fields a mandatory field is absent. -/
inductive Field.LacksMember : List Field → Members → Location → Prop
  /-- A field of the record itself. -/
  | here {fields : List Field} {members : Members} {field : Field} (mem : field ∈ fields)
      (mandatory : field.mandatory = true) (absent : members.get? field.uid = none) :
      Field.LacksMember fields members [.key field.uid]
  /-- A field of a record inside the value of a field. -/
  | inside {fields : List Field} {members : Members} {field : Field} {value : Json}
      {location : Location} (mem : field ∈ fields) (given : members.get? field.uid = some value)
      (lacks : Field.Lacks field value location) :
      Field.LacksMember fields members (.key field.uid :: location)

/-- At a location in the value of a field a mandatory field is absent. -/
inductive Field.Lacks : Field → Json → Location → Prop
  /-- In a group. -/
  | group {field : Field} {members : Members} {location : Location}
      (kind : field.kind = some .group) (single : field.multiple = false)
      (lacks : Field.LacksMember field.fields members location) :
      Field.Lacks field (.obj members) location
  /-- In an instance of a repeatable group that has no more instances than it may have. -/
  | groupItem {field : Field} {items : List Json} {index : Nat} {members : Members}
      {location : Location} (kind : field.kind = some .group) (multiple : field.multiple = true)
      (limit : Checker.exceeds items.length field.instanceLimit = false)
      (item : items[index]? = some (.obj members))
      (lacks : Field.LacksMember field.fields members location) :
      Field.Lacks field (.arr items) (.index index :: location)
  /-- In a payload of a block item whose tag is declared. -/
  | payload {field : Field} {items : List Json} {index : Nat} {members payload : Members}
      {tag : String} {block : BlockDefinition} {location : Location}
      (kind : field.kind = some .blocks) (item : items[index]? = some (.obj members))
      (tagged : members.tag? = some tag) (declared : ∃ block ∈ field.blocks, block.uid = tag)
      (mem : block ∈ field.blocks) (inline : block.isReference = false)
      (given : members.get? block.uid = some (.obj payload))
      (lacks : Field.LacksMember block.fields payload location) :
      Field.Lacks field (.arr items) (.index index :: .key block.uid :: location)

end

/-- At a location in a block item a mandatory field of a variant is absent. -/
def BlockOf.LacksMember (blocks : List BlockDefinition) (members : Members)
    (location : Location) : Prop :=
  ∃ block ∈ blocks, block.isReference = false ∧ ∃ payload,
    members.get? block.uid = some (.obj payload) ∧ ∃ rest,
    Field.LacksMember block.fields payload rest ∧ location = .key block.uid :: rest

/-- At a location in an entry a mandatory field is absent. -/
def ContentType.Lacks (contentType : ContentType) : Json → Location → Prop
  | .obj members, location => Field.LacksMember contentType.fields members location
  | _, _ => False

namespace Field

variable {field : Field} {value : Json} {location : Location}

theorem Lacks.kind (h : field.Lacks value location) :
    field.kind = some .group ∨ field.kind = some .blocks := by
  cases h with
  | group hkind => exact Or.inl hkind
  | groupItem hkind => exact Or.inl hkind
  | payload hkind => exact Or.inr hkind

theorem lacks_group_iff (hkind : field.kind = some .group) (hsingle : field.multiple = false) :
    field.Lacks value location ↔
      ∃ members, value = .obj members ∧ LacksMember field.fields members location := by
  constructor
  · intro h
    cases h with
    | group _ _ hlacks => exact ⟨_, rfl, hlacks⟩
    | groupItem _ hmultiple => simp [hsingle] at hmultiple
    | payload hblocks => simp [hkind] at hblocks
  · rintro ⟨members, rfl, hlacks⟩
    exact .group hkind hsingle hlacks

theorem lacks_instances_iff (hkind : field.kind = some .group) (hmultiple : field.multiple = true) :
    field.Lacks value location ↔ ∃ items, value = .arr items ∧
      Checker.exceeds items.length field.instanceLimit = false ∧
      ∃ (i : Nat) (members : Members) (rest : Location), items[i]? = some (.obj members) ∧
        LacksMember field.fields members rest ∧ location = .index i :: rest := by
  constructor
  · intro h
    cases h with
    | group _ hsingle => simp [hmultiple] at hsingle
    | groupItem _ _ hlimit hitem hlacks => exact ⟨_, rfl, hlimit, _, _, _, hitem, hlacks, rfl⟩
    | payload hblocks => simp [hkind] at hblocks
  · rintro ⟨items, rfl, hlimit, i, members, rest, hitem, hlacks, rfl⟩
    exact .groupItem hkind hmultiple hlimit hitem hlacks

theorem lacks_blocks_iff (hkind : field.kind = some .blocks) :
    field.Lacks value location ↔ ∃ items, value = .arr items ∧
      ∃ (i : Nat) (members : Members), items[i]? = some (.obj members) ∧
        (∃ tag, members.tag? = some tag ∧ ∃ block ∈ field.blocks, block.uid = tag) ∧
        ∃ rest, BlockOf.LacksMember field.blocks members rest ∧ location = .index i :: rest := by
  constructor
  · intro h
    cases h with
    | group hgroup => simp [hkind] at hgroup
    | groupItem hgroup => simp [hkind] at hgroup
    | payload _ hitem htag hdeclared hmem hinline hgiven hlacks =>
      exact ⟨_, rfl, _, _, hitem, ⟨_, htag, hdeclared⟩, _,
        ⟨_, hmem, hinline, _, hgiven, _, hlacks, rfl⟩, rfl⟩
  · rintro ⟨items, rfl, i, members, hitem, ⟨tag, htag, hdeclared⟩, _,
      ⟨block, hmem, hinline, payload, hgiven, rest, hlacks, rfl⟩, rfl⟩
    exact .payload hkind hitem htag hdeclared hmem hinline hgiven hlacks

end Field

/-! ## Which findings are marked -/

namespace Marks

variable {marks : Marks} {lacks : Json → Location → Prop}

/-- The findings that are marked as absent are those of a missing member at the given places. -/
def Tell (marks : Marks) (lacks : Json → Location → Prop) : Prop :=
  ∀ value finding, ⟨finding, true⟩ ∈ marks value ↔
    finding.problem = .missing ∧ lacks value finding.location

theorem Tell.congr {lacks' : Json → Location → Prop} (h : marks.Tell lacks)
    (hlacks : ∀ value location, lacks' value location ↔ lacks value location) :
    marks.Tell lacks' := by
  intro value finding
  rw [h value finding, hlacks]

theorem Tell.nullable (h : marks.Tell lacks) (hnull : ∀ location, ¬ lacks .null location) :
    (nullable marks).Tell lacks := by
  intro value finding
  rw [mem_nullable_iff, h value finding, and_iff_right_of_imp]
  rintro ⟨-, hlacks⟩ rfl
  exact hnull _ hlacks

theorem Tell.list (most : Option Nat) (h : marks.Tell lacks) :
    (list most marks).Tell fun value location => ∃ items, value = .arr items ∧
      Checker.exceeds items.length most = false ∧ ∃ (i : Nat) (item : Json) (rest : Location),
        items[i]? = some item ∧ lacks item rest ∧ location = .index i :: rest := by
  rintro value ⟨location, problem⟩
  rw [mem_list_iff]
  constructor
  · rintro ⟨items, rfl, hlimit, i, item, ⟨rest, problem⟩, hitem, hinner, heq⟩
    obtain ⟨hproblem, hlacks⟩ := (h item _).1 hinner
    rw [Finding.under, Finding.mk.injEq] at heq
    obtain ⟨rfl, rfl⟩ := heq
    exact ⟨hproblem, items, rfl, hlimit, i, item, rest, hitem, hlacks, rfl⟩
  · rintro ⟨rfl, items, rfl, hlimit, i, item, rest, hitem, hlacks, rfl⟩
    exact ⟨items, rfl, hlimit, i, item, ⟨rest, .missing⟩, hitem, (h item _).2 ⟨rfl, hlacks⟩, rfl⟩

/-- What the members of a record tell, the record tells of objects with a declared tag. -/
theorem Tell.record (shape : Shape) {slots : List (Slot × Marks)}
    {lacksMember : Members → Location → Prop}
    (h : ∀ members finding, (∃ pair ∈ slots, ⟨finding, true⟩ ∈ member pair.1 pair.2 members) ↔
      finding.problem = .missing ∧ lacksMember members finding.location) :
    (record shape slots).Tell fun value location => ∃ members, value = .obj members ∧
      (shape.isTagged = true → tagDeclared (slots.map (·.1)) members = true) ∧
      lacksMember members location := by
  intro value finding
  simp only [mem_record_iff, h]
  constructor
  · rintro ⟨members, rfl, htag, hproblem, hlacks⟩
    exact ⟨hproblem, members, rfl, htag, hlacks⟩
  · rintro ⟨hproblem, members, rfl, htag, hlacks⟩
    exact ⟨members, rfl, htag, hproblem, hlacks⟩

theorem map_fst_metadataSlots (fields : List Field) :
    (metadataSlots fields).map (·.1) = ContentModel.metadataSlots fields := by
  simp [metadataSlots, Function.comp_def]

/-- The slots of the metadata mark nothing. -/
theorem notMem_metadataSlots {fields : List Field} {members : Members} {finding : Finding} :
    ¬ ∃ pair ∈ metadataSlots fields, ⟨finding, true⟩ ∈ member pair.1 pair.2 members := by
  rintro ⟨pair, hpair, hmem⟩
  obtain ⟨slot, hslot, rfl⟩ := List.mem_map.1 hpair
  obtain rfl : slot = metadataSlot := by
    unfold ContentModel.metadataSlots at hslot
    split at hslot <;> simp_all
  rcases (mem_member_iff rfl).1 hmem with ⟨_, _, -, hinner, -⟩ | ⟨-, hrequired, -⟩
  · exact notMem_ofChecker _ _ _ hinner
  · cases hrequired

end Marks

namespace Field

variable {mode : Mode} {fields : List Field}

theorem map_fst_markedSlots (mode : Mode) (index : Nat) (fields : List Field) :
    (markedSlots mode index fields).map (·.1) = compiledSlots mode false index fields := by
  induction fields generalizing index with
  | nil => rfl
  | cons field rest ih => rw [markedSlots, List.map_cons, ih, compiledSlots]

theorem mem_markedSlots_iff {index : Nat} {pair : Slot × Marks} :
    pair ∈ markedSlots mode index fields ↔ ∃ (i : Nat) (field : Field),
      fields[i]? = some field ∧
      pair = (field.slotWith false (index + i) (field.compiled mode false),
        if field.mandatory then field.marks mode else .nullable (field.marks mode)) := by
  induction fields generalizing index with
  | nil => simp [markedSlots]
  | cons field rest ih =>
    rw [markedSlots, List.mem_cons, ih]
    constructor
    · rintro (rfl | ⟨i, child, hget, rfl⟩)
      · exact ⟨0, field, rfl, rfl⟩
      · exact ⟨i + 1, child, hget, by rw [Nat.add_right_comm, Nat.add_assoc]⟩
    · rintro ⟨i, child, hget, rfl⟩
      cases i with
      | zero =>
        cases hget
        exact Or.inl rfl
      | succ i =>
        exact Or.inr ⟨i, child, hget, by rw [Nat.add_right_comm, Nat.add_assoc]⟩

/-- What the marks of fields tell, the slots of the fields tell of a record. -/
theorem tell_markedSlots (ih : ∀ field ∈ fields, (field.marks mode).Tell field.Lacks)
    (members : Members) (finding : Finding) :
    (∃ pair ∈ markedSlots mode 0 fields, ⟨finding, true⟩ ∈ Marks.member pair.1 pair.2 members) ↔
      finding.problem = .missing ∧ LacksMember fields members finding.location := by
  have hmarks : ∀ field ∈ fields, Marks.Tell
      (if field.mandatory then field.marks mode else .nullable (field.marks mode))
      field.Lacks := by
    intro field hfield
    split
    · exact ih field hfield
    · exact (ih field hfield).nullable (by rintro location ⟨⟩)
  constructor
  · rintro ⟨pair, hpair, hmem⟩
    obtain ⟨i, field, hget, rfl⟩ := mem_markedSlots_iff.1 hpair
    have hfield := List.mem_of_getElem? hget
    rcases (Marks.mem_member_iff rfl).1 hmem with
      ⟨value, inner, hvalue, hinner, rfl⟩ | ⟨hnone, hreq, rfl⟩
    · obtain ⟨hproblem, hlacks⟩ := (hmarks field hfield value inner).1 hinner
      exact ⟨hproblem, .inside hfield hvalue hlacks⟩
    · exact ⟨rfl, .here hfield (by simpa [FieldInfo.slotWith] using hreq) hnone⟩
  · obtain ⟨location, problem⟩ := finding
    rintro ⟨rfl, hlacks⟩
    cases hlacks with
    | here hfield hmandatory habsent =>
      obtain ⟨i, hget⟩ := List.mem_iff_getElem?.1 hfield
      refine ⟨_, mem_markedSlots_iff.2 ⟨i, _, hget, rfl⟩, (Marks.mem_member_iff rfl).2 ?_⟩
      exact Or.inr ⟨habsent, by simp [FieldInfo.slotWith, hmandatory], rfl⟩
    | inside hfield hvalue hlacks =>
      obtain ⟨i, hget⟩ := List.mem_iff_getElem?.1 hfield
      refine ⟨_, mem_markedSlots_iff.2 ⟨i, _, hget, rfl⟩, (Marks.mem_member_iff rfl).2 ?_⟩
      exact Or.inl ⟨_, ⟨_, .missing⟩, hvalue, (hmarks _ hfield _ _).2 ⟨rfl, hlacks⟩, rfl⟩

/-- The slots of the metadata among those of the fields change nothing. -/
theorem tell_markedSlots_append (ih : ∀ field ∈ fields, (field.marks mode).Tell field.Lacks)
    (withMetadata : Bool) (members : Members) (finding : Finding) :
    (∃ pair ∈ markedSlots mode 0 fields ++ if withMetadata then Marks.metadataSlots fields else [],
      ⟨finding, true⟩ ∈ Marks.member pair.1 pair.2 members) ↔
      finding.problem = .missing ∧ LacksMember fields members finding.location := by
  rw [← tell_markedSlots ih]
  cases withMetadata with
  | false => simp only [Bool.false_eq_true, if_false, List.append_nil]
  | true =>
    simp only [if_true, List.mem_append, or_and_right, exists_or, Marks.notMem_metadataSlots,
      or_false]

end Field

namespace BlockOf

variable {mode : Mode} {uid : String} {blocks : List BlockDefinition}

theorem map_fst_markedSlots (mode : Mode) (uid : String) (index : Nat)
    (blocks : List BlockDefinition) : (markedSlots mode uid index blocks).map (·.1) =
      compiledSlots mode false uid index blocks := by
  induction blocks generalizing index with
  | nil => rfl
  | cons block rest ih => rw [markedSlots, List.map_cons, ih, compiledSlots]

theorem mem_markedSlots_iff {index : Nat} {pair : Slot × Marks} :
    pair ∈ markedSlots mode uid index blocks ↔ ∃ (i : Nat) (block : BlockDefinition),
      blocks[i]? = some block ∧
      pair = (variantSlot block.uid (index + i) (block.compiledPayload mode false uid),
        block.payloadMarks mode uid) := by
  induction blocks generalizing index with
  | nil => simp [markedSlots]
  | cons block rest ih =>
    rw [markedSlots, List.mem_cons, ih]
    constructor
    · rintro (rfl | ⟨i, other, hget, rfl⟩)
      · exact ⟨0, block, rfl, rfl⟩
      · exact ⟨i + 1, other, hget, by rw [Nat.add_right_comm, Nat.add_assoc]⟩
    · rintro ⟨i, other, hget, rfl⟩
      cases i with
      | zero =>
        cases hget
        exact Or.inl rfl
      | succ i =>
        exact Or.inr ⟨i, other, hget, by rw [Nat.add_right_comm, Nat.add_assoc]⟩

theorem tell_payloadMarks {block : BlockDefinition}
    (ih : ∀ field ∈ block.fields, (field.marks mode).Tell field.Lacks) :
    (block.payloadMarks mode uid).Tell fun value location => block.isReference = false ∧
      ∃ payload, value = .obj payload ∧ Field.LacksMember block.fields payload location := by
  obtain ⟨info, fields⟩ := block
  intro value finding
  rw [payloadMarks]
  split
  · next h => simp [h, Marks.notMem_ofChecker]
  · next h =>
    have hrecord := Marks.Tell.record { name := recordName ("Block_" ++ uid) (some info.uid) }
      (Field.tell_markedSlots_append ih true)
    rw [if_pos rfl] at hrecord
    rw [hrecord value finding]
    simp [h]

/-- What the payloads of the variants tell, the slots of the variants tell of an item. -/
theorem tell_markedSlots (uid : String)
    (ih : ∀ block ∈ blocks, ∀ field ∈ block.fields, (field.marks mode).Tell field.Lacks)
    (members : Members) (finding : Finding) :
    (∃ pair ∈ markedSlots mode uid 0 blocks,
        ⟨finding, true⟩ ∈ Marks.member pair.1 pair.2 members) ↔
      finding.problem = .missing ∧ LacksMember blocks members finding.location := by
  constructor
  · rintro ⟨pair, hpair, hmem⟩
    obtain ⟨i, block, hget, rfl⟩ := mem_markedSlots_iff.1 hpair
    have hblock := List.mem_of_getElem? hget
    rcases (Marks.mem_member_iff rfl).1 hmem with ⟨value, inner, hvalue, hinner, rfl⟩ | ⟨-, hreq, -⟩
    · obtain ⟨hproblem, hinline, payload, rfl, hlacks⟩ :=
        (tell_payloadMarks (ih block hblock) value inner).1 hinner
      exact ⟨hproblem, block, hblock, hinline, payload, hvalue, _, hlacks, rfl⟩
    · cases hreq
  · obtain ⟨location, problem⟩ := finding
    rintro ⟨rfl, block, hblock, hinline, payload, hvalue, rest, hlacks, rfl⟩
    obtain ⟨i, hget⟩ := List.mem_iff_getElem?.1 hblock
    refine ⟨_, mem_markedSlots_iff.2 ⟨i, block, hget, rfl⟩,
      (Marks.mem_member_iff rfl).2 (Or.inl ?_)⟩
    refine ⟨.obj payload, ⟨rest, .missing⟩, hvalue, ?_, rfl⟩
    exact (tell_payloadMarks (ih block hblock) _ _).2 ⟨rfl, hinline, payload, rfl, hlacks⟩

end BlockOf

namespace Field

variable {mode : Mode} {field : Field}

theorem marks_group (h : field.kind = some .group) :
    field.marks mode =
      let one := Marks.record { name := recordName "Group" (some field.uid) }
        (markedSlots mode 0 field.fields
          ++ if field.multiple then Marks.metadataSlots field.fields else [])
      if field.multiple then .list field.instanceLimit one else one := by
  obtain ⟨info, fields, blocks⟩ := field
  rw [marks, h]

theorem marks_blocks (h : field.kind = some .blocks) :
    field.marks mode = if field.blocks.isEmpty then .ofChecker (.list none .any)
      else .list none (.record { name := recordName "Blocks" (some field.uid), isTagged := true }
        (BlockOf.markedSlots mode field.uid 0 field.blocks)) := by
  obtain ⟨info, fields, blocks⟩ := field
  rw [marks, h]

theorem marks_plain (hg : field.kind ≠ some .group) (hb : field.kind ≠ some .blocks) :
    field.marks mode = .ofChecker (field.compiled mode false) := by
  rw [compiled_plain hg hb]
  obtain ⟨info, fields, blocks⟩ := field
  rw [marks]
  split
  · next h => exact absurd h hg
  · next h => exact absurd h hb
  · rfl

theorem tell_marks_group (hkind : field.kind = some .group)
    (ih : ∀ child ∈ field.fields, (child.marks mode).Tell child.Lacks) :
    (field.marks mode).Tell field.Lacks := by
  have hone := Marks.Tell.record { name := recordName "Group" (some field.uid) }
    (tell_markedSlots_append ih field.multiple)
  rw [marks_group hkind]
  cases hmultiple : field.multiple with
  | false =>
    rw [hmultiple] at hone
    refine hone.congr fun value location => ?_
    rw [lacks_group_iff hkind hmultiple]
    simp
  | true =>
    rw [hmultiple] at hone
    refine (hone.list field.instanceLimit).congr fun value location => ?_
    rw [lacks_instances_iff hkind hmultiple]
    refine exists_congr fun items => and_congr_right fun _ => and_congr_right fun _ => ?_
    constructor
    · rintro ⟨i, members, rest, hitem, hlacks, rfl⟩
      exact ⟨i, _, rest, hitem, ⟨members, rfl, nofun, hlacks⟩, rfl⟩
    · rintro ⟨i, item, rest, hitem, ⟨members, rfl, -, hlacks⟩, rfl⟩
      exact ⟨i, members, rest, hitem, hlacks, rfl⟩

theorem tell_marks_blocks (hkind : field.kind = some .blocks)
    (ih : ∀ block ∈ field.blocks, ∀ child ∈ block.fields, (child.marks mode).Tell child.Lacks) :
    (field.marks mode).Tell field.Lacks := by
  rw [marks_blocks hkind]
  split
  · next hempty =>
    intro value finding
    have hnone : ¬ field.Lacks value finding.location := by
      rw [lacks_blocks_iff hkind, List.isEmpty_iff.1 hempty]
      simp
    simp [Marks.notMem_ofChecker, hnone]
  · have hone := Marks.Tell.record
      { name := recordName "Blocks" (some field.uid), isTagged := true }
      (BlockOf.tell_markedSlots field.uid ih)
    refine (hone.list none).congr fun value location => ?_
    rw [lacks_blocks_iff hkind]
    simp only [BlockOf.map_fst_markedSlots, BlockOf.tagDeclared_compiledSlots_iff]
    refine exists_congr fun items => and_congr_right fun _ => ?_
    constructor
    · rintro ⟨i, members, hitem, hdeclared, rest, hlacks, rfl⟩
      exact ⟨rfl, i, _, rest, hitem, ⟨members, rfl, fun _ => hdeclared, hlacks⟩, rfl⟩
    · rintro ⟨-, i, item, rest, hitem, ⟨members, rfl, hdeclared, hlacks⟩, rfl⟩
      exact ⟨i, members, hitem, hdeclared trivial, rest, hlacks, rfl⟩

theorem tell_marks_plain (hg : field.kind ≠ some .group)
    (hb : field.kind ≠ some .blocks) : (field.marks mode).Tell field.Lacks := by
  rw [marks_plain hg hb]
  intro value finding
  have hnone : ¬ field.Lacks value finding.location := by
    intro h
    rcases h.kind with hkind | hkind
    · exact hg hkind
    · exact hb hkind
  simp [Marks.notMem_ofChecker, hnone]

/-- The marks of a field tell where a mandatory field is absent from its value. -/
theorem tell_marks (mode : Mode) (field : Field) : (field.marks mode).Tell field.Lacks := by
  induction field using Field.induct with
  | node info fields blocks ihFields ihBlocks =>
    by_cases hg : info.kind = some .group
    · exact tell_marks_group hg ihFields
    · by_cases hb : info.kind = some .blocks
      · exact tell_marks_blocks hb ihBlocks
      · exact tell_marks_plain hg hb

end Field

/-- The marked findings of a content type are those of the places where an entry lacks a mandatory
field. -/
theorem ContentType.mem_marks_iff {mode : Mode} {contentType : ContentType} {entry : Json}
    {finding : Finding} : ⟨finding, true⟩ ∈ contentType.marks mode entry ↔
      finding.problem = .missing ∧ contentType.Lacks entry finding.location := by
  have hrecord := Marks.Tell.record
    { name := recordName "Entry" contentType.uid, isOpen := false }
    (Field.tell_markedSlots fun field (_ : field ∈ contentType.fields) =>
      Field.tell_marks mode field)
  rw [marks, hrecord entry finding]
  cases entry <;> simp [Lacks]

end ContentModel
