import ContentModel.Json.Basic
import ContentModel.Issue.Location
import ContentModel.Proofs.Schema.Tree

/-!
# Records that a schema governs

An entry holds records: the entry itself, groups, instances of repeatable groups, and payloads of
blocks. The fields of each are laid down by a part of the content type.

* `RecordSchema` is such a part, `ContentType.record`, `Field.record` and `BlockOf.record` are where
  they come from;
* `RecordSchema.Reaches` says that an object below one record is a record itself, at which location,
  and which part of the content type governs it.
-/

namespace ContentModel

/-- What is laid down of a record. -/
structure RecordSchema where
  fields : List Field
  /-- The record may carry metadata. -/
  hasMetadata : Bool
  /-- Members that are not declared are kept. -/
  isOpen : Bool

/-- The record of an entry. -/
def ContentType.record (contentType : ContentType) : RecordSchema where
  fields := contentType.fields
  hasMetadata := false
  isOpen := false

/-- The record of a group, or of an instance of a repeatable group. -/
def Field.record (field : Field) : RecordSchema where
  fields := field.fields
  hasMetadata := field.multiple
  isOpen := true

/-- The record of the payload of a block. -/
def BlockOf.record (block : BlockDefinition) : RecordSchema where
  fields := block.fields
  hasMetadata := true
  isOpen := true

namespace RecordSchema

/-- A key is the uid of a field of a record, or the key of its metadata. -/
def Declares (record : RecordSchema) (key : String) : Prop :=
  (∃ field ∈ record.fields, field.uid = key) ∨ (record.hasMetadata = true ∧ key = "_metadata")

/-- No two siblings of a record have the same uid, here and below. -/
def Distinct (record : RecordSchema) : Prop :=
  Field.DistinctUids record.fields ∧ ∀ field ∈ record.fields, field.Distinct

/-- In a value that a record governs, the object at a location is governed by another. -/
inductive Reaches : RecordSchema → Json → Location → RecordSchema → Prop
  | here (record : RecordSchema) (members : Members) : Reaches record (.obj members) [] record
  | group {record target : RecordSchema} {members : Members} {field : Field} {value : Json}
      {rest : Location} (mem : field ∈ record.fields) (kind : field.kind = some .group)
      (single : field.multiple = false) (given : members.get? field.uid = some value)
      (deeper : Reaches field.record value rest target) :
      Reaches record (.obj members) (.key field.uid :: rest) target
  | groupItem {record target : RecordSchema} {members : Members} {field : Field}
      {items : List Json} {i : Nat} {item : Json} {rest : Location} (mem : field ∈ record.fields)
      (kind : field.kind = some .group) (multiple : field.multiple = true)
      (given : members.get? field.uid = some (.arr items)) (get : items[i]? = some item)
      (deeper : Reaches field.record item rest target) :
      Reaches record (.obj members) (.key field.uid :: .index i :: rest) target
  | payload {record target : RecordSchema} {members itemMembers : Members} {field : Field}
      {items : List Json} {i : Nat} {block : BlockDefinition} {value : Json} {rest : Location}
      (mem : field ∈ record.fields) (kind : field.kind = some .blocks)
      (given : members.get? field.uid = some (.arr items))
      (get : items[i]? = some (.obj itemMembers)) (block_mem : block ∈ field.blocks)
      (inline : block.isReference = false) (payload_given : itemMembers.get? block.uid = some value)
      (deeper : Reaches block.record value rest target) :
      Reaches record (.obj members) (.key field.uid :: .index i :: .key block.uid :: rest) target

variable {record target : RecordSchema} {value : Json} {location : Location}

/-- What a record governs is an object. -/
theorem Reaches.exists_members (h : record.Reaches value location target) :
    ∃ members : Members, value = .obj members := by
  cases h <;> exact ⟨_, rfl⟩

theorem Distinct.of_group {field : Field} (h : record.Distinct) (hmem : field ∈ record.fields) :
    field.record.Distinct := by
  cases h.2 field hmem with
  | intro fields _ _ below _ => exact ⟨fields, below⟩

theorem Distinct.of_block {field : Field} {block : BlockDefinition} (h : record.Distinct)
    (hmem : field ∈ record.fields) (hblock : block ∈ field.blocks) : block.record.Distinct := by
  cases h.2 field hmem with
  | intro _ _ blockFields _ belowBlocks =>
    exact ⟨blockFields block hblock, belowBlocks block hblock⟩

theorem Distinct.blocks_nodup {field : Field} (h : record.Distinct) (hmem : field ∈ record.fields) :
    (field.blocks.map fun block => block.uid).Nodup := by
  cases h.2 field hmem with
  | intro _ blocks _ _ _ => exact blocks

theorem Reaches.distinct (h : record.Reaches value location target) (hdistinct : record.Distinct) :
    target.Distinct := by
  induction h with
  | here => exact hdistinct
  | group mem _ _ _ _ ih => exact ih (hdistinct.of_group mem)
  | groupItem mem _ _ _ _ _ ih => exact ih (hdistinct.of_group mem)
  | payload mem _ _ _ block_mem _ _ _ ih => exact ih (hdistinct.of_block mem block_mem)

end RecordSchema

end ContentModel
