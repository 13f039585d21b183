import Mathlib.Logic.Basic
import ContentModel.Proofs.Schema.Governed
import ContentModel.Proofs.Validation.Compiled

/-!
# Checks of governed records

* `RecordSchema.checker` is the check of a record, `RecordSchema.slots` are its slots, whose keys
  are the declared ones (`RecordSchema.mem_keys_slots_iff`);
* the checks of entries, groups, instances and payloads are checks of their records
  (`Validator.checker_compiled`, `RecordSchema.compiled_single` and the like).
-/

namespace ContentModel

variable {mode : Mode} {draft : Bool}

namespace RecordSchema

variable {record : RecordSchema}

/-- The slots of a record. -/
def slots (mode : Mode) (draft : Bool) (record : RecordSchema) : List Slot :=
  Field.recordSlots mode draft record.hasMetadata record.fields

/-- What is particular to a record, given its name in messages. -/
def shape (name : String) (record : RecordSchema) : Shape where
  name := name
  isOpen := record.isOpen

/-- The check of a record, given its name in messages. -/
def checker (mode : Mode) (draft : Bool) (name : String) (record : RecordSchema) : Checker :=
  .record (record.shape name) (record.slots mode draft)

theorem otherKey_slots : ∀ slot ∈ record.slots mode draft, slot.otherKey = none :=
  fun _ => Field.otherKey_recordSlots

theorem Distinct.keys_nodup (h : record.Distinct) :
    ((record.slots mode draft).map fun slot => slot.key).Nodup :=
  (Field.separate_recordSlots record.hasMetadata h.1).keys_nodup

theorem mem_slots_iff {slot : Slot} : slot ∈ record.slots mode draft ↔
    (∃ (i : Nat) (field : Field), record.fields[i]? = some field ∧
      slot = field.slotWith draft i (field.compiled mode draft)) ∨
    (record.hasMetadata = true ∧ (∀ field ∈ record.fields, field.uid ≠ "_metadata") ∧
      slot = metadataSlot) := by
  rw [slots, Field.recordSlots, List.mem_append, Field.mem_compiledSlots]
  refine or_congr_right ?_
  cases record.hasMetadata with
  | false => simp
  | true =>
    rw [if_pos rfl, Field.mem_metadataSlots_iff]
    exact ⟨fun h => ⟨rfl, h.2, h.1⟩, fun h => ⟨h.2.2, h.2.1⟩⟩

/-- The keys of the slots are the declared ones. -/
theorem mem_keys_slots_iff (mode : Mode) (draft : Bool) (record : RecordSchema) (key : String) :
    key ∈ (record.slots mode draft).map (fun slot => slot.key) ↔ record.Declares key := by
  rw [slots, Field.recordSlots, List.map_append, Field.keys_compiledSlots, List.mem_append,
    List.mem_map, List.mem_map]
  refine or_congr_right' fun hnone => ?_
  cases record.hasMetadata with
  | false => simp
  | true =>
    rw [if_pos rfl]
    constructor
    · rintro ⟨slot, hs, rfl⟩
      exact ⟨rfl, by rw [(Field.mem_metadataSlots_iff.1 hs).1]; rfl⟩
    · rintro ⟨-, rfl⟩
      refine ⟨metadataSlot, Field.mem_metadataSlots_iff.2 ⟨rfl, fun field hmem huid => ?_⟩, rfl⟩
      exact hnone ⟨field, hmem, huid⟩

theorem compiled_single {field : Field} (hkind : field.kind = some .group)
    (hsingle : field.multiple = false) : field.compiled mode draft =
      field.record.checker mode draft (recordName "Group" field.uid) := by
  rw [Field.compiled_single hkind hsingle, checker, slots, Field.record, hsingle]
  rfl

theorem compiled_instances {field : Field} (hkind : field.kind = some .group)
    (hmultiple : field.multiple = true) : field.compiled mode draft =
      .list field.instanceLimit
        (field.record.checker mode draft (recordName "Group" field.uid)) := by
  rw [Field.compiled_instances hkind hmultiple, checker, slots, Field.record, hmultiple]
  rfl

theorem compiledPayload_inline {uid : String} {block : BlockDefinition}
    (hinline : block.isReference = false) : block.compiledPayload mode draft uid =
      block.record.checker mode draft (recordName ("Block_" ++ uid) (some block.uid)) :=
  BlockOf.compiledPayload_inline hinline

end RecordSchema

/-- The check of an entry is the check of its record. -/
theorem Validator.checker_compiled (contentType : ContentType) (mode : Mode) (draft : Bool) :
    (compiled contentType mode draft).checker =
      contentType.record.checker mode draft (recordName "Entry" contentType.uid) :=
  contentType.compiled_eq

end ContentModel
