import ContentModel.Schema.Basic

/-!
# The tree of field definitions

A field holds lists of fields and of block definitions with fields of their own.

* `Field.induct` is induction on this tree, with one hypothesis for the fields of a group and
  one for the fields of the blocks;
* `Field.Distinct` and `ContentType.Distinct` say that no two siblings have the same uid, at any
  level.
-/

namespace ContentModel

/-- Induction on field definitions: a property of every field whose fields, and the fields of
whose blocks, have it. -/
@[elab_as_elim]
theorem Field.induct {P : Field → Prop}
    (node : ∀ info fields blocks, (∀ field ∈ fields, P field) →
      (∀ block : BlockDefinition, block ∈ blocks → ∀ field ∈ block.fields, P field) →
      P ⟨info, fields, blocks⟩) (field : Field) : P field :=
  @Field.rec P (fun fields => ∀ field ∈ fields, P field)
    (fun blocks => ∀ block : BlockDefinition, block ∈ blocks → ∀ field ∈ block.fields, P field)
    (fun block => ∀ field ∈ block.fields, P field)
    node (fun field h => absurd h (by simp))
    (fun _ _ ihHead ihTail field h => (List.mem_cons.1 h).elim (fun e => e ▸ ihHead) (ihTail field))
    (fun block h => absurd h (by simp))
    (fun _ _ ihHead ihTail block h =>
      (List.mem_cons.1 h).elim (fun e => e ▸ ihHead) (ihTail block))
    (fun _ _ ih => ih) field

/-- No two of the fields have the same uid. -/
def Field.DistinctUids (fields : List Field) : Prop := (fields.map fun field => field.uid).Nodup

/-- No two fields of one list, and no two block definitions of one field, have the same uid, here
and below. -/
inductive Field.Distinct : Field → Prop
  | intro {field : Field} (fields : Field.DistinctUids field.fields)
      (blocks : (field.blocks.map fun block => block.uid).Nodup)
      (blockFields : ∀ block ∈ field.blocks, Field.DistinctUids block.fields)
      (below : ∀ child ∈ field.fields, Field.Distinct child)
      (belowBlocks : ∀ block ∈ field.blocks, ∀ child ∈ block.fields, Field.Distinct child) :
      Field.Distinct field

/-- A field without blocks. -/
theorem Field.Distinct.of_fields {info : FieldInfo} {fields : List Field}
    (huids : DistinctUids fields) (hbelow : ∀ child ∈ fields, child.Distinct) :
    Field.Distinct ⟨info, fields, []⟩ :=
  .intro huids List.nodup_nil nofun hbelow nofun

/-- No two siblings of a content type have the same uid, at any level. -/
def ContentType.Distinct (contentType : ContentType) : Prop :=
  Field.DistinctUids contentType.fields ∧ ∀ field ∈ contentType.fields, field.Distinct

end ContentModel
