import ContentModel.Json.Equality
import ContentModel.Proofs.Schema.Tree
import ContentModel.Schema.Variant
import ContentModel.Validation.Build

/-!
# Conformance

What the definitions of a content type say about its entries, without any check being run.

* `Json.IsText`, `Json.IsAsset`, `Json.IsNode` and the like are the forms of values;
* `FieldInfo.Fits` says when a value fits a field without nested definitions;
* `Field.Conforms` says when a value conforms to a field, by recursion on the schema, and
  `ContentType.Conforms` when an entry conforms to a content type.

With `draft` on, mandatory fields may be absent.
-/

namespace ContentModel

/-! ## Forms of values -/

namespace Members

/-- There is a member with a key, and its value has a property. -/
def Given (members : Members) (key : String) (P : Json → Prop) : Prop :=
  ∃ value, members.get? key = some value ∧ P value

/-- There is no member with a key, or its value has a property. -/
def Optional (members : Members) (key : String) (P : Json → Prop) : Prop :=
  ∀ value, members.get? key = some value → P value

end Members

namespace Json

/-- Null, or a value with a property. -/
def OrNull (P : Json → Prop) (value : Json) : Prop := value = .null ∨ P value

/-- A list of values with a property. -/
def IsListOf (P : Json → Prop) (value : Json) : Prop :=
  ∃ items, value = .arr items ∧ ∀ item ∈ items, P item

/-- An object whose members have a property. -/
def IsRecord (P : Members → Prop) (value : Json) : Prop :=
  ∃ members, value = .obj members ∧ P members

def IsText (value : Json) : Prop := ∃ s, value = .str s

/-- A text that is not empty. -/
def IsName (value : Json) : Prop := ∃ s, value = .str s ∧ s ≠ ""

/-- An integer or a floating-point number. Booleans are none. -/
def IsNumber (value : Json) : Prop := (∃ n, value = .int n) ∨ ∃ x, value = .float x

def IsBoolean (value : Json) : Prop := ∃ b, value = .bool b

/-- An asset is an object with a uid. -/
def IsAsset : Json → Prop := IsRecord fun members =>
  members.Given "uid" IsName ∧ members.Optional "url" (OrNull IsText)

/-- A reference is an object with a uid. The content type it leads to is given under either of two
keys; the second one counts only where the first is absent. -/
def IsReference : Json → Prop := IsRecord fun members =>
  members.Given "uid" IsName ∧
    ∀ value, (members.get? "_content_type_uid").or (members.get? "content_type_uid") = some value →
      OrNull IsText value

/-- A link is an object whose title and address, where given, are texts. -/
def IsLink : Json → Prop := IsRecord fun members =>
  members.Optional "title" (OrNull IsText) ∧ members.Optional "href" (OrNull IsText)

/-- A term is an object that names a taxonomy and a term of it. -/
def IsTerm : Json → Prop := IsRecord fun members =>
  members.Given "taxonomy_uid" IsName ∧ members.Given "term_uid" IsName

/-- The metadata of an instance or block: an object whose uid, where given, is a text. -/
def IsMetadata : Json → Prop := IsRecord fun members => members.Optional "uid" (OrNull IsText)

/-- A node of a rich text: its children, where given, are a list of nodes. -/
inductive IsNode : Json → Prop
  | intro {members : Members}
      (texts : ∀ key ∈ ["type", "text", "uid"], members.Optional key (OrNull IsText))
      (attrs : members.Optional "attrs" (OrNull (IsRecord fun _ => True)))
      (marks : ∀ key ∈ ["bold", "italic", "underline", "strikethrough", "code", "superscript",
        "subscript"], members.Optional key (OrNull IsBoolean))
      (children : members.Optional "children" (OrNull (IsListOf fun _ => True)))
      (below : ∀ items, members.get? "children" = some (.arr items) → ∀ item ∈ items, IsNode item) :
      IsNode (.obj members)

/-- A document is an object of the type of documents with a list of nodes. -/
def IsDocument : Json → Prop := IsRecord fun members =>
  members.Given "type" (· = .str "doc") ∧ members.Optional "uid" (OrNull IsText) ∧
    members.Optional "attrs" (OrNull (IsRecord fun _ => True)) ∧
    members.Given "children" (IsListOf IsNode)

/-- What is known of a node is what is known of its members and of the nodes below it. -/
theorem isNode_obj_iff {members : Members} : IsNode (.obj members) ↔
    (∀ key ∈ ["type", "text", "uid"], members.Optional key (OrNull IsText)) ∧
      members.Optional "attrs" (OrNull (IsRecord fun _ => True)) ∧
      (∀ key ∈ ["bold", "italic", "underline", "strikethrough", "code", "superscript",
        "subscript"], members.Optional key (OrNull IsBoolean)) ∧
      members.Optional "children" (OrNull (IsListOf IsNode)) := by
  constructor
  · rintro ⟨texts, attrs, marks, children, below⟩
    refine ⟨texts, attrs, marks, fun value hvalue => ?_⟩
    rcases children value hvalue with hnull | ⟨items, rfl, -⟩
    · exact Or.inl hnull
    · exact Or.inr ⟨items, rfl, below items hvalue⟩
  · rintro ⟨texts, attrs, marks, children⟩
    refine .intro texts attrs marks (fun value hvalue => ?_) fun items hitems => ?_
    · rcases children value hvalue with hnull | ⟨items, rfl, -⟩
      · exact Or.inl hnull
      · exact Or.inr ⟨items, rfl, fun _ _ => trivial⟩
    · rcases children _ hitems with hnull | ⟨_, heq, hall⟩
      · cases hnull
      · cases heq
        exact hall

end Json

/-! ## Fields without nested definitions -/

namespace FieldInfo

open Json

/-- A value fits a text field: any text if it is edited as rich text, else one of the choices if
there are any, else a text in the format of the field, if it has one that is a pattern. -/
def FitsText (field : FieldInfo) (value : Json) : Prop :=
  if field.isRichText then IsText value
  else if field.choiceValues ≠ [] then
    ∃ choice ∈ field.choiceValues,
      looselyEquals value choice = true ∧ (IsBoolean value ↔ IsBoolean choice)
  else ∃ s, value = .str s ∧ ∀ raw, filled? field.format = some raw →
    ∀ format, Format.compile raw = .ok format → format.accepts s = true

/-- A value fits a date field: a plain date, with a time or without, or a timestamp within the
bounds if bounds are given. A bound that names no instant does not count. -/
def FitsDate (field : FieldInfo) (value : Json) : Prop :=
  ∃ s, value = .str s ∧
    if filled? field.startDate = none ∧ filled? field.endDate = none then Iso.isIsoDate s = true
    else Iso.isTimestamp s = true ∧ ∃ t, Iso.readInstant s = .instant t ∧
      (∀ first raw, filled? field.startDate = some raw → Iso.readInstant raw = .instant first →
        first.micros ≤ t.micros) ∧
      (∀ last raw, filled? field.endDate = some raw → Iso.readInstant raw = .instant last →
        t.micros ≤ last.micros)

/-- A value fits a field without nested definitions. -/
def Fits (mode : Mode) (field : FieldInfo) (value : Json) : Prop :=
  match field.kind with
  | some .text => field.FitsText value
  | some .number => IsNumber value
  | some .boolean => IsBoolean value
  | some .isodate => field.FitsDate value
  | some .file =>
    match mode with
    | .read => IsAsset value
    | .upsert => IsName value
  | some .link => IsLink value
  | some .reference => IsReference value
  | some .globalField => IsReference value
  | some .taxonomy => IsListOf IsTerm value
  | some .json => if field.isJsonRte then IsDocument value else True
  | some .group => True
  | some .blocks => True
  | none => True

/-- The member of a field: it may be absent if the field is not mandatory or in a draft, and null
if the field is not mandatory; any other value has to have a property. -/
def MemberFits (draft : Bool) (field : FieldInfo) (P : Json → Prop) (members : Members) : Prop :=
  (members.get? field.uid = none → field.mandatory = false ∨ draft = true) ∧
    members.Optional field.uid fun value => (value = .null ∧ field.mandatory = false) ∨ P value

end FieldInfo

/-- The metadata among the members of an instance or block, unless a field has its key. -/
def MetadataFits (fields : List Field) (members : Members) : Prop :=
  (∀ field ∈ fields, field.uid ≠ "_metadata") →
    members.Optional "_metadata" (Json.OrNull Json.IsMetadata)

/-! ## Fields -/

mutual

/-- A value conforms to a field. -/
def Field.Conforms (mode : Mode) (draft : Bool) : Field → Json → Prop
  | ⟨info, fields, blocks⟩, value =>
    match info.kind with
    | some .group =>
      if info.multiple then
        (∀ items, value = .arr items → ∀ n : Int, info.maxInstance = some n → 0 < n →
          items.length ≤ n) ∧
        value.IsListOf (Json.IsRecord fun members =>
          Field.MembersConform mode draft fields members ∧ MetadataFits fields members)
      else value.IsRecord fun members => Field.MembersConform mode draft fields members
    | some .blocks =>
      if blocks.isEmpty then value.IsListOf fun _ => True
      else value.IsListOf (Json.IsRecord fun members =>
        (∃ tag, members.tag? = some tag ∧ ∃ block ∈ blocks, block.uid = tag) ∧
          BlockOf.MembersConform mode draft blocks members)
    | _ =>
      if info.multiple = true ∧ info.kind ≠ some .taxonomy then value.IsListOf (info.Fits mode)
      else info.Fits mode value

/-- The members of a record conform to its fields. -/
def Field.MembersConform (mode : Mode) (draft : Bool) : List Field → Members → Prop
  | [], _ => True
  | field :: rest, members =>
    field.MemberFits draft (fun value => Field.Conforms mode draft field value) members ∧
      Field.MembersConform mode draft rest members

/-- The members of a block item conform to the variants: every variant under whose uid there is a
member, be it the tag of the item or not. -/
def BlockOf.MembersConform (mode : Mode) (draft : Bool) :
    List (BlockOf Field) → Members → Prop
  | [], _ => True
  | block :: rest, members =>
    members.Optional block.uid (fun value => BlockOf.PayloadConforms mode draft block value) ∧
      BlockOf.MembersConform mode draft rest members

/-- A payload conforms to a variant: a reference if the variant stands for a shared field. -/
def BlockOf.PayloadConforms (mode : Mode) (draft : Bool) : BlockOf Field → Json → Prop
  | ⟨info, fields⟩, value =>
    if info.isReference then value.IsReference
    else value.IsRecord fun members =>
      Field.MembersConform mode draft fields members ∧ MetadataFits fields members

end

/-- An entry conforms to a content type. -/
def ContentType.Conforms (mode : Mode) (draft : Bool) (contentType : ContentType)
    (entry : Json) : Prop :=
  entry.IsRecord fun members => Field.MembersConform mode draft contentType.fields members

/-! ## One kind of field at a time -/

variable {mode : Mode} {draft : Bool}

namespace Field

variable {field : Field} {value : Json} {members : Members}

theorem membersConform_iff {fields : List Field} : MembersConform mode draft fields members ↔
    ∀ field ∈ fields, field.MemberFits draft (field.Conforms mode draft) members := by
  induction fields with
  | nil => simp [MembersConform]
  | cons field rest ih => simp [MembersConform, ih]

theorem conforms_single_iff (hkind : field.kind = some .group)
    (hsingle : field.multiple = false) : field.Conforms mode draft value ↔
      value.IsRecord (MembersConform mode draft field.fields) := by
  obtain ⟨info, fields, blocks⟩ := field
  have hnot : ¬ info.multiple = true := Bool.eq_false_iff.1 hsingle
  rw [Conforms, hkind]
  exact iff_of_eq (if_neg hnot)

theorem conforms_instances_iff (hkind : field.kind = some .group)
    (hmultiple : field.multiple = true) : field.Conforms mode draft value ↔
      (∀ items, value = .arr items → ∀ n : Int, field.maxInstance = some n → 0 < n →
        items.length ≤ n) ∧
      value.IsListOf (Json.IsRecord fun members =>
        MembersConform mode draft field.fields members ∧ MetadataFits field.fields members) := by
  obtain ⟨info, fields, blocks⟩ := field
  rw [Conforms, hkind]
  exact iff_of_eq (if_pos hmultiple)

theorem conforms_blocks_iff (hkind : field.kind = some .blocks) :
    field.Conforms mode draft value ↔
      if field.blocks.isEmpty then value.IsListOf fun _ => True
      else value.IsListOf (Json.IsRecord fun members =>
        (∃ tag, members.tag? = some tag ∧ ∃ block ∈ field.blocks, block.uid = tag) ∧
          BlockOf.MembersConform mode draft field.blocks members) := by
  obtain ⟨info, fields, blocks⟩ := field
  rw [Conforms, hkind]

theorem conforms_plain_iff (hg : field.kind ≠ some .group) (hb : field.kind ≠ some .blocks) :
    field.Conforms mode draft value ↔
      if field.multiple = true ∧ field.kind ≠ some .taxonomy then value.IsListOf (field.Fits mode)
      else field.Fits mode value := by
  obtain ⟨info, fields, blocks⟩ := field
  rw [Conforms]
  split
  · next h => exact absurd h hg
  · next h => exact absurd h hb
  · rfl

end Field

namespace BlockOf

theorem membersConform_iff {blocks : List BlockDefinition} {members : Members} :
    MembersConform mode draft blocks members ↔ ∀ block ∈ blocks,
      members.Optional block.uid (block.PayloadConforms mode draft) := by
  induction blocks with
  | nil => simp [MembersConform]
  | cons block rest ih => simp [MembersConform, ih]

theorem payloadConforms_iff {block : BlockDefinition} {value : Json} :
    block.PayloadConforms mode draft value ↔
      if block.isReference then value.IsReference
      else value.IsRecord fun members =>
        Field.MembersConform mode draft block.fields members ∧
          MetadataFits block.fields members := by
  obtain ⟨info, fields⟩ := block
  rw [PayloadConforms]

end BlockOf

end ContentModel
