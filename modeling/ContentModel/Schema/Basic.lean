import ContentModel.Json.Basic

/-!
# Content types

The schema of a content type: an ordered tree of field definitions.

* `Field` is a field with its attributes (`FieldInfo`), the fields of a group and the block
  definitions of a modular block field;
* `BlockDefinition` is one variant of a modular block field;
* `FieldKind` sorts the known data types;
* `ContentType` is the root.

Attributes that are not modelled are kept as `extra` members, in order.
-/

namespace ContentModel

/-- The known data types of fields. -/
inductive FieldKind
  | text
  | number
  | boolean
  | isodate
  | file
  | link
  | reference
  | globalField
  | group
  | blocks
  | json
  | taxonomy
  deriving DecidableEq, Repr

namespace FieldKind

/-- All known data types. -/
def all : List FieldKind :=
  [text, number, boolean, isodate, file, link, reference, globalField, group, blocks, json,
    taxonomy]

/-- The name of a data type. -/
def name : FieldKind → String
  | .text => "text"
  | .number => "number"
  | .boolean => "boolean"
  | .isodate => "isodate"
  | .file => "file"
  | .link => "link"
  | .reference => "reference"
  | .globalField => "global_field"
  | .group => "group"
  | .blocks => "blocks"
  | .json => "json"
  | .taxonomy => "taxonomy"

/-- The data type with a name, if it is known. -/
def ofName? (name : String) : Option FieldKind := all.find? fun kind => kind.name == name

theorem ofName?_name (kind : FieldKind) : ofName? kind.name = some kind := by
  cases kind <;> decide

end FieldKind

/-- A choice of a select field. -/
structure EnumChoice where
  value : Json
  key : Option String := none
  extra : Members := []

/-- The choices of a select field. -/
structure FieldEnum where
  choices : List EnumChoice := []
  advanced : Bool := false
  extra : Members := []

/-- Display settings, editor flavour and hints of a field. -/
structure FieldMetadata where
  description : Option String := none
  instruction : Option String := none
  markdown : Bool := false
  /-- Edited as rich text in HTML. -/
  allowRichText : Bool := false
  /-- Edited as rich text in JSON. -/
  allowJsonRte : Bool := false
  multiline : Bool := false
  richTextType : Option String := none
  defaultValue : Json := .null
  isDefault : Bool := false
  extra : Members := []

/-- A taxonomy that a field takes terms from. -/
structure TaxonomyConfig where
  taxonomyUid : String
  maxTerms : Option Int := none
  mandatory : Bool := false
  nonLocalizable : Bool := false
  extra : Members := []

/-- What a field refers to. -/
inductive ReferenceTarget
  | one (uid : String)
  | many (uids : List String)

/-- The attributes of a field, apart from the definitions nested in it. -/
structure FieldInfo where
  uid : String
  dataType : Option String := none
  displayName : Option String := none
  mandatory : Bool := false
  multiple : Bool := false
  unique : Bool := false
  choices : Option FieldEnum := none
  metadata : FieldMetadata := {}
  /-- The pattern for a text field. -/
  format : Option String := none
  startDate : Option String := none
  endDate : Option String := none
  /-- The greatest number of instances of a repeatable group. -/
  maxInstance : Option Int := none
  referenceTo : Option ReferenceTarget := none
  taxonomies : List TaxonomyConfig := []
  /-- Whether a list of fields was given, be it empty. -/
  hasFields : Bool := false
  /-- Whether a list of block definitions was given, be it empty. -/
  hasBlocks : Bool := false
  extra : Members := []

/-- The attributes of a block definition, apart from its fields. -/
structure BlockInfo where
  /-- The tag of the items of this variant. -/
  uid : String
  title : Option String := none
  /-- The shared field that the variant stands for, instead of fields of its own. -/
  referenceTo : Option String := none
  extra : Members := []

/-- A block definition over a type of fields. -/
structure BlockOf (α : Type) extends BlockInfo where
  fields : List α

/-- A field definition. -/
structure Field extends FieldInfo where
  fields : List Field
  blocks : List (BlockOf Field)

/-- One variant of a modular block field. -/
abbrev BlockDefinition := BlockOf Field

/-- A text, if it is not empty. -/
def filled? : Option String → Option String
  | some text => if text.isEmpty then none else some text
  | none => none

namespace FieldInfo

/-- The data type, if it is known. -/
def kind (field : FieldInfo) : Option FieldKind := field.dataType.bind FieldKind.ofName?

/-- The name shown for a field. -/
def label (field : FieldInfo) : String := (filled? field.displayName).getD field.uid

/-- The sentence that describes a field. -/
def descriptionText (field : FieldInfo) : String :=
  (filled? field.metadata.description).getD field.label

/-- Whether a field is a text field edited as HTML. -/
def isRichText (field : FieldInfo) : Bool :=
  field.kind == some .text && field.metadata.allowRichText

/-- Whether a field holds rich text in JSON. -/
def isJsonRte (field : FieldInfo) : Bool :=
  field.kind == some .json && field.metadata.allowJsonRte

/-- Whether a field is a group. -/
def isGroup (field : FieldInfo) : Bool := field.kind == some .group

/-- Whether a field is a group with any number of instances. -/
def isRepeatableGroup (field : FieldInfo) : Bool := field.isGroup && field.multiple

/-- Whether a field holds modular blocks. -/
def isBlocks (field : FieldInfo) : Bool := field.kind == some .blocks

/-- The values of the choices of a field. -/
def choiceValues (field : FieldInfo) : List Json :=
  match field.choices with
  | none => []
  | some choices => choices.choices.map (·.value)

end FieldInfo

/-- Whether a field has groups or modular blocks among its fields. -/
def Field.hasNestedGroups (field : Field) : Bool :=
  field.fields.any fun child => child.isGroup || child.isBlocks

namespace BlockInfo

/-- The name shown for a block. -/
def label (block : BlockInfo) : String := (filled? block.title).getD block.uid

/-- Whether a block stands for a shared field. -/
def isReference (block : BlockInfo) : Bool := (filled? block.referenceTo).isSome

end BlockInfo

/-- The first mandatory text field of a block; its value names the block's instances. -/
def BlockOf.titleField (block : BlockDefinition) : Option Field :=
  block.fields.find? fun field => field.kind == some .text && field.mandatory

/-- A content type. -/
structure ContentType where
  uid : Option String := none
  title : Option String := none
  fields : List Field
  extra : Members := []

namespace ContentType

/-- The first field with a uid. -/
def field? (contentType : ContentType) (uid : String) : Option Field :=
  contentType.fields.find? fun field => field.uid == uid

end ContentType

/-- The keys that the content management system adds to entries, in order. -/
def systemFields : List String :=
  ["ACL", "_embedded_items", "_in_progress", "_metadata", "_version", "created_at",
    "created_by", "locale", "publish_details", "tags", "uid", "updated_at", "updated_by"]

/-- Whether a key is one that the content management system adds. -/
def isSystemField (uid : String) : Bool := systemFields.contains uid

end ContentModel
