import ContentModel.Schema.Basic
import ContentModel.Schema.Decoder
import ContentModel.Schema.Error

/-!
# Reading content types

Content types and their definitions, read from values.

* `Field.read`, `BlockOf.read` and `ContentType.read` read definitions and collect all
  findings;
* an attribute of two spellings is read under the first one that is there, the other then
  counting as unmodelled.
-/

namespace ContentModel

open Decode

/-- Reads a choice. -/
def EnumChoice.read : Json → Checked EnumChoice
  | .obj members =>
    (fun value key => { value, key, extra := extras members ["value", "key"] })
      <$> required members "value" .valid
      <*> optionalText members "key"
  | _ => .problem (.notARecord "EnumChoice")

/-- Reads the choices of a field. -/
def FieldEnum.read : Json → Checked FieldEnum
  | .obj members =>
    (fun choices advanced =>
        { choices, advanced, extra := extras members ["choices", "advanced"] })
      <$> member members "choices" [] (orDefault [] (listOf EnumChoice.read))
      <*> flag members "advanced"
  | _ => .problem (.notARecord "FieldEnum")

/-- Reads the metadata of a field. -/
def FieldMetadata.read : Json → Checked FieldMetadata
  | .obj members =>
    let defaultKey := spelling members "_default" "is_default"
    (fun description instruction markdown allowRichText allowJsonRte multiline richTextType
        isDefault =>
        { description, instruction, markdown, allowRichText, allowJsonRte, multiline,
          richTextType, isDefault
          defaultValue := (Members.get? members "default_value").getD .null
          extra := extras members
            ["description", "instruction", "markdown", "allow_rich_text", "allow_json_rte",
              "multiline", "rich_text_type", "default_value", defaultKey] })
      <$> optionalText members "description"
      <*> optionalText members "instruction"
      <*> flag members "markdown"
      <*> flag members "allow_rich_text"
      <*> flag members "allow_json_rte"
      <*> flag members "multiline"
      <*> optionalText members "rich_text_type"
      <*> flag members defaultKey
  | _ => .problem (.notARecord "FieldMetadata")

/-- Reads the binding of a taxonomy. -/
def TaxonomyConfig.read : Json → Checked TaxonomyConfig
  | .obj members =>
    (fun taxonomyUid maxTerms mandatory nonLocalizable =>
        { taxonomyUid, maxTerms, mandatory, nonLocalizable
          extra := extras members
            ["taxonomy_uid", "max_terms", "mandatory", "non_localizable"] })
      <$> required members "taxonomy_uid" text
      <*> member members "max_terms" none (optional integer)
      <*> flag members "mandatory"
      <*> flag members "non_localizable"
  | _ => .problem (.notARecord "TaxonomyConfig")

/-- Reads what a field refers to. A value that is neither a text nor a list of texts is
reported once for each. -/
def ReferenceTarget.read : Json → Checked ReferenceTarget
  | .str uid => .valid (.one uid)
  | value =>
    match listOf text value with
    | .valid uids => .valid (.many uids)
    | .invalid findings =>
      .invalid (Finding.under (.reading "str") (.here .notAString)
        :: findings.map (Finding.under (.reading "list[str]")))

/-- Reads a field from its members, given what was read of the definitions nested in it. -/
def Field.assemble (members : Members) (fields : Checked (Option (List Field)))
    (blocks : Checked (Option (List BlockDefinition))) : Checked Field :=
  let startKey := spelling members "startDate" "start_date"
  let endKey := spelling members "endDate" "end_date"
  (fun uid dataType displayName mandatory multiple unique choices fields blocks metadata format
      startDate endDate maxInstance referenceTo taxonomies =>
      { uid, dataType, displayName, mandatory, multiple, unique, choices, metadata, format
        startDate, endDate, maxInstance, referenceTo, taxonomies
        hasFields := fields.isSome
        hasBlocks := blocks.isSome
        extra := extras members
          ["uid", "data_type", "display_name", "mandatory", "multiple", "unique", "enum",
            spelling members "schema" "fields", "blocks", "field_metadata", "format", startKey,
            endKey, "max_instance", "reference_to", "taxonomies"]
        fields := fields.getD []
        blocks := blocks.getD [] })
    <$> required members "uid" text
    <*> optionalText members "data_type"
    <*> optionalText members "display_name"
    <*> flag members "mandatory"
    <*> flag members "multiple"
    <*> flag members "unique"
    <*> member members "enum" none (optional FieldEnum.read)
    <*> fields
    <*> blocks
    <*> member members "field_metadata" {} (orDefault {} FieldMetadata.read)
    <*> optionalText members "format"
    <*> optionalText members startKey
    <*> optionalText members endKey
    <*> member members "max_instance" none (optional integer)
    <*> member members "reference_to" none (optional ReferenceTarget.read)
    <*> member members "taxonomies" [] (orDefault [] (listOf TaxonomyConfig.read))

/-- Reads a block definition from its members, given what was read of its fields. -/
def BlockOf.assemble (members : Members) (fields : Checked (Option (List Field))) :
    Checked BlockDefinition :=
  (fun uid title referenceTo fields =>
      { uid, title, referenceTo
        extra := extras members
          ["uid", "title", "reference_to", spelling members "schema" "fields"]
        fields := fields.getD [] })
    <$> required members "uid" text
    <*> optionalText members "title"
    <*> optionalText members "reference_to"
    <*> fields

mutual

/-- Reads a field definition. -/
def Field.read : Json → Checked Field
  | .obj members =>
    Field.assemble members
      (((Field.listUnder "schema" members).or (Field.listUnder "fields" members)).getD
        (.valid none))
      ((BlockOf.listUnder "blocks" members).getD (.valid none))
  | _ => .problem (.notARecord "FieldDefinition")

/-- Reads the list of fields under a key, if the key is there. -/
def Field.listUnder (key : String) :
    List (String × Json) → Option (Checked (Option (List Field)))
  | [] => none
  | (k, value) :: rest =>
    if k = key then some ((Field.readList value).under (.key key))
    else Field.listUnder key rest

/-- Reads a list of fields, or null. -/
def Field.readList : Json → Checked (Option (List Field))
  | .null => .valid none
  | .arr items => some <$> Field.readItems 0 items
  | _ => .problem .notAList

/-- Reads fields from an index on. -/
def Field.readItems : (index : Nat) → List Json → Checked (List Field)
  | _, [] => .valid []
  | index, item :: rest =>
    List.cons <$> (Field.read item).under (.index index) <*> Field.readItems (index + 1) rest

/-- Reads a block definition. -/
def BlockOf.read : Json → Checked BlockDefinition
  | .obj members =>
    BlockOf.assemble members
      (((Field.listUnder "schema" members).or (Field.listUnder "fields" members)).getD
        (.valid none))
  | _ => .problem (.notARecord "BlockDefinition")

/-- Reads the list of block definitions under a key, if the key is there. -/
def BlockOf.listUnder (key : String) :
    List (String × Json) → Option (Checked (Option (List BlockDefinition)))
  | [] => none
  | (k, value) :: rest =>
    if k = key then some ((BlockOf.readList value).under (.key key))
    else BlockOf.listUnder key rest

/-- Reads a list of block definitions, or null. -/
def BlockOf.readList : Json → Checked (Option (List BlockDefinition))
  | .null => .valid none
  | .arr items => some <$> BlockOf.readItems 0 items
  | _ => .problem .notAList

/-- Reads block definitions from an index on. -/
def BlockOf.readItems : (index : Nat) → List Json → Checked (List BlockDefinition)
  | _, [] => .valid []
  | index, item :: rest =>
    List.cons <$> (BlockOf.read item).under (.index index)
      <*> BlockOf.readItems (index + 1) rest

end

/-- Reads a content type from its members, which have a list of fields. -/
def ContentType.readMembers (members : Members) (schema : Json) : Checked ContentType :=
  (fun uid title fields =>
      { uid, title, fields, extra := extras members ["uid", "title", "schema"] })
    <$> optionalText members "uid"
    <*> optionalText members "title"
    <*> (listOf Field.read schema).under (.key "schema")

/-- Reads a content type. -/
def ContentType.read (value : Json) : Except ContentTypeError ContentType :=
  match value.get? "schema" with
  | none => .error .noFieldList
  | some .null => .error .noFieldList
  | some schema =>
    match ContentType.readMembers value.members schema with
    | .valid contentType => .ok contentType
    | .invalid findings => .error (.malformed findings)

end ContentModel
