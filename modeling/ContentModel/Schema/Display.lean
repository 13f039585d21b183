import ContentModel.Json.Display
import ContentModel.Schema.Basic

/-!
# Definitions in short

One-line descriptions of fields and content types.

* `FieldInfo.summary` names uid, data type and flags of a field;
* `ContentType.summary` names the uid and the number of fields.
-/

namespace ContentModel

/-- An optional text, quoted. -/
def quotedOption : Option String → String
  | some text => Text.quoted text
  | none => "None"

/-- The uid and data type of a field, with `!` for a mandatory one and `[]` for one with several
values. -/
def FieldInfo.summary (field : FieldInfo) : String :=
  "FieldDefinition(" ++ (Text.quoted field.uid ++ (": " ++ (field.dataType.getD "None"
    ++ ((if field.mandatory then "!" else "")
    ++ ((if field.multiple then "[]" else "") ++ ")")))))

/-- The uid of a content type and the number of its fields. -/
def ContentType.summary (contentType : ContentType) : String :=
  "ContentType(uid=" ++ (quotedOption contentType.uid
    ++ (", fields=" ++ (Digits.intText contentType.fields.length ++ ")")))

end ContentModel
