import ContentModel.Rendering.Entry

/-!
# Rendering within the limits of the runtime

Two limits of the runtime end a rendering that would otherwise give a text: an integer of more than
`Digits.maxDigits` digits is not written, and a value that nests too deeply exhausts the stack.
What is left of the stack, the *room*, is counted in calls.

* `Json.checkWritten` meets the limits at a value that is written as running text or as JSON,
  `RichText.checkWritten` at a rich text;
* `Rendering.scalarParts` and `FieldInfo.writtenParts` are the parts of a value that are written by
  the type of its field, and `FieldInfo.checkWritten` meets the limits at them;
* `Rendering.primitiveWithin` is the value of a field within the limits, and the other functions
  named `check` meet them at the parts of an entry, in the order in which these are rendered;
* `ContentType.renderWithin` is the document of an entry, unless the limits are met.
-/

namespace ContentModel

/-! ## Writing values -/

mutual

/-- Refuses a value that holds an integer of too many digits, or nests deeper than the room. A list
or an object takes one call. -/
def Json.checkWritten (room : Nat) : Json → Except RenderError Unit
  | .int n => if Digits.isTooLong n then .error .integerTooLong else .ok ()
  | .arr items =>
    match room with
    | 0 => .error .stackExhausted
    | room + 1 => Json.checkItems room items
  | .obj members =>
    match room with
    | 0 => .error .stackExhausted
    | room + 1 => Json.checkMembers room members
  | _ => .ok ()

/-- Refuses the first item of a list that cannot be written. -/
def Json.checkItems (room : Nat) : List Json → Except RenderError Unit
  | [] => .ok ()
  | item :: rest => do
    Json.checkWritten room item
    Json.checkItems room rest

/-- Refuses the first member of an object that cannot be written. -/
def Json.checkMembers (room : Nat) : List (String × Json) → Except RenderError Unit
  | [] => .ok ()
  | (_, value) :: rest => do
    Json.checkWritten room value
    Json.checkMembers room rest

end

namespace RichText

mutual

/-- How deep containers nest in a node. -/
def Node.depth : Node → Nat
  | .leaf _ _ => 0
  | .container _ children _ _ => Node.depthAll children + 1

/-- How deep containers nest in one of several nodes at most. -/
def Node.depthAll : List Node → Nat
  | [] => 0
  | node :: rest => max (Node.depth node) (Node.depthAll rest)

end

/-- The calls that a container takes while its children are written: two for the node, two for the
walk over the children. -/
def callsPerContainer : Nat := 4

/-- Refuses a rich text whose containers nest deeper than the room. -/
def checkWritten (room : Nat) (value : Json) : Except RenderError Unit :=
  match Node.ofJson? value with
  | some node =>
    if callsPerContainer * node.depth ≤ room then .ok () else .error .stackExhausted
  | none => .ok ()

end RichText

namespace Rendering

/-- Refuses the first of several values that cannot be written. -/
def checkAll (room : Nat) (values : List Json) : Except RenderError Unit :=
  values.forM fun value => value.checkWritten room

/-! ## Values by data type -/

/-- The parts of a number that are written: the value itself if it has no other form. -/
def numberParts (options : RenderOptions) (value : Json) : List Json :=
  match (shownNumber? value).map options.formatNumber with
  | some (.ok _) => []
  | some (.error .tooLarge) => []
  | _ => [value]

/-- The parts of a link that are written. A title alone is handed on as it is. -/
def linkParts (members : Members) : List Json :=
  let href := valueOf members "href"
  if href.isTruthy then [orElse (valueOf members "title") href, href] else []

/-- The parts of an asset that are written. A name alone is handed on as it is. -/
def assetParts (members : Members) : List Json :=
  let name := orElse (valueOf members "title") (valueOf members "filename")
  let url := valueOf members "url"
  if url.isTruthy then [orElse name (.str ""), url] else []

/-- The parts of a reference that are written: its uid if it has no title. -/
def referenceParts (members : Members) : List Json :=
  if (valueOf members "title").isTruthy then [] else [valueOf members "uid"]

/-- The parts of one value that are written by the data type of its field. -/
def scalarParts (options : RenderOptions) (kind : Option FieldKind) (value : Json) : List Json :=
  match value with
  | .null => []
  | value =>
    match kind with
    | some .number => numberParts options value
    | some .boolean => []
    | some .isodate => [value]
    | some .link => if value.isObject then linkParts value.members else []
    | some .file => if value.isObject then assetParts value.members else []
    | some .reference => if value.isObject then referenceParts value.members else []
    | some .globalField => if value.isObject then referenceParts value.members else []
    | _ => [value]

/-- The parts of several values that are written, up to the first value without a rendering. -/
def scalarsParts (options : RenderOptions) (kind : Option FieldKind) : List Json → List Json
  | [] => []
  | value :: rest =>
    scalarParts options kind value ++
      match scalar options kind value with
      | .ok _ => scalarsParts options kind rest
      | .error _ => []

/-- The texts that name the terms of a taxonomy. -/
def termParts (terms : List Json) : List Json :=
  (terms.filter Json.isObject).map fun term =>
    (Members.get? term.members "term_uid").getD (.str "")

end Rendering

open Rendering

/-! ## Values of fields -/

/-- The parts of the value of a field that are written, up to the first one without a rendering.
Rich text is written by its nodes. -/
def FieldInfo.writtenParts (options : RenderOptions) (field : FieldInfo) (value : Json) :
    List Json :=
  if value.isEmptyValue || field.isJsonRte then []
  else
    match field.kind with
    | some .text =>
      match value with
      | .arr items => items
      | value => [value]
    | some .taxonomy =>
      match value with
      | .arr items => termParts items
      | value => termParts [value]
    | some .json => [value]
    | kind =>
      match value with
      | .arr items => scalarsParts options kind items
      | value => scalarParts options kind value

/-- Refuses the value of a field that cannot be written. -/
def FieldInfo.checkWritten (room : Nat) (options : RenderOptions) (field : FieldInfo)
    (value : Json) : Except RenderError Unit :=
  if field.isJsonRte then RichText.checkWritten room value
  else checkAll room (field.writtenParts options value)

namespace Rendering

/-- The value of a field, unless it cannot be written. -/
def primitiveWithin (room : Nat) (options : RenderOptions) (field : FieldInfo) (value : Json) :
    Except RenderError Json := do
  field.checkWritten room options value
  primitive options field value

/-- Refuses a value that cannot be put into a table cell. -/
def checkCell (room : Nat) (options : RenderOptions) (field : FieldInfo) (value : Json) :
    Except RenderError Unit := do
  let rendered ← primitiveWithin room options field value
  let _ ← cellText rendered

/-- Refuses a value that cannot be put into a line. -/
def checkLine (room : Nat) (options : RenderOptions) (field : FieldInfo) (value : Json) :
    Except RenderError Unit := do
  let rendered ← primitiveWithin room options field value
  rendered.checkWritten room

/-! ## Groups and blocks -/

/-- Refuses a field in the table of a group. -/
def checkRow (room : Nat) (options : RenderOptions) (members : Members) (field : Field) :
    Except RenderError Unit :=
  let value := valueOf members field.uid
  if hidden options field.uid || skipped options value then .ok ()
  else if field.kind = some .file && hasUrl value && isImage value then
    (valueOf value.members "url").checkWritten room
  else checkCell room options field.toFieldInfo value

/-- Refuses an instance of a repeatable group. -/
def checkInstance (room : Nat) (options : RenderOptions) (fields : List Field) (item : Json) :
    Except RenderError Unit :=
  (columns options fields).forM fun field =>
    checkCell room options field.toFieldInfo (valueOf item.members field.uid)

/-- Refuses a field of a block. -/
def checkBlockField (room : Nat) (options : RenderOptions) (members : Members)
    (title : Option String) (field : Field) : Except RenderError Unit :=
  let value := valueOf members field.uid
  if hidden options field.uid || title == some field.uid || skipped options value then .ok ()
  else checkLine room options field.toFieldInfo value

/-- The parts of a quotation block that are written. -/
def quoteParts (members : Members) : List Json :=
  let quote := valueOf members "quote_text"
  let source := valueOf members "attribution"
  if quote.isTruthy then quote :: if source.isTruthy then [source] else [] else []

/-- The parts of the payload of a shared field that are written: its title, or else its uid. -/
def sharedParts (payload : Json) : List Json :=
  if payload.isObject then
    [orElse (valueOf payload.members "title") (valueOf payload.members "uid")]
  else []

/-- Refuses a block. -/
def checkBlock (room : Nat) (options : RenderOptions) (key : String)
    (definition : BlockDefinition) (payload : Json) : Except RenderError Unit :=
  if key = "quote" then checkAll room (quoteParts payload.members)
  else if definition.isReference then checkAll room (sharedParts payload)
  else
    let title := definition.titleField.map fun field => field.uid
    definition.fields.forM (checkBlockField room options payload.members title)

/-- Refuses an item of a blocks field. -/
def checkItem (room : Nat) (options : RenderOptions) (definitions : List BlockDefinition)
    (item : Json) : Except RenderError Unit :=
  match BlockMatch.of item definitions with
  | .variant key _ definition payload => checkBlock room options key definition payload
  | .unknown _ _ => .ok ()

/-- The items of a list; other values have none. -/
def itemsOf : Json → List Json
  | .arr items => items
  | _ => []

/-- The calls that a group within a group takes. -/
def callsPerGroup : Nat := 2

end Rendering

mutual

/-- Refuses a group or blocks field. -/
def Field.checkStructured (options : RenderOptions) (room : Nat) (value : Json) :
    Field → Except RenderError Unit
  | ⟨info, fields, blocks⟩ =>
    if info.isBlocks then (itemsOf value).forM (checkItem room options blocks)
    else if info.multiple then (itemsOf value).forM (checkInstance room options fields)
    else if (fields.any fun child => child.isGroup || child.isBlocks)
        || !options.useTables then Field.checkLines options room value.members fields
    else fields.forM (checkRow room options value.members)

/-- Refuses the fields of a group that is shown as sections. -/
def Field.checkLines (options : RenderOptions) (room : Nat) (members : Members) :
    List Field → Except RenderError Unit
  | [] => .ok ()
  | field :: rest =>
    let value := valueOf members field.uid
    if hidden options field.uid || skipped options value then
      Field.checkLines options room members rest
    else if field.isGroup || field.isBlocks then
      if callsPerGroup ≤ room then do
        Field.checkStructured options (room - callsPerGroup) value field
        Field.checkLines options room members rest
      else .error .stackExhausted
    else do
      checkLine room options field.toFieldInfo value
      Field.checkLines options room members rest

end

namespace Rendering

/-- Refuses a field of an entry that is shown. The rendering of a file is handed on as it is. -/
def checkAlone (room : Nat) (options : RenderOptions) (value : Json) (field : Field) :
    Except RenderError Unit :=
  if field.isGroup || field.isBlocks then field.checkStructured options room value
  else if field.kind = some .file then do
    let _ ← primitiveWithin room options field.toFieldInfo value
  else checkLine room options field.toFieldInfo value

/-- Refuses a field of an entry. -/
def checkField (room : Nat) (options : RenderOptions) (members : Members) (field : Field) :
    Except RenderError Unit :=
  let value := valueOf members field.uid
  if field.uid = options.titleField || field.uid = options.descriptionField
      || hidden options field.uid || skipped options value then .ok ()
  else checkAlone room options value field

end Rendering

/-- The Markdown document of an entry, if nothing that is written meets the limits. -/
def ContentType.renderWithin (room : Nat) (contentType : ContentType) (options : RenderOptions)
    (entry : Json) : Except RenderError String := do
  contentType.fields.forM (checkField room options entry.members)
  contentType.render options entry

/-- The calls that the stack has left when a rendering begins. -/
def defaultRoom : Nat := 980

end ContentModel
