import ContentModel.Rendering.Primitive
import ContentModel.Schema.Reader
import ContentModel.Schema.Variant

/-!
# Rendering entries

Entries as Markdown documents, walked in step with their content type.

* `Rendering.groupTable`, `Rendering.groupLines` and `Rendering.instanceTable` show groups as
  two-column tables, as sections and, when they are repeatable, as one table;
* `Rendering.blocksText` shows modular blocks as sections separated by rules;
* `Field.structured` shows a group or blocks field;
* `ContentType.render` is the document of an entry.
-/

namespace ContentModel

namespace Rendering

/-- A value that begins with a name and a colon. -/
def labelled (label : String) (rendered : Json) : String :=
  "**" ++ (label ++ (":** " ++ rendered.display))

/-- Whether a field is not shown. -/
def hidden (options : RenderOptions) (uid : String) : Bool :=
  isSystemField uid && !options.includeSystemFields

/-- Whether a value is left out. -/
def skipped (options : RenderOptions) (value : Json) : Bool :=
  options.skipEmpty && value.isEmptyValue

/-! ## Simple groups -/

/-- The images above the table of a group, and its rows. -/
structure TableParts where
  images : List String := []
  rows : List String := []

/-- The row of a field in the table of a group. -/
def fieldRow (label : String) (cell : String) : String :=
  "| **" ++ (Markdown.escapeCell label ++ ("** | " ++ (cell ++ " |")))

/-- The images and rows of the fields of a group. -/
def tableParts (options : RenderOptions) (members : Members) :
    List Field → Except RenderError TableParts
  | [] => .ok {}
  | field :: rest =>
    let value := valueOf members field.uid
    if hidden options field.uid || skipped options value then tableParts options members rest
    else if field.kind = some .file && hasUrl value && isImage value then do
      let parts ← tableParts options members rest
      let image :=
        "![" ++ (field.label ++ ("](" ++ ((valueOf value.members "url").display ++ ")")))
      return { parts with images := image :: parts.images }
    else do
      let rendered ← primitive options field.toFieldInfo value
      if rendered.isTruthy then
        let cell ← cellText rendered
        let parts ← tableParts options members rest
        return { parts with rows := fieldRow field.label cell :: parts.rows }
      else tableParts options members rest

/-- The images above the table and the table, each if there is something in it. -/
def TableParts.text (parts : TableParts) : String :=
  let images := if parts.images.isEmpty then [] else [Text.joinWith "\n\n" parts.images, ""]
  let table :=
    if parts.rows.isEmpty then []
    else [Text.joinWith "\n" ("| Field | Value |" :: "|-------|-------|" :: parts.rows)]
  Text.joinWith "\n" (images ++ table)

/-- A group as a table with a row for each field. -/
def groupTable (options : RenderOptions) (members : Members) (fields : List Field) :
    Except RenderError String := do
  let parts ← tableParts options members fields
  return parts.text

/-! ## Repeatable groups -/

/-- The fields of a repeatable group that have a column. -/
def columns (options : RenderOptions) (fields : List Field) : List Field :=
  fields.filter fun field =>
    !isSystemField field.uid
      && (options.includeSystemFields || field.uid.toList.head? != some '_')

/-- The cells of an instance of a repeatable group. -/
def instanceCells (options : RenderOptions) (members : Members) :
    List Field → Except RenderError (List String)
  | [] => .ok []
  | field :: rest => do
    let value := valueOf members field.uid
    let cell ←
      if value.isEmptyValue then .ok ""
      else (primitive options field.toFieldInfo value).bind cellText
    let others ← instanceCells options members rest
    return cell :: others

/-- The rows of the instances of a repeatable group. -/
def instanceRows (options : RenderOptions) (fields : List Field) :
    List Json → Except RenderError (List String)
  | [] => .ok []
  | item :: rest => do
    let cells ← instanceCells options item.members fields
    let others ← instanceRows options fields rest
    return Markdown.tableRow cells :: others

/-- A repeatable group as a table with a column for each field and a row for each instance. -/
def instanceTable (options : RenderOptions) (fields : List Field) (value : Json) :
    Except RenderError String :=
  match value with
  | .arr [] => .ok ""
  | .arr items =>
    let shown := columns options fields
    if shown.isEmpty then .ok ""
    else do
      let rows ← instanceRows options shown items
      return Text.joinWith "\n"
        (Markdown.tableRow (shown.map fun field => field.label)
          :: Markdown.separatorRow shown.length :: rows)
  | _ => .ok ""

/-! ## Modular blocks -/

/-- Texts longer than this are quoted inside blocks. -/
def longText : Nat := 100

/-- The heading of a block: its name, and the value of its title field. -/
def blockHeading (definition : BlockDefinition) (members : Members) (level : Int) : String :=
  match definition.titleField.map fun field => valueOf members field.uid with
  | some (.str title) =>
    if title.isEmpty then Markdown.heading definition.label level
    else Markdown.heading (definition.label ++ (": " ++ title)) level
  | _ => Markdown.heading definition.label level

/-- The lines of a quotation block below its heading. -/
def quoteLines (members : Members) : List String :=
  let quote := valueOf members "quote_text"
  let source := valueOf members "attribution"
  if quote.isTruthy then
    ("> *\"" ++ (quote.display ++ "\"*"))
      :: ((if source.isTruthy then [">", "> — **" ++ (source.display ++ "**")] else []) ++ [""])
  else []

/-- The lines of a block that stands for a shared field, below its heading. -/
def referenceLines (definition : BlockDefinition) (payload : Json) : List String :=
  let reference := if payload.isObject then referenceText payload.members else .str ""
  if reference.isTruthy then [labelled definition.label reference, ""] else []

/-- The line of a field of a block. -/
def blockFieldLine (field : FieldInfo) (value rendered : Json) : String :=
  if field.kind = some .file && hasUrl value then rendered.display
  else if field.isJsonRte then Markdown.blockquote rendered.display
  else if field.metadata.multiline
      || (field.kind = some .text && longText < rendered.display.length) then
    "> " ++ rendered.display
  else labelled field.label rendered

/-- The lines of the fields of a block, the title field left out. -/
def blockFieldLines (options : RenderOptions) (members : Members) (title : Option String) :
    List Field → Except RenderError (List String)
  | [] => .ok []
  | field :: rest =>
    let value := valueOf members field.uid
    if hidden options field.uid || title == some field.uid || skipped options value then
      blockFieldLines options members title rest
    else do
      let rendered ← primitive options field.toFieldInfo value
      let others ← blockFieldLines options members title rest
      return if rendered.isTruthy then
          blockFieldLine field.toFieldInfo value rendered :: "" :: others
        else others

/-- The lines of a block. -/
def blockLines (options : RenderOptions) (level : Int) (key : String)
    (definition : BlockDefinition) (payload : Json) : Except RenderError (List String) := do
  let members := payload.members
  let top := [blockHeading definition members level, ""]
  if key = "quote" then return top ++ quoteLines members
  else if definition.isReference then return top ++ referenceLines definition payload
  else
    let title := definition.titleField.map fun field => field.uid
    let lines ← blockFieldLines options members title definition.fields
    return top ++ lines

/-- The lines of the items that are recognised, item by item. -/
def blockSections (options : RenderOptions) (level : Int) (definitions : List BlockDefinition) :
    List Json → Except RenderError (List (List String))
  | [] => .ok []
  | item :: rest =>
    match BlockMatch.of item definitions with
    | .variant key _ definition payload => do
      let lines ← blockLines options level key definition payload
      let others ← blockSections options level definitions rest
      return lines :: others
    | .unknown _ _ => blockSections options level definitions rest

/-- Sections one below the other, each with a rule and an empty line below it. -/
def ruledLines (sections : List (List String)) : List String :=
  sections.flatMap fun lines => lines ++ ["---", ""]

/-- Lines without the last but one, if that is a rule. -/
def dropLastRule (lines : List String) : List String :=
  if 2 ≤ lines.length ∧ lines[lines.length - 2]? = some "---" then
    lines.eraseIdx (lines.length - 2)
  else lines

/-- The value of a blocks field, a section for each item that is recognised. -/
def blocksText (options : RenderOptions) (level : Int) (definitions : List BlockDefinition)
    (value : Json) : Except RenderError String :=
  match value with
  | .arr items => do
    let sections ← blockSections options level definitions items
    return Text.strip (Text.joinWith "\n" (dropLastRule (ruledLines sections)))
  | _ => .ok ""

/-- The lines of a field of a group that is shown as sections. -/
def groupFieldLines (field : FieldInfo) (value rendered : Json) : List String :=
  if field.kind = some .file && hasUrl value then [rendered.display, ""]
  else if field.isJsonRte then
    ["**" ++ (field.label ++ ":**"), "", rendered.display, ""]
  else [labelled field.label rendered, ""]

end Rendering

open Rendering

mutual

/-- A group or blocks field whose heading has the given level. -/
def Field.structured (options : RenderOptions) (level : Int) (value : Json) :
    Field → Except RenderError String
  | ⟨info, fields, blocks⟩ =>
    if info.isBlocks then blocksText options (level + 1) blocks value
    else if info.multiple then instanceTable options fields value
    else if (fields.any fun child => child.isGroup || child.isBlocks)
        || !options.useTables then do
      let lines ← Field.groupLines options (level + 1) value.members fields
      return Text.strip (Text.joinWith "\n" lines)
    else groupTable options value.members fields

/-- The lines of the fields of a group that is shown as sections. -/
def Field.groupLines (options : RenderOptions) (level : Int) (members : Members) :
    List Field → Except RenderError (List String)
  | [] => .ok []
  | field :: rest =>
    let value := valueOf members field.uid
    if hidden options field.uid || skipped options value then
      Field.groupLines options level members rest
    else if field.isGroup || field.isBlocks then do
      let text ← Field.structured options level value field
      let others ← Field.groupLines options level members rest
      return Markdown.heading field.label level :: "" :: text
        :: ((if field.isGroup then [""] else []) ++ others)
    else do
      let rendered ← primitive options field.toFieldInfo value
      let others ← Field.groupLines options level members rest
      return (if rendered.isTruthy then groupFieldLines field.toFieldInfo value rendered else [])
        ++ others

end

namespace Rendering

/-- The lines of a field of an entry that is neither group nor blocks. -/
def entryFieldLines (field : FieldInfo) (level : Int) (rendered : Json) : List Json :=
  if field.kind = some .file || field.isJsonRte then
    [.str "---", .str "", .str (Markdown.heading field.label level), .str "", rendered, .str ""]
  else if field.multiple && field.kind = some .text then
    [.str "---", .str "", .str (labelled field.label rendered), .str ""]
  else [.str (labelled field.label rendered), .str ""]

/-- The lines of one field of an entry. -/
def entryField (options : RenderOptions) (value : Json) (field : Field) :
    Except RenderError (List Json) :=
  if field.isGroup || field.isBlocks then do
    let text ← field.structured options options.sectionLevel value
    return [.str "---", .str "", .str (Markdown.heading field.label options.sectionLevel),
      .str "", .str text, .str ""]
  else do
    let rendered ← primitive options field.toFieldInfo value
    return if rendered.isTruthy then
        entryFieldLines field.toFieldInfo options.sectionLevel rendered
      else []

/-- The lines of the fields of an entry. -/
def entryFields (options : RenderOptions) (members : Members) :
    List Field → Except RenderError (List Json)
  | [] => .ok []
  | field :: rest =>
    let value := valueOf members field.uid
    if field.uid = options.titleField || field.uid = options.descriptionField
        || hidden options field.uid || skipped options value then
      entryFields options members rest
    else do
      let lines ← entryField options value field
      let others ← entryFields options members rest
      return lines ++ others

/-- The line that a member makes up and an empty line, if the member is a nonempty text. -/
def textLines (members : Members) (key : String) (line : String → String) : List Json :=
  match members.get? key with
  | some (.str text) => if text.isEmpty then [] else [.str (line text), .str ""]
  | _ => []

/-- The heading of an entry, if its title is a nonempty text. -/
def titleLines (options : RenderOptions) (members : Members) : List Json :=
  textLines members options.titleField fun title => Markdown.heading title options.headingLevel

/-- The quotation below the heading, if the description is a nonempty text. -/
def descriptionLines (options : RenderOptions) (members : Members) : List Json :=
  textLines members options.descriptionField fun description => "> " ++ description

end Rendering

/-- The Markdown document of an entry. -/
def ContentType.render (contentType : ContentType) (options : RenderOptions) (entry : Json) :
    Except RenderError String := do
  let members := entry.members
  let fields ← entryFields options members contentType.fields
  let text ← joinTexts "\n"
    (titleLines options members ++ descriptionLines options members ++ fields)
  return Text.strip text

end ContentModel
