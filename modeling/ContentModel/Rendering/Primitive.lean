import ContentModel.Json.Emptiness
import ContentModel.Json.Printer
import ContentModel.Numeric.Numeral
import ContentModel.Rendering.Options
import ContentModel.RichText.Markdown
import ContentModel.Schema.Basic

/-!
# Rendering single values

How the values of fields without nested definitions are shown.

* `Rendering.scalar` shows one value by the data type of its field, `Rendering.primitive` the
  value of a field, lists included;
* `RenderError` lists what can stop a rendering.

The rendering of a link, file or reference may be the title in the entry itself. Where that is
no text the rendering is a value that is no text, which some places show and others refuse.
-/

namespace ContentModel

/-- What stops a rendering. -/
inductive RenderError
  /-- A title that is no text was to be joined with texts. -/
  | joinedNonText
  /-- A title that is no text was to be put into a table cell. -/
  | cellNonText
  /-- A number is beyond the floating-point range. -/
  | numberTooLarge
  /-- The formatter of dates refused a value. -/
  | formatterFailed
  /-- An integer has too many digits to be written. -/
  | integerTooLong
  /-- A value or group nests too deeply to be written. -/
  | stackExhausted
  deriving DecidableEq, Repr

namespace Rendering

/-- The value under a key, null when there is none. -/
def valueOf (members : Members) (key : String) : Json := (members.get? key).getD .null

/-- The first of two values if it is truthy, else the second. -/
def orElse (first second : Json) : Json := if first.isTruthy then first else second

/-- Texts joined; values that are no texts are refused. -/
def joinTexts (separator : String) (values : List Json) : Except RenderError String :=
  let texts := values.filterMap fun value =>
    match value with
    | .str s => some s
    | _ => none
  if texts.length = values.length then .ok (Text.joinWith separator texts)
  else .error .joinedNonText

/-- A rendering as the text of a table cell. -/
def cellText : Json → Except RenderError String
  | .str s => .ok (Markdown.escapeCell s)
  | _ => .error .cellNonText

/-! ## Values by data type -/

/-- The number that a number field shows: the value, or the number that it writes as a text. -/
def shownNumber? : Json → Option Json
  | .str s => (Numeral.float? s).map .float
  | value => some value

/-- A number, or a text that writes one, in the options' form; other values as text. -/
def numberText (options : RenderOptions) (value : Json) : Except RenderError Json :=
  match (shownNumber? value).map options.formatNumber with
  | some (.ok text) => .ok (.str text)
  | some (.error .tooLarge) => .error .numberTooLarge
  | _ => .ok (.str value.display)

/-- A date in the options' form. -/
def dateText (options : RenderOptions) (value : Json) : Except RenderError Json :=
  match options.formatDate (.str value.display) with
  | .ok text => .ok (.str text)
  | .error _ => .error .formatterFailed

/-- A link as Markdown, or its title when it leads nowhere. -/
def linkText (members : Members) : Json :=
  let title := valueOf members "title"
  let href := valueOf members "href"
  if href.isTruthy then
    .str ("[" ++ ((orElse title href).display ++ ("](" ++ (href.display ++ ")"))))
  else orElse title (.str "")

/-- Whether an asset is an image. -/
def isImage (value : Json) : Bool :=
  match Members.get? value.members "content_type" with
  | some (.str s) => (Text.dropPrefix? "image/".toList s.toList).isSome
  | _ => false

/-- Whether a value has an address. -/
def hasUrl (value : Json) : Bool := (valueOf value.members "url").isTruthy

/-- An asset as an image or link, or its name when it has no address. -/
def assetText (asset : Json) : Json :=
  let name := orElse (valueOf asset.members "title") (valueOf asset.members "filename")
  let url := valueOf asset.members "url"
  if !url.isTruthy then orElse name (.str "")
  else if isImage asset then
    .str ("![" ++ ((orElse name (.str "Image")).display ++ ("](" ++ (url.display ++ ")"))))
  else .str ("[" ++ ((orElse name (.str "File")).display ++ ("](" ++ (url.display ++ ")"))))

/-- The title of a reference, or its uid. -/
def referenceText (members : Members) : Json :=
  orElse (valueOf members "title") (.str ("uid: " ++ (valueOf members "uid").display))

/-- One value by the data type of its field. -/
def scalar (options : RenderOptions) (kind : Option FieldKind) (value : Json) :
    Except RenderError Json :=
  match value with
  | .null => .ok (.str "")
  | value =>
    match kind with
    | some .number => numberText options value
    | some .boolean => .ok (.str (if value.isTruthy then "**Yes**" else "**No**"))
    | some .isodate => dateText options value
    | some .link => .ok (if value.isObject then linkText value.members else .str "")
    | some .file => .ok (if value.isObject then assetText value else .str "")
    | some .reference => .ok (if value.isObject then referenceText value.members else .str "")
    | some .globalField => .ok (if value.isObject then referenceText value.members else .str "")
    | _ => .ok (.str value.display)

/-- Values one by one. -/
def scalars (options : RenderOptions) (kind : Option FieldKind) :
    List Json → Except RenderError (List Json)
  | [] => .ok []
  | value :: rest => do
    let first ← scalar options kind value
    let others ← scalars options kind rest
    return first :: others

/-! ## Values of fields -/

/-- The texts of a text field with several values. -/
def codeSpans (items : List Json) : String :=
  Text.joinWith " · " (items.map fun item => "\x60" ++ (item.display ++ "\x60"))

/-- The terms of a taxonomy field as a list. -/
def termLines (terms : List Json) : String :=
  Text.joinWith "\n" ((terms.filter Json.isObject).map fun term =>
    "- " ++ ((Members.get? term.members "term_uid").getD (.str "")).display)

/-- A value as a fenced block of JSON. -/
def jsonBlock (value : Json) : String :=
  "\x60\x60\x60json\n" ++ (value.indented .unicode ++ "\n\x60\x60\x60")

/-- The value of a field. An empty value is shown as nothing. -/
def primitive (options : RenderOptions) (field : FieldInfo) (value : Json) :
    Except RenderError Json :=
  if value.isEmptyValue then .ok (.str "")
  else
    match field.kind with
    | some .text =>
      match value with
      | .arr items => .ok (.str (codeSpans items))
      | value => .ok (.str value.display)
    | some .taxonomy =>
      match value with
      | .arr items => .ok (.str (termLines items))
      | value => .ok (.str (termLines [value]))
    | some .json =>
      if field.isJsonRte then
        .ok (.str (if value.isObject then RichText.markdown value else ""))
      else .ok (.str (jsonBlock value))
    | kind =>
      match value with
      | .arr items => do
        let texts ← scalars options kind items
        let separator := if kind = some .file then "\n\n" else ", "
        return .str (← joinTexts separator (texts.filter Json.isTruthy))
      | value => scalar options kind value

end Rendering

end ContentModel
