import ContentModel.Rendering.Formatter
import ContentModel.Schema.Decoder

/-!
# Rendering options

* `RenderOptions` are the settings of a rendering, each with a default;
* `RenderOptions.override` changes some of them by the members of an object, and
  `RenderOptions.read` does so from the defaults.
-/

namespace ContentModel

/-- The settings of a rendering. -/
structure RenderOptions where
  /-- The level of the heading of the entry, from one to six. -/
  headingLevel : Int := 1
  formatDate : Formatter := Formatter.date
  formatNumber : Formatter := Formatter.number
  /-- Empty values are left out. -/
  skipEmpty : Bool := true
  /-- The fields of the content management system are shown. -/
  includeSystemFields : Bool := false
  /-- Simple groups are shown as tables. -/
  useTables : Bool := true
  /-- The field shown as the main heading. -/
  titleField : String := "title"
  /-- The field quoted below the main heading. -/
  descriptionField : String := "meta_description"

namespace RenderOptions

/-- The level of the headings of fields. -/
def sectionLevel (options : RenderOptions) : Int := options.headingLevel + 1

/-- Reads the level of a heading. -/
def readLevel (value : Json) : Checked Int :=
  match Decode.integer value with
  | .valid n =>
    if n < 1 then .problem (.belowLeast 1)
    else if 6 < n then .problem (.aboveGreatest 6)
    else .valid n
  | .invalid findings => .invalid findings

/-- Reads a formatter, given the functions that texts name. -/
def readFormatter (functions : String → Option Formatter) : Json → Checked Formatter
  | .str name =>
    match functions name with
    | some formatter => .valid formatter
    | none => .problem .notCallable
  | _ => .problem .notCallable

/-- The settings after changes, given the functions that texts name. -/
def override (functions : String → Option Formatter) (options : RenderOptions)
    (changes : Members) : Checked RenderOptions :=
  (fun headingLevel formatDate formatNumber skipEmpty includeSystemFields useTables titleField
      descriptionField =>
      { headingLevel, formatDate, formatNumber, skipEmpty, includeSystemFields, useTables
        titleField, descriptionField })
    <$> Decode.member changes "heading_level" options.headingLevel readLevel
    <*> Decode.member changes "format_date" options.formatDate (readFormatter functions)
    <*> Decode.member changes "format_number" options.formatNumber (readFormatter functions)
    <*> Decode.member changes "skip_empty" options.skipEmpty Decode.boolean
    <*> Decode.member changes "include_system_fields" options.includeSystemFields
          Decode.boolean
    <*> Decode.member changes "use_tables" options.useTables Decode.boolean
    <*> Decode.member changes "title_field" options.titleField Decode.text
    <*> Decode.member changes "description_field" options.descriptionField Decode.text

/-- Settings given by the members of an object. -/
def read (functions : String → Option Formatter) (members : Members) : Checked RenderOptions :=
  override functions {} members

end RenderOptions

end ContentModel
