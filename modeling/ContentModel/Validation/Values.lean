import ContentModel.Validation.RichText

/-!
# Value checks

The shapes of the structured values of entries: assets, references, links, taxonomy terms and
the metadata of instances.

* each shape is a `Checker`; all but the taxonomy term keep undeclared members.
-/

namespace ContentModel.ValueShape

/-- A member that must be there and be a nonempty string. -/
def name (key : String) : Slot :=
  { key, handle := key, required := true, checker := .filledText }

/-- A string member that may be absent or null. -/
def optionalText (key : String) : Slot := RichTextShape.optional key .text

/-- An asset. -/
def asset : Checker := .record { name := "Asset" } [name "uid", optionalText "url"]

/-- A reference to another entry. -/
def reference : Checker :=
  .record { name := "Reference" }
    [name "uid",
      { key := "_content_type_uid", otherKey := some "content_type_uid"
        handle := "content_type_uid", checker := Checker.text.nullable }]

/-- A link. -/
def link : Checker := .record { name := "Link" } [optionalText "title", optionalText "href"]

/-- A chosen term of a taxonomy. -/
def taxonomyTerm : Checker :=
  .record { name := "TaxonomyTerm", isOpen := false } [name "taxonomy_uid", name "term_uid"]

/-- The metadata of a group instance or block. -/
def itemMetadata : Checker := .record { name := "ItemMetadata" } [optionalText "uid"]

end ContentModel.ValueShape
