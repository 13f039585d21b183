import ContentModel.Issue.Finding

/-!
# Errors of content types

Why a value is no content type.

* `ContentTypeError` lists the causes, `ContentTypeError.message` says each in one line.
-/

namespace ContentModel

/-- Why a value is no content type. -/
inductive ContentTypeError
  /-- It is not an object with a list of fields. -/
  | noFieldList
  /-- Some of its definitions are malformed. -/
  | malformed (findings : List Finding)
  /-- Groups and blocks are nested deeper than is allowed. -/
  | tooDeep
  deriving DecidableEq

namespace ContentTypeError

/-- The deepest level at which a field may be nested. -/
def maxDepth : Nat := 64

/-- The sentence that reports a cause. -/
def message : ContentTypeError → String
  | .noFieldList => "Invalid Contentstack content type schema: missing 'schema' field list"
  | .malformed findings =>
    "Invalid Contentstack content type schema: " ++ (Digits.intText findings.length
      ++ ((if findings.length = 1 then " validation error" else " validation errors")
      ++ " for ContentType"))
  | .tooDeep =>
    "Content type schema nests deeper than " ++ (Digits.intText maxDepth ++ " levels")

end ContentTypeError

end ContentModel
