import ContentModel.Json.Basic
import ContentModel.Text.Blank

/-!
# Empty values

* `Json.isEmptyValue` holds of null, blank texts and empty lists.
-/

namespace ContentModel.Json

/-- Whether a value is null, a text of blanks only, or an empty list. -/
def isEmptyValue : Json → Bool
  | .null => true
  | .str s => s.toList.all Text.isBlank
  | .arr items => items.isEmpty
  | _ => false

theorem isEmptyValue_str (s : String) :
    isEmptyValue (.str s) = s.toList.all Text.isBlank := rfl

end ContentModel.Json
