import ContentModel.Json.Basic
import ContentModel.Numeric.Shortest
import ContentModel.Text.Basic
import ContentModel.Text.Quoted

/-!
# JSON values as running text

The text that stands for a value inside a sentence.

* `Json.inspected` quotes strings and is used within lists and objects and for keys;
* `Json.display` shows a string as it is, and every other value as `inspected` does.

These are the texts of all values. Which values a runtime with limits can write is the matter of
those who write them, as renderings do with `Json.checkWritten`.
-/

namespace ContentModel.Json

mutual

/-- A value as text, strings quoted. -/
def inspected : Json → String
  | .null => "None"
  | .bool b => if b then "True" else "False"
  | .int n => Digits.intText n
  | .float x => x.text
  | .str s => Text.quoted s
  | .arr items => "[" ++ (Text.joinWith ", " (inspectedItems items) ++ "]")
  | .obj members => "\x7b" ++ (Text.joinWith ", " (inspectedMembers members) ++ "\x7d")

/-- The texts of the items of a list. -/
def inspectedItems : List Json → List String
  | [] => []
  | item :: rest => inspected item :: inspectedItems rest

/-- The texts of the members of an object. -/
def inspectedMembers : List (String × Json) → List String
  | [] => []
  | (key, value) :: rest =>
    (Text.quoted key ++ (": " ++ inspected value)) :: inspectedMembers rest

end

/-- A value as text, a string as it is. -/
def display : Json → String
  | .str s => s
  | value => inspected value

@[simp] theorem display_str (s : String) : display (.str s) = s := rfl

end ContentModel.Json
