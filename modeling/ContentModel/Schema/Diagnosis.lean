import ContentModel.Json.Display
import ContentModel.Schema.Error

/-!
# Diagnoses

The long report on a value that is no content type: below the sentence of the error, two lines for
each finding, with what was found there.

* `Location.target` is the part of a value that a location leads to;
* `Json.excerpt` shows a value in at most 53 bytes; the parts that are kept fit into their share of
  them (`Json.utf8ByteSize_fitting_le`);
* `ContentTypeError.report` is the report.
-/

namespace ContentModel

/-- The part of a value that a location leads to, or the last part on the way. -/
def Location.target : Location → Json → Json
  | [], value => value
  | .reading _ :: rest, value => Location.target rest value
  | .key name :: rest, .obj members =>
    match Members.get? members name with
    | some value => Location.target rest value
    | none => .obj members
  | .index n :: rest, .arr items =>
    match items[n.toNat]? with
    | some value => Location.target rest value
    | none => .arr items
  | _ :: _, value => value

/-- A step as it stands between dots. -/
def Step.text : Step → String
  | .key name => name
  | .index n => Digits.intText n
  | .flag b => if b then "True" else "False"
  | .reading name => name

namespace Json

/-- The characters at the front of a text that fit into a number of bytes. -/
def fitting : (bytes : Nat) → List Char → List Char
  | _, [] => []
  | bytes, c :: rest =>
    if c.utf8Size ≤ bytes then c :: fitting (bytes - c.utf8Size) rest else []

theorem fitting_isPrefix (bytes : Nat) (text : List Char) : fitting bytes text <+: text := by
  induction text generalizing bytes with
  | nil => simp [fitting]
  | cons c rest ih =>
    rw [fitting]
    split
    · exact List.cons_prefix_cons.2 ⟨rfl, ih _⟩
    · exact List.nil_prefix

theorem utf8ByteSize_fitting_le (bytes : Nat) (text : List Char) :
    (String.ofList (fitting bytes text)).utf8ByteSize ≤ bytes := by
  induction text generalizing bytes with
  | nil => simp [fitting]
  | cons c rest ih =>
    rw [fitting]
    split
    · have := ih (bytes - c.utf8Size)
      rw [String.ofList_cons, String.utf8ByteSize_append, String.utf8ByteSize_singleton]
      omega
    · simp

/-- A text of more than 50 bytes without its middle. -/
def shortened (text : String) : String :=
  if text.utf8ByteSize ≤ 50 then text
  else
    String.ofList (fitting 25 text.toList)
      ++ ("..." ++ String.ofList (fitting 24 text.toList.reverse).reverse)

/-- A value in short. -/
def excerpt (value : Json) : String := shortened value.inspected

/-- The name of the kind of a value. -/
def kindName : Json → String
  | .null => "NoneType"
  | .bool _ => "bool"
  | .int _ => "int"
  | .float _ => "float"
  | .str _ => "str"
  | .arr _ => "list"
  | .obj _ => "dict"

end Json

/-- The lines for a finding in a value: its location, and the problem with what was found there. -/
def Finding.report (value : Json) (finding : Finding) : List String :=
  let found := finding.location.target value
  [Text.joinWith "." (finding.location.map Step.text),
    "  " ++ (finding.problem.message ++ (" [type=" ++ (finding.problem.code
      ++ (", input_value=" ++ (found.excerpt ++ (", input_type=" ++ (found.kindName ++ "]")))))))]

namespace ContentTypeError

/-- The findings of an error. -/
def findings : ContentTypeError → List Finding
  | .malformed findings => findings
  | _ => []

/-- The long report on an error in a value. -/
def report (value : Json) (error : ContentTypeError) : String :=
  Text.joinWith "\n" (error.message :: error.findings.flatMap (Finding.report value))

end ContentTypeError

end ContentModel
