import ContentModel.Json.Basic

/-!
# Equality of JSON values

When an entry's value equals a choice of its field.

* `Json.looselyEquals` compares by numeric value: an integer equals the float of its value, true
  equals one and false equals zero, at every depth; the order of members does not count;
* `Json.isChoice` asks besides that both values be booleans or neither.
-/

namespace ContentModel.Json

mutual

/-- Whether two values are equal, numbers by their numeric value and booleans as numbers. -/
def looselyEquals : Json → Json → Bool
  | .null, .null => true
  | .bool a, .bool b => a == b
  | .bool a, .int n => n == (if a then 1 else 0)
  | .bool a, .float x => x.equalsInt (if a then 1 else 0)
  | .int n, .bool b => n == (if b then 1 else 0)
  | .int n, .int m => n == m
  | .int n, .float x => x.equalsInt n
  | .float x, .bool b => x.equalsInt (if b then 1 else 0)
  | .float x, .int n => x.equalsInt n
  | .float x, .float y => x.sameValue y
  | .str s, .str t => s == t
  | .arr as, .arr bs => itemsEqual as bs
  | .obj as, .obj bs => as.length == bs.length && membersEqual as bs
  | _, _ => false

/-- Whether two lists of values are equal item by item. -/
def itemsEqual : List Json → List Json → Bool
  | [], [] => true
  | a :: as, b :: bs => looselyEquals a b && itemsEqual as bs
  | _, _ => false

/-- Whether every member has an equal one under its key among the others. -/
def membersEqual : List (String × Json) → List (String × Json) → Bool
  | [], _ => true
  | (key, a) :: as, others =>
    (match Members.get? others key with
      | some b => looselyEquals a b
      | none => false) && membersEqual as others

end

/-- Whether a value is a boolean. -/
def isBool : Json → Bool
  | .bool _ => true
  | _ => false

/-- Whether a value is one of the choices: equal to it, and a boolean just when it is one. -/
def isChoice (value : Json) (choices : List Json) : Bool :=
  choices.any fun choice => looselyEquals value choice && isBool value == isBool choice

end ContentModel.Json
