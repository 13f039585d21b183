import ContentModel.Issue.Finding
import ContentModel.Numeric.IntegerText

/-!
# Decoding values

The decoders that definitions are read with. They collect all findings.

* `Decode.text`, `Decode.boolean` and `Decode.integer` read single values; the latter two also
  take texts and numbers that stand for one;
* `Decode.optional` and `Decode.listOf` build on other decoders;
* `Decode.required` and `Decode.member` read a member of an object, and `Decode.extras` keeps
  the others.
-/

namespace ContentModel.Decode

variable {α : Type}

/-- A string. -/
def text : Json → Checked String
  | .str s => .valid s
  | _ => .problem .notAString

/-- The truth value that a text stands for; the case of its letters does not matter. -/
def booleanWord? (s : String) : Option Bool :=
  let word := Numeral.lowerAscii s.toList
  if ["1", "true", "t", "yes", "y", "on"].any (·.toList == word) then some true
  else if ["0", "false", "f", "no", "n", "off"].any (·.toList == word) then some false
  else none

/-- The first natural number that does not fit into a word of 64 bits with a sign. -/
def wordLimit : Nat := Nat.pow 2 63

/-- Whether a number fits into a word of 64 bits with a sign. -/
def isWord (n : Int) : Bool := -wordLimit ≤ n && n < wordLimit

/-- The truth value that an integer stands for. Integers beyond a word are not read as such. -/
def integerBoolean (n : Int) : Checked Bool :=
  if n = 0 then .valid false
  else if n = 1 then .valid true
  else if isWord n then .problem .unreadableBoolean
  else .problem .notABoolean

/-- A truth value, or a number or text that stands for one. Of the floating-point numbers those
count that equal an integer. -/
def boolean : Json → Checked Bool
  | .bool b => .valid b
  | .int n => integerBoolean n
  | .float x =>
    match x with
    | .finite .. =>
      if x.isIntegral && -wordLimit < x.truncated then integerBoolean x.truncated
      else .problem .notABoolean
    | _ => .problem .notABoolean
  | .str s =>
    match booleanWord? s with
    | some b => .valid b
    | none => .problem .unreadableBoolean
  | _ => .problem .notABoolean

/-- The integer that a floating-point number without fraction equals, within 64 bits. -/
def wholeFloat (x : Binary64) : Checked Int :=
  match x with
  | .finite .. =>
    if !x.isIntegral then .problem .fractionalInteger
    else if x.truncated.natAbs < wordLimit then .valid x.truncated
    else .problem .integerTooLong
  | _ => .problem .infiniteInteger

/-- An integer, or a number, truth value or text that stands for one. -/
def integer : Json → Checked Int
  | .int n => .valid n
  | .bool b => .valid (if b then 1 else 0)
  | .float x => wholeFloat x
  | .str s =>
    match IntegerText.read s with
    | .number n => .valid n
    | .tooLong => .problem .integerTooLong
    | .unreadable => .problem .unreadableInteger
  | _ => .problem .notAnInteger

/-- Null, or what a decoder reads. -/
def optional (decode : Json → Checked α) : Json → Checked (Option α)
  | .null => .valid none
  | value => some <$> decode value

/-- What a decoder reads, null standing for a default. -/
def orDefault (default : α) (decode : Json → Checked α) : Json → Checked α
  | .null => .valid default
  | value => decode value

/-- The items of a list from an index on. -/
def itemsFrom (decode : Json → Checked α) : (index : Nat) → List Json → Checked (List α)
  | _, [] => .valid []
  | index, item :: rest =>
    List.cons <$> (decode item).under (.index index) <*> itemsFrom decode (index + 1) rest

/-- A list of what a decoder reads. -/
def listOf (decode : Json → Checked α) : Json → Checked (List α)
  | .arr items => itemsFrom decode 0 items
  | _ => .problem .notAList

/-- A member that must be there. -/
def required (members : Members) (key : String) (decode : Json → Checked α) : Checked α :=
  match members.get? key with
  | some value => (decode value).under (.key key)
  | none => .invalid [⟨[.key key], .missing⟩]

/-- A member that may be absent. -/
def member (members : Members) (key : String) (default : α) (decode : Json → Checked α) :
    Checked α :=
  match members.get? key with
  | some value => (decode value).under (.key key)
  | none => .valid default

/-- The key that a member of two spellings is read under: the first one if it is there. -/
def spelling (members : Members) (key other : String) : String :=
  if members.has key then key else other

/-- The members under other keys. -/
def extras (members : Members) (keys : List String) : Members :=
  members.filter fun pair => !keys.contains pair.1

/-- A nullable text member. -/
def optionalText (members : Members) (key : String) : Checked (Option String) :=
  member members key none (optional text)

/-- A truth value, false when it is absent or null. -/
def flag (members : Members) (key : String) : Checked Bool :=
  member members key false (orDefault false boolean)

end ContentModel.Decode
