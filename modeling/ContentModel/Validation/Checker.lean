import ContentModel.Issue.Finding
import ContentModel.Calendar.Iso
import ContentModel.Json.Equality
import ContentModel.Pattern.Format
import ContentModel.Schema.Variant

/-!
# Checkers

What is found in a value, and the value that comes out when nothing is.

* `Checker` pairs the two; `Checker.accepts` says that nothing is found;
* `Checker.leaf` makes a checker that takes a value as it is or names one problem;
* `Checker.nullable` and `Checker.list` build on other checkers;
* `Checker.record` reads the members of an object into `Slot`s, in the order of the slots.
-/

namespace ContentModel

/-- A check on values. -/
structure Checker where
  /-- What is wrong with a value, in order. -/
  findings : Json → List Finding
  /-- The value that comes out of one in which nothing was found. -/
  value : Json → Json

namespace Checker

/-- Whether nothing is wrong with a value. -/
def accepts (checker : Checker) (value : Json) : Bool := (checker.findings value).isEmpty

/-- A check that finds at most one problem and leaves values as they are. -/
def leaf (problem? : Json → Option Problem) : Checker where
  findings value := (problem? value).toList.map .here
  value := id

@[simp] theorem leaf_value (problem? : Json → Option Problem) (value : Json) :
    (leaf problem?).value value = value := rfl

theorem leaf_findings_eq_nil {problem? : Json → Option Problem} {value : Json} :
    (leaf problem?).findings value = [] ↔ problem? value = none := by
  cases h : problem? value <;> simp [leaf, h]

/-! ## Single values -/

/-- Takes everything. -/
def any : Checker := leaf fun _ => none

/-- Takes strings for which nothing is wrong. -/
def textWith (problem? : String → Option Problem) : Checker :=
  leaf fun
    | .str s => problem? s
    | _ => some .notAString

/-- Takes strings. -/
def text : Checker := textWith fun _ => none

/-- Takes strings that are not empty. -/
def filledText : Checker := textWith fun s => if s.isEmpty then some .emptyString else none

/-- Takes integers and floating-point numbers. -/
def number : Checker :=
  leaf fun
    | .int _ => none
    | .float _ => none
    | _ => some .notANumber

/-- Takes true and false. -/
def boolean : Checker :=
  leaf fun
    | .bool _ => none
    | _ => some .notABoolean

/-- Takes values that equal a choice. -/
def choice (choices : List Json) : Checker :=
  leaf fun value => if value.isChoice choices then none else some (.notAChoice choices)

/-- Takes strings in which a format is found. -/
def pattern (format : Format) : Checker :=
  textWith fun s => if format.accepts s then none else some (.patternMismatch format.source)

/-- Takes dates, and dates with a time, in the plain written form. -/
def isoDate : Checker := textWith fun s => if Iso.isIsoDate s then none else some .notADate

/-- Takes UTC timestamps from a first instant to a last one, either of which may be missing. -/
def timestamp (first last : Option Instant) : Checker :=
  textWith fun s =>
    match (if Iso.isTimestamp s then Iso.readInstant s else .nothing) with
    | .instant t =>
      if (first.map t.before).getD false || (last.map fun l => l.before t).getD false then
        some .dateOutOfRange
      else none
    | _ => some .notATimestamp

/-- Takes the type of the root of a rich text. -/
def documentType : Checker := textWith fun s => if s = "doc" then none else some .notADocument

/-- Takes objects. -/
def mapping : Checker :=
  leaf fun
    | .obj _ => none
    | _ => some .notAMapping

/-! ## Null and lists -/

/-- Takes null, and what another checker takes. -/
def nullable (checker : Checker) : Checker where
  findings
    | .null => []
    | value => checker.findings value
  value
    | .null => .null
    | value => checker.value value

/-- What is found in the items of a list from an index on. -/
def itemFindings (findings : Json → List Finding) : (index : Nat) → List Json → List Finding
  | _, [] => []
  | index, item :: rest =>
    (findings item).map (.under (.index index)) ++ itemFindings findings (index + 1) rest

/-- Whether a number is above a bound. -/
def exceeds (n : Nat) : Option Nat → Bool
  | none => false
  | some bound => bound < n

/-- Takes lists of what another checker takes. In a list that is too long nothing else is looked
at. -/
def list (most : Option Nat) (checker : Checker) : Checker where
  findings
    | .arr items =>
      if exceeds items.length most then [.here (.tooLong (most.getD 0) items.length)]
      else itemFindings checker.findings 0 items
    | _ => [.here .notAList]
  value
    | .arr items => .arr (items.map checker.value)
    | value => value

end Checker

/-! ## Records -/

/-- A declared member of a record. -/
structure Slot where
  /-- The key that the member comes out under. -/
  key : String
  /-- A second key that it may be given under. -/
  otherKey : Option String := none
  /-- The name of the slot within its record. -/
  handle : String
  required : Bool := false
  checker : Checker

namespace Slot

/-- The key that a slot is given under, and its value. -/
def read (slot : Slot) (members : Members) : Option (String × Json) :=
  match members.get? slot.key with
  | some value => some (slot.key, value)
  | none => slot.otherKey.bind fun key => (members.get? key).map fun value => (key, value)

/-- What is found in the member of a slot. -/
def findings (slot : Slot) (members : Members) : List Finding :=
  match slot.read members with
  | some (key, value) => (slot.checker.findings value).map (.under (.key key))
  | none => if slot.required then [⟨[.key slot.key], .missing⟩] else []

/-- What comes out of a slot, given the members that no slot reads: the checked value, or null for
an absent slot whose handle is among those members. -/
def pairs (slot : Slot) (members undeclared : Members) : List (String × Json) :=
  match slot.read members with
  | some (_, value) => [(slot.key, slot.checker.value value)]
  | none => if undeclared.has slot.handle then [(slot.key, .null)] else []

end Slot

/-- What is particular to a record. -/
structure Shape where
  name : String
  /-- Undeclared members are kept. -/
  isOpen : Bool := true
  /-- The tag of an object has to be declared. -/
  isTagged : Bool := false

/-- The members that no slot reads. -/
def undeclared (slots : List Slot) (members : Members) : Members :=
  members.filter fun pair =>
    !slots.any fun slot => ((slot.read members).map (·.1)) == some pair.1

/-- Whether the tag of an object is the key of a slot. -/
def tagDeclared (slots : List Slot) (members : Members) : Bool :=
  match members.tag? with
  | some tag => slots.any fun slot => slot.key == tag
  | none => false

namespace Checker

/-- The members that come out of a record: those of the slots, then the undeclared ones if they
are kept. -/
def recordMembers (shape : Shape) (slots : List Slot) (members : Members) : Members :=
  let others := if shape.isOpen then undeclared slots members else []
  Members.ofPairs (slots.flatMap fun slot => slot.pairs members others) ++ others

/-- Takes objects whose members fit their slots. -/
def record (shape : Shape) (slots : List Slot) : Checker where
  findings
    | .obj members =>
      if shape.isTagged && !tagDeclared slots members then
        [.here (.unknownVariant (Members.tag? members))]
      else slots.flatMap fun slot => slot.findings members
    | _ => [.here (.notARecord shape.name)]
  value
    | .obj members => .obj (recordMembers shape slots members)
    | value => value

end Checker

end ContentModel
