import ContentModel.Schema.Basic

/-!
# Variants of modular blocks

Which variant an item of a modular blocks field is.

* `Json.tag?` is the tag of an item: the first key that does not begin with an underscore;
* `BlockMatch.of` finds the first definition with that tag.
-/

namespace ContentModel

/-- The first key that does not begin with an underscore. -/
def Members.tag? : Members → Option String
  | [] => none
  | (key, _) :: rest => if key.toList.head? = some '_' then Members.tag? rest else some key

/-- The tag of an item of a modular blocks field. -/
def Json.tag? (item : Json) : Option String := Members.tag? item.members

/-- What an item of a modular blocks field is. -/
inductive BlockMatch
  /-- An item of a variant. -/
  | variant (key : String) (index : Nat) (definition : BlockDefinition) (payload : Json)
  /-- An item without a tag, or with one that no definition has. -/
  | unknown (key : Option String) (payload : Json)

namespace BlockMatch

/-- The variant with a tag, searched from an index on. -/
def find (key : String) (payload : Json) :
    (index : Nat) → List BlockDefinition → BlockMatch
  | _, [] => .unknown (some key) payload
  | index, definition :: rest =>
    if definition.uid = key then .variant key index definition payload
    else find key payload (index + 1) rest

/-- What an item is under block definitions. -/
def of (item : Json) (definitions : List BlockDefinition) : BlockMatch :=
  match item.tag? with
  | none => .unknown none item
  | some key => find key ((item.get? key).getD .null) 0 definitions

/-- The members of the payload of an item. -/
def fields : BlockMatch → Members
  | .variant _ _ _ payload => payload.members
  | .unknown _ _ => []

end BlockMatch

end ContentModel
