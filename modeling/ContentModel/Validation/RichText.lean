import ContentModel.Validation.Checker

/-!
# Rich text checks

The shapes of rich text documents and of the nodes below their roots.

* `RichTextShape.nodeSlots` are the declared members of a node, given the check on its
  children;
* `RichTextShape.node` checks a node and all nodes below it;
* `RichTextShape.document` checks a document.
-/

namespace ContentModel.RichTextShape

/-- A member that may be absent or null. -/
def optional (key : String) (checker : Checker) : Slot :=
  { key, handle := key, checker := checker.nullable }

/-- The declared members of a node. -/
def nodeSlots (children : Checker) : List Slot :=
  [optional "type" .text,
    optional "text" .text,
    { key := "children", handle := "children", checker := children },
    optional "attrs" .mapping,
    optional "uid" .text,
    optional "bold" .boolean,
    optional "italic" .boolean,
    optional "underline" .boolean,
    optional "strikethrough" .boolean,
    optional "code" .boolean,
    optional "superscript" .boolean,
    optional "subscript" .boolean]

/-- The record of a node. -/
def nodeShape : Shape := { name := "RichTextNodeShape" }

mutual

/-- What is found in a node. -/
def nodeFindings : Json → List Finding
  | .obj members =>
    (Checker.record nodeShape (nodeSlots ⟨fun _ => childrenFindings members, id⟩)).findings
      (.obj members)
  | _ => [.here (.notARecord nodeShape.name)]

/-- What is found in the children among the members of a node. -/
def childrenFindings : List (String × Json) → List Finding
  | [] => []
  | (key, value) :: rest =>
    if key = "children" then listFindings value else childrenFindings rest

/-- What is found in a list of nodes, which may be null. -/
def listFindings : Json → List Finding
  | .null => []
  | .arr items => itemsFindings 0 items
  | _ => [.here .notAList]

/-- What is found in nodes from an index on. -/
def itemsFindings : (index : Nat) → List Json → List Finding
  | _, [] => []
  | index, item :: rest =>
    (nodeFindings item).map (.under (.index index)) ++ itemsFindings (index + 1) rest

end

mutual

/-- The value that comes out of a node. -/
def nodeValue : Json → Json
  | .obj members =>
    (Checker.record nodeShape (nodeSlots ⟨fun _ => [], fun _ => childrenValue members⟩)).value
      (.obj members)
  | value => value

/-- The value that comes out of the children among the members of a node. -/
def childrenValue : List (String × Json) → Json
  | [] => .null
  | (key, value) :: rest => if key = "children" then listValue value else childrenValue rest

/-- The value that comes out of a list of nodes. -/
def listValue : Json → Json
  | .arr items => .arr (itemsValue items)
  | value => value

/-- The values that come out of nodes. -/
def itemsValue : List Json → List Json
  | [] => []
  | item :: rest => nodeValue item :: itemsValue rest

end

/-- Checks a node and all nodes below it. -/
def node : Checker := ⟨nodeFindings, nodeValue⟩

/-- Checks a document. -/
def document : Checker :=
  .record { name := "RichTextDocument" }
    [{ key := "type", handle := "type", required := true, checker := .documentType },
      optional "uid" .text,
      optional "attrs" .mapping,
      { key := "children", handle := "children", required := true, checker := .list none node }]

/-! ## One level at a time -/

theorem itemsFindings_eq (index : Nat) (items : List Json) :
    itemsFindings index items = Checker.itemFindings nodeFindings index items := by
  induction items generalizing index with
  | nil => rfl
  | cons item rest ih => simp [itemsFindings, Checker.itemFindings, ih]

theorem itemsValue_eq (items : List Json) : itemsValue items = items.map nodeValue := by
  induction items with
  | nil => rfl
  | cons item rest ih => simp [itemsValue, ih]

theorem listFindings_eq (value : Json) :
    listFindings value = (Checker.list none node).nullable.findings value := by
  cases value <;>
    simp [listFindings, Checker.nullable, Checker.list, Checker.exceeds, node, itemsFindings_eq]

theorem childrenFindings_of_get? {members : Members} {value : Json}
    (h : members.get? "children" = some value) :
    childrenFindings members = listFindings value := by
  induction members with
  | nil => simp at h
  | cons pair rest ih =>
    obtain ⟨key, old⟩ := pair
    simp only [Members.get?] at h
    simp only [childrenFindings]
    split at h
    · next hk => simp_all
    · next hk => rw [if_neg hk, ih h]

/-- What is found in a node is what is found in a record whose children are a list of nodes. -/
theorem nodeFindings_obj (members : Members) :
    nodeFindings (.obj members)
      = (Checker.record nodeShape (nodeSlots (Checker.list none node).nullable)).findings
          (.obj members) := by
  have h : Slot.findings
        { key := "children", handle := "children",
          checker := ⟨fun _ => childrenFindings members, id⟩ } members
      = Slot.findings
        { key := "children", handle := "children",
          checker := (Checker.list none node).nullable } members := by
    simp only [Slot.findings, Slot.read]
    cases hg : Members.get? members "children" with
    | none => simp
    | some value => simp [childrenFindings_of_get? hg, listFindings_eq]
  simp [nodeFindings, Checker.record, nodeSlots, nodeShape, h]

end ContentModel.RichTextShape
