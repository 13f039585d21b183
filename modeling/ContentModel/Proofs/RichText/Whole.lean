import ContentModel.Proofs.RichText.Validated
import ContentModel.Proofs.Validation.Acceptance

/-!
# Documents that are read whole

The check of a document lets an object have both a text and children; reading takes every object
with a text for a text run, which has none.

* `Json.HasNode` are the nodes of a rich text at any depth, `Json.IsRun` the text runs among them;
* `Json.ReadsAsDocument` and `Json.ReadsChildren` say that the root and the children of a node are
  read as they are written;
* `Json.IsNode.of_hasNode` says that all nodes of a document have been checked as such;
* `RichTextShape.reads_whole_iff` is the main statement: a document is read whole up to the children
  of text runs.
-/

namespace ContentModel

open RichText

namespace RichText.Node

/-- The nodes below a container; a text run has none. -/
def children : Node → List Node
  | .leaf _ _ => []
  | .container _ children _ _ => children

/-- The nodes right below the node that a value describes. -/
def childrenOf (value : Json) : List Node := ((ofJson? value).map children).getD []

/-- Among objects, nothing is dropped. -/
theorem map_some_ofItems {items : List Json} (h : ∀ item ∈ items, item.isObject = true) :
    (ofItems items).map some = items.map ofJson? := by
  induction items with
  | nil => rfl
  | cons item rest ih =>
    rw [List.forall_mem_cons] at h
    obtain ⟨node, hnode⟩ : ∃ node, ofJson? item = some node := by
      cases item with
      | obj members => rw [ofJson?]; split <;> exact ⟨_, rfl⟩
      | _ => cases h.1
    rw [ofItems, hnode, List.map_cons, List.map_cons, ih h.2, hnode]

end RichText.Node

namespace Json

/-! ## What is read of a value -/

/-- The nodes of a rich text: a value itself, and the nodes of the items of its children. -/
inductive HasNode : Json → Json → Prop
  | self (value : Json) : HasNode value value
  | child {members : Members} {items : List Json} {item node : Json}
      (children : members.get? "children" = some (.arr items)) (mem : item ∈ items)
      (deeper : HasNode item node) : HasNode (.obj members) node

/-- An object with a text. -/
def IsRun (value : Json) : Prop := ∃ text, value.get? "text" = some (.str text)

/-- The value is read as a container of the type of documents. -/
def ReadsAsDocument (value : Json) : Prop :=
  ∃ children attrs uid, Node.ofJson? value = some (.container (some "doc") children attrs uid)

/-- The nodes below a value are those that the items of its list of children describe, in order and
none left out. -/
def ReadsChildren (value : Json) : Prop :=
  ∀ items, value.get? "children" = some (.arr items) →
    items.map Node.ofJson? = (Node.childrenOf value).map some

variable {members : Members}

theorem ofJson?_of_run (h : (obj members).IsRun) :
    ∃ text, Node.ofJson? (.obj members) = some (.leaf text (marksOf members)) := by
  obtain ⟨text, htext⟩ := h
  change Members.get? members "text" = _ at htext
  exact ⟨text, by rw [Node.ofJson?, htext]; rfl⟩

theorem ofJson?_of_not_run (h : ¬ (obj members).IsRun) :
    ∃ attrs uid, Node.ofJson? (.obj members) =
      some (.container (string? (Members.get? members "type")) (Node.childrenIn members) attrs
        uid) := by
  have htext : string? (Members.get? members "text") = none := by
    cases hget : Members.get? members "text" with
    | none => rfl
    | some value =>
      cases value with
      | str text => exact absurd ⟨text, hget⟩ h
      | _ => rfl
  exact ⟨_, _, by rw [Node.ofJson?, htext]⟩

/-- The items of the children of a node are nodes. -/
theorem IsNode.children {items : List Json} (h : IsNode (.obj members))
    (hitems : members.get? "children" = some (.arr items)) : ∀ item ∈ items, IsNode item := by
  cases h with
  | intro _ _ _ _ below => exact below items hitems

theorem IsNode.isObject {value : Json} (h : IsNode value) : value.isObject = true := by
  cases h with
  | intro => rfl

/-- All nodes of a node are nodes. -/
theorem IsNode.of_hasNode {value node : Json} (h : IsNode value) (hnode : value.HasNode node) :
    IsNode node := by
  induction hnode with
  | self => exact h
  | child hchildren hmem _ ih => exact ih (h.children hchildren _ hmem)

/-- All nodes of a document but its root have been checked as nodes. -/
theorem IsDocument.of_hasNode {value node : Json} (h : IsDocument value)
    (hnode : value.HasNode node) : node = value ∨ IsNode node := by
  cases hnode with
  | self => exact Or.inl rfl
  | child hchildren hmem hdeeper =>
    obtain ⟨_, heq, -, -, -, _, hget, items, rfl, hitems⟩ := h
    cases heq
    rw [hget] at hchildren
    cases hchildren
    exact Or.inr ((hitems _ hmem).of_hasNode hdeeper)

/-- The root of a document is read as a document just when it has no text. -/
theorem IsDocument.readsAsDocument_iff {value : Json} (h : IsDocument value) :
    value.ReadsAsDocument ↔ ¬ value.IsRun := by
  obtain ⟨members, rfl, ⟨_, htype, rfl⟩, -⟩ := h
  constructor
  · rintro ⟨children, attrs, uid, hread⟩ hrun
    obtain ⟨text, hleaf⟩ := ofJson?_of_run hrun
    rw [hleaf] at hread
    cases hread
  · intro hrun
    obtain ⟨attrs, uid, hread⟩ := ofJson?_of_not_run hrun
    rw [htype] at hread
    exact ⟨_, attrs, uid, hread⟩

/-- The children of an object, objects themselves, are read just when it has no text, or when there
are none. -/
theorem readsChildren_iff
    (h : ∀ items, members.get? "children" = some (.arr items) →
      ∀ item ∈ items, item.isObject = true) :
    (obj members).ReadsChildren ↔
      ((obj members).IsRun →
        ∀ items, members.get? "children" = some (.arr items) → items = []) := by
  by_cases hrun : (obj members).IsRun
  · obtain ⟨text, hleaf⟩ := ofJson?_of_run hrun
    have hnone : Node.childrenOf (.obj members) = [] := by rw [Node.childrenOf, hleaf]; rfl
    simp only [ReadsChildren, hnone, hrun, true_implies, List.map_nil, List.map_eq_nil_iff]
    rfl
  · obtain ⟨attrs, uid, hread⟩ := ofJson?_of_not_run hrun
    refine iff_of_true (fun items hitems => ?_) fun hrun' => absurd hrun' hrun
    change Members.get? members "children" = _ at hitems
    have hbelow : Node.childrenOf (.obj members) = Node.ofItems items := by
      rw [Node.childrenOf, hread, Option.map_some, Option.getD_some, Node.children,
        Node.childrenIn_eq, hitems]
      rfl
    rw [hbelow, Node.map_some_ofItems (h items hitems)]

end Json

namespace RichTextShape

open Json

/-- **A document is read whole up to the children of text runs.** The root of a document that passes
its check is read as a document just when it has no text; and the children of a node of it, at any
depth, are read one for one and in order just when the node has no text or no children. -/
theorem reads_whole_iff {value : Json} (h : document.findings value = []) :
    (value.ReadsAsDocument ↔ ¬ value.IsRun) ∧
      ∀ node, value.HasNode node → (node.ReadsChildren ↔
        (node.IsRun → ∀ items, node.get? "children" = some (.arr items) → items = [])) := by
  have hdocument : IsDocument value := (tests_document value).1 h
  refine ⟨hdocument.readsAsDocument_iff, fun node hnode => ?_⟩
  rcases hdocument.of_hasNode hnode with rfl | hchecked
  · obtain ⟨members, rfl, -, -, -, _, hget, items, rfl, hitems⟩ := hdocument
    refine readsChildren_iff fun others hothers item hitem => ?_
    rw [hget] at hothers
    cases hothers
    exact (hitems item hitem).isObject
  · cases hchecked with
    | intro _ _ _ _ below =>
      refine readsChildren_iff fun items hitems item hitem => ?_
      exact (below items hitems item hitem).isObject

/-- In a document whose paragraph has both a text and a child, the paragraph is read and its child
is not. -/
theorem reads_whole_iff_paragraph :
    let child : Json := .obj [("text", .str "b")]
    let paragraph : Json :=
      .obj [("type", .str "p"), ("text", .str "a"), ("children", .arr [child])]
    let value : Json := .obj [("type", .str "doc"), ("children", .arr [paragraph])]
    document.findings value = [] ∧ value.ReadsAsDocument ∧ value.ReadsChildren ∧
      value.HasNode paragraph ∧ ¬ paragraph.ReadsChildren := by
  intro child paragraph value
  have haccepted : document.findings value = [] := by decide +kernel
  have hparagraph : value.HasNode paragraph := .child rfl (by simp) (.self _)
  obtain ⟨hroot, hnodes⟩ := reads_whole_iff haccepted
  have hnotRun : ¬ value.IsRun := by rintro ⟨_, h⟩; cases h
  refine ⟨haccepted, hroot.2 hnotRun, (hnodes value (.self _)).2 (absurd · hnotRun), hparagraph, ?_⟩
  rw [hnodes paragraph hparagraph]
  exact fun h => by cases h ⟨"a", rfl⟩ [child] rfl

/-- A document whose root has a text passes its check and is read as a text run, its child is not
read. -/
theorem root_with_text_not_readsAsDocument :
    let value : Json := .obj [("type", .str "doc"), ("text", .str "x"),
      ("children", .arr [.obj [("text", .str "b")]])]
    document.findings value = [] ∧ ¬ value.ReadsAsDocument ∧
      ∃ node, value.HasNode node ∧ ¬ node.ReadsChildren := by
  intro value
  refine ⟨by decide +kernel, ?_, value, .self value, fun h => ?_⟩
  · rintro ⟨children, attrs, uid, hread⟩
    cases hread
  · cases h _ rfl

end RichTextShape

end ContentModel
