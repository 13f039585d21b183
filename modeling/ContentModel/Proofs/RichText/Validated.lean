import ContentModel.Proofs.Validation.Settled
import ContentModel.RichText.Markdown

/-!
# Rich text that was checked

The check of a document puts the declared members of its nodes first. Reading a node only looks
members up, so the document reads the same.

* `RichText.Node.ofJson?_congr` says that what a node describes depends only on what can be looked
  up;
* `RichTextShape.markdown_document` says that a document is written the same after its check.
-/

namespace ContentModel

namespace RichText.Node

theorem childrenIn_eq (members : Members) :
    childrenIn members = ((members.get? "children").map listed).getD [] := by
  induction members with
  | nil => simp [childrenIn]
  | cons pair rest ih =>
    obtain ⟨key, value⟩ := pair
    by_cases h : key = "children" <;> simp [childrenIn, Members.get?, h, ih]

theorem ofItems_eq (items : List Json) : ofItems items = (items.map ofJson?).filterMap id := by
  induction items with
  | nil => rfl
  | cons item rest ih =>
    rw [ofItems, List.map_cons, List.filterMap_cons, ih]
    cases ofJson? item <;> rfl

/-- What a node describes depends only on the members that can be looked up, and on the nodes that
its children describe. -/
theorem ofJson?_congr {members others : Members}
    (h : ∀ key, key ≠ "children" → Members.get? others key = Members.get? members key)
    (hchildren : ((Members.get? others "children").map listed).getD [] =
      ((Members.get? members "children").map listed).getD []) :
    ofJson? (.obj others) = ofJson? (.obj members) := by
  have hmarks : marksOf others = marksOf members := by
    refine List.filter_congr fun mark _ => ?_
    rw [h mark.name (by cases mark <;> decide)]
  simp only [ofJson?, childrenIn_eq, hchildren, hmarks, h "text" (by decide), h "type" (by decide),
    h "attrs" (by decide), h "uid" (by decide)]

end RichText.Node

namespace RichTextShape

open RichText

/-- All members of a node but its children come out as they are. -/
theorem get?_nodeMembers (children : Checker) (members : Members) {key : String}
    (h : key ≠ "children") :
    (Checker.recordMembers nodeShape (nodeSlots children) members).get? key = members.get? key := by
  refine (separate_nodeSlots children).get?_recordMembers_faithful rfl fun slot hs => ?_
  rcases nodeSlots_cases hs with ⟨name, problem?, -, rfl⟩ | rfl
  · exact ⟨nofun, fun _ => .optional name problem?⟩
  · exact ⟨nofun, fun heq => absurd heq.symm h⟩

theorem get?_nodeMembers_children (children : Checker) (members : Members) :
    (Checker.recordMembers nodeShape (nodeSlots children) members).get? "children" =
      (members.get? "children").map children.value := by
  have hmem : { key := "children", handle := "children", checker := children } ∈
      nodeSlots children := by
    simp [nodeSlots]
  exact (separate_nodeSlots children).get?_recordMembers_own hmem rfl rfl

/-- A node describes the same after its check. -/
theorem ofJson?_nodeValue (value : Json) :
    Node.ofJson? (node.value value) = Node.ofJson? value := by
  induction value using Json.inductUnder "children" with
  | other value hvalue =>
    cases value with
    | obj members => cases hvalue
    | _ => rfl
  | obj members ih =>
    have hvalue : node.value (.obj members) = .obj (Checker.recordMembers nodeShape
        (nodeSlots (Checker.list none node).nullable) members) := nodeValue_obj members
    rw [hvalue]
    refine Node.ofJson?_congr (fun key hkey => get?_nodeMembers _ members hkey) ?_
    rw [get?_nodeMembers_children, Option.map_map]
    cases hchildren : Members.get? members "children" with
    | none => rfl
    | some children =>
      cases children with
      | arr items =>
        have hitems : (items.map node.value).map Node.ofJson? = items.map Node.ofJson? := by
          rw [List.map_map]
          exact List.map_congr_left (ih items hchildren)
        show Node.listed (.arr (items.map node.value)) = Node.listed (.arr items)
        rw [Node.listed, Node.listed, Node.ofItems_eq, Node.ofItems_eq, hitems]
      | _ => rfl

/-- The declared members of a document. -/
def documentSlots : List Slot :=
  [{ key := "type", handle := "type", required := true, checker := .documentType },
    optional "uid" .text,
    optional "attrs" .mapping,
    { key := "children", handle := "children", required := true, checker := .list none node }]

theorem separate_documentSlots : Slot.Separate documentSlots :=
  .of_noOther (by simp [documentSlots, optional]) (by simp [documentSlots, optional])

theorem listed_nodes (value : Json) :
    Node.listed ((Checker.list none node).value value) = Node.listed value := by
  cases value with
  | arr items =>
    have hitems : (items.map node.value).map Node.ofJson? = items.map Node.ofJson? := by
      rw [List.map_map]
      exact List.map_congr_left fun item _ => ofJson?_nodeValue item
    rw [Checker.list, Node.listed, Node.listed, Node.ofItems_eq, Node.ofItems_eq, hitems]
  | _ => rfl

/-- A document is written the same after its check. -/
theorem markdown_document (value : Json) : markdown (document.value value) = markdown value := by
  cases value with
  | obj members =>
    have hvalue : document.value (.obj members) =
        .obj (Checker.recordMembers { name := "RichTextDocument" } documentSlots members) := rfl
    have hchildren : (Checker.recordMembers { name := "RichTextDocument" } documentSlots
        members).get? "children" =
          (Members.get? members "children").map (Checker.list none node).value :=
      separate_documentSlots.get?_recordMembers_own
        (List.mem_of_getElem? (show documentSlots[3]? = some _ from rfl)) rfl rfl
    rw [hvalue, markdown, markdown, Node.ofJson?_congr]
    · intro key hkey
      refine separate_documentSlots.get?_recordMembers_faithful rfl ?_
      simp only [documentSlots, List.forall_mem_cons, List.not_mem_nil, false_implies, implies_true,
        and_true]
      exact ⟨⟨nofun, fun _ => .leaf _ _ _⟩, ⟨nofun, fun _ => .optional _ _⟩,
        ⟨nofun, fun _ => .optional _ _⟩, nofun, fun heq => absurd heq.symm hkey⟩
    · rw [hchildren]
      cases Members.get? members "children" with
      | none => rfl
      | some children => exact listed_nodes children
  | _ => rfl

end RichTextShape

end ContentModel
