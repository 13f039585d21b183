import ContentModel.Proofs.Markdown.ItemLines
import ContentModel.Proofs.RichText.Lossless

/-!
# Lists of rich text

A list has an item for each child, and the lines of a child below its first one stand at the
beginning of a line, too.

* `Node.itemHead` is the line that begins the item of a child, `Node.laterLines` are the lines of
  the child below it;
* `Node.KeepsItems` says that a reader finds the items of a list in its form, and no others;
* `Node.opens` says by the shape of a tree whether it has a line that begins an item,
  `Node.IsOutline.isFramed` that it says so for trees of lists, paragraphs and text runs;
* `Node.keepsItems_markdown_list` is the main statement.
-/

namespace ContentModel.RichText

open Text Markdown

/-- The type of numbered lists, or of bullet lists. -/
def listType (numbered : Bool) : String := if numbered then "ol" else "ul"

/-- Whether the lists of a type are numbered, if it is a type of lists. -/
def listKind : Option String → Option Bool
  | some "ol" => some true
  | some "ul" => some false
  | _ => none

namespace Node

/-! ## The form of a list -/

/-- The item of a child: its form, trimmed, behind a marker with its number. -/
def itemForm (numbered : Bool) (entry : Node × Nat) : String :=
  itemMarker numbered entry.2 ++ strip entry.1.markdown

theorem bulletLines_markdownAll (children : List Node) (n : Nat) :
    bulletLines (markdownAll children) = (children.zipIdx n).map (itemForm false) := by
  induction children generalizing n with
  | nil => rfl
  | cons child rest ih =>
    rw [markdownAll, bulletLines, List.map_cons, ← bulletLines, ih (n + 1)]
    rfl

theorem numberedLines_markdownAll (children : List Node) (n : Nat) :
    numberedLines n (markdownAll children) = (children.zipIdx n).map (itemForm true) := by
  induction children generalizing n with
  | nil => rfl
  | cons child rest ih =>
    rw [markdownAll, numberedLines, ih (n + 1), ← String.append_assoc]
    rfl

theorem markdown_list (numbered : Bool) (children : List Node) (attrs : Members)
    (uid : Option String) :
    (container (some (listType numbered)) children attrs uid).markdown =
      joinWith "\n" ((children.zipIdx 1).map (itemForm numbered)) ++ "\n\n" := by
  cases numbered
  · rw [← bulletLines_markdownAll]
    rfl
  · rw [← numberedLines_markdownAll]
    rfl

/-- The line that begins the item of a child: the marker and the first line of the child's form,
trimmed. -/
def itemHead (numbered : Bool) (entry : Node × Nat) : String :=
  itemMarker numbered entry.2 ++ (lines (strip entry.1.markdown)).headD ""

/-- The lines of a child below the one that begins its item. -/
def laterLines (child : Node) : List String := (lines (strip child.markdown)).tail

theorem lines_itemForm (numbered : Bool) (entry : Node × Nat) :
    lines (itemForm numbered entry) = itemHead numbered entry :: laterLines entry.1 := by
  obtain ⟨first, others, hsplit⟩ :=
    List.exists_cons_of_ne_nil (splitChars_ne_nil '\n' (strip entry.1.markdown).toList)
  rw [itemHead, laterLines, itemForm, lines, lines, String.toList_append,
    splitChars_append_of_notMem (newline_notMem_itemMarker numbered entry.2), hsplit]
  simp

theorem lines_markdown_list (numbered : Bool) {children : List Node} (h : children ≠ [])
    (attrs : Members) (uid : Option String) :
    lines (container (some (listType numbered)) children attrs uid).markdown =
      (children.zipIdx 1).flatMap (fun entry => itemHead numbered entry :: laterLines entry.1) ++
        ["", ""] := by
  have hitems : (children.zipIdx 1).map (itemForm numbered) ≠ [] := by simpa using h
  have hend : ("\n\n" : String) = "\n" ++ ("\n" ++ "") := rfl
  rw [markdown_list, hend, lines_append_newline, lines_joinWith hitems, List.flatMap_map]
  simp only [lines_itemForm]
  rfl

/-! ## The items that a reader finds -/

/-- The lines of a text that begin items are those of the items of a list, in order. -/
def KeepsItems (numbered : Bool) (children : List Node) (text : String) : Prop :=
  (lines text).filter (fun line => opensItem numbered line.toList) =
    (children.zipIdx 1).map (itemHead numbered)

theorem filter_lines_itemForm (numbered : Bool) (entry : Node × Nat) :
    (itemHead numbered entry :: laterLines entry.1).filter
        (fun line => opensItem numbered line.toList) =
      itemHead numbered entry ::
        (laterLines entry.1).filter fun line => opensItem numbered line.toList := by
  rw [List.filter_cons_of_pos]
  rw [itemHead, String.toList_append, opensItem_itemMarker_append, beq_self_eq_true]

theorem length_le_length_flatMap_cons {α β : Type} (f : α → β) (g : α → List β) (items : List α) :
    items.length ≤ (items.flatMap fun item => f item :: g item).length := by
  induction items with
  | nil => exact Nat.le_refl 0
  | cons item rest ih =>
    rw [List.flatMap_cons, List.length_append, List.length_cons, List.length_cons]
    omega

/-- What is put behind the elements of a list shows in the length of the whole. -/
theorem flatMap_cons_eq_map_iff {α β : Type} {f : α → β} {g : α → List β} {items : List α} :
    (items.flatMap fun item => f item :: g item) = items.map f ↔ ∀ item ∈ items, g item = [] := by
  induction items with
  | nil => simp
  | cons item rest ih =>
    rw [List.forall_mem_cons, ← ih, List.flatMap_cons, List.map_cons, List.cons_append,
      List.cons.injEq, and_iff_right rfl]
    constructor
    · intro h
      have hall := congrArg List.length h
      have hrest := length_le_length_flatMap_cons f g rest
      rw [List.length_append, List.length_map] at hall
      have hnil : g item = [] := List.eq_nil_of_length_eq_zero (by omega)
      exact ⟨hnil, by rwa [hnil, List.nil_append] at h⟩
    · rintro ⟨hnil, h⟩
      rw [hnil, List.nil_append, h]

/-- A reader finds the items of a list just when no later line of a child begins an item. -/
theorem keepsItems_iff (numbered : Bool) {children : List Node} (h : children ≠ [])
    (attrs : Members) (uid : Option String) :
    KeepsItems numbered children
        (container (some (listType numbered)) children attrs uid).markdown ↔
      ∀ child ∈ children, ∀ line ∈ laterLines child, opensItem numbered line.toList = false := by
  have hend : ["", ""].filter (fun line => opensItem numbered line.toList) = [] := by
    cases numbered <;> rfl
  rw [KeepsItems, lines_markdown_list numbered h, List.filter_append, hend, List.append_nil,
    List.filter_flatMap]
  simp only [filter_lines_itemForm, flatMap_cons_eq_map_iff, List.filter_eq_nil_iff,
    Bool.not_eq_true]
  constructor
  · intro hlater child hchild
    obtain ⟨entry, hentry, rfl⟩ : ∃ entry ∈ children.zipIdx 1, entry.1 = child :=
      List.mem_map.1 (by rwa [List.zipIdx_map_fst])
    exact hlater entry hentry
  · intro hlater entry hentry
    exact hlater entry.1 (List.fst_mem_of_mem_zipIdx hentry)

/-! ## Lines that begin items, by the shape of the tree -/

/-- Whether a line feed ends the form of a node. -/
def endsLine : Node → Bool
  | .leaf _ _ => false
  | .container type _ _ _ => type = some "p" || (listKind type).isSome

mutual

/-- Whether a line of the form of a node, trimmed, begins an item of a numbered list or of a bullet
list; its first line counts if it is fresh. -/
def opens (numbered fresh : Bool) : Node → Bool
  | .leaf _ _ => false
  | .container type children _ _ =>
    match listKind type with
    | some kind =>
      -- The first item of a list begins where the list does, the others on lines of their own.
      kind == numbered && (fresh || decide (2 ≤ children.length)) || opensBehind numbered children
    | none => opensIn numbered fresh children

/-- The same for nodes in a row: a node is fresh if a line feed ends the one before it. -/
def opensIn (numbered fresh : Bool) : List Node → Bool
  | [] => false
  | node :: rest => opens numbered fresh node || opensIn numbered (endsLine node) rest

/-- The same for nodes each of which stands behind a marker. -/
def opensBehind (numbered : Bool) : List Node → Bool
  | [] => false
  | node :: rest => opens numbered false node || opensBehind numbered rest

end

/-- A tree of lists and paragraphs that are not empty. Its text runs are single lines that are not
blank and do not begin like an item, whatever is put behind them. -/
inductive IsOutline : Node → Prop
  | leaf {text : String} {marks : List Mark} (line : '\n' ∉ text.toList)
      (visible : strip (wrapMarks text marks) ≠ "")
      (start : ∀ numbered rest,
        opensItem numbered ((strip (wrapMarks text marks)).toList ++ rest) = false) :
      IsOutline (.leaf text marks)
  | container {type : String} {children : List Node} {attrs : Members} {uid : Option String}
      (kind : type ∈ ["p", "li", "ul", "ol"]) (nonempty : children ≠ [])
      (below : ∀ child ∈ children, IsOutline child) :
      IsOutline (.container (some type) children attrs uid)

theorem newline_notMem_wrapMarks {text : String} (h : '\n' ∉ text.toList) (marks : List Mark) :
    '\n' ∉ (wrapMarks text marks).toList := by
  induction marks generalizing text with
  | nil => exact h
  | cons mark rest ih =>
    refine ih ?_
    cases mark <;> simpa [Mark.wrappers] using h

theorem isFramed_concat {numbered : Bool} {nodes : List Node} (hne : nodes ≠ [])
    (h : ∀ node ∈ nodes,
      IsFramed numbered node.markdown (fun fresh => node.opens numbered fresh) node.endsLine) :
    ∃ ends, IsFramed numbered (concat (markdownAll nodes))
      (fun fresh => opensIn numbered fresh nodes) ends := by
  induction nodes with
  | nil => exact absurd rfl hne
  | cons node rest ih =>
    rw [List.forall_mem_cons] at h
    rw [markdownAll, concat_cons]
    cases rest with
    | nil =>
      refine ⟨node.endsLine, ?_⟩
      rw [markdownAll, concat_nil, String.append_empty]
      exact h.1.congr fun fresh => by simp [opensIn]
    | cons next more =>
      obtain ⟨ends, hrest⟩ := ih (List.cons_ne_nil next more) h.2
      exact ⟨ends, (h.1.append hrest).congr fun fresh => rfl⟩

theorem isFramed_items {numbered : Bool} (kind : Bool) {nodes : List Node} (hne : nodes ≠ [])
    (h : ∀ node ∈ nodes,
      IsFramed numbered node.markdown (fun fresh => node.opens numbered fresh) node.endsLine)
    (n : Nat) :
    IsFramed numbered (joinWith "\n" ((nodes.zipIdx n).map (itemForm kind)))
      (fun fresh => kind == numbered && (fresh || decide (2 ≤ nodes.length)) ||
        opensBehind numbered nodes) false := by
  induction nodes generalizing n with
  | nil => exact absurd rfl hne
  | cons node rest ih =>
    rw [List.forall_mem_cons] at h
    have hfirst := h.1.item kind n
    rw [List.zipIdx_cons, List.map_cons]
    cases rest with
    | nil => exact hfirst.congr fun fresh => by simp [opensBehind, Bool.and_comm]
    | cons next more =>
      have hrest := ih (List.cons_ne_nil next more) h.2 (n + 1)
      rw [List.zipIdx_cons, List.map_cons] at hrest ⊢
      rw [joinWith_cons_cons, ← String.append_assoc]
      refine (hfirst.newline.append hrest).congr fun fresh => ?_
      rw [show opensBehind numbered (node :: next :: more) =
        (opens numbered false node || opensBehind numbered (next :: more)) from rfl]
      cases kind == numbered <;> simp

/-- What `opens` and `endsLine` say of a tree of lists and paragraphs is true of its form. -/
theorem IsOutline.isFramed {node : Node} (h : node.IsOutline) (numbered : Bool) :
    IsFramed numbered node.markdown (fun fresh => node.opens numbered fresh) node.endsLine := by
  induction h with
  | leaf line visible start =>
    exact .of_line (newline_notMem_wrapMarks line _) visible (start numbered)
  | @container type children attrs uid kind nonempty below ih =>
    have hlist (kind : Bool) : IsFramed numbered
        (Node.container (some (listType kind)) children attrs uid).markdown
        (fun fresh => kind == numbered && (fresh || decide (2 ≤ children.length)) ||
          opensBehind numbered children) true := by
      rw [markdown_list, show ("\n\n" : String) = "\n" ++ "\n" from rfl, ← String.append_assoc]
      exact (isFramed_items kind nonempty ih 1).newline.newline
    obtain ⟨ends, hcontent⟩ := isFramed_concat nonempty ih
    simp only [List.mem_cons, List.not_mem_nil, or_false] at kind
    rcases kind with rfl | rfl | rfl | rfl
    · have hform : (Node.container (some "p") children attrs uid).markdown =
          concat (markdownAll children) ++ "\n" ++ "\n" := by
        rw [String.append_assoc]
        rfl
      rw [hform]
      exact hcontent.newline.newline
    · exact hcontent.strip
    · exact hlist false
    · exact hlist true

/-- **Lists that keep their items apart.** The form of a list with children ends with two line
feeds. Above them there is one line for each child, in order, that begins with the marker of its
item and goes on with the child's first line; right below it the later lines of the child stand as
they are, without indentation. So a reader finds these items and no others just when no later line
of a child begins with a marker of that kind of list. For children that are trees of lists and
paragraphs their shape decides: a paragraph never makes an item, but a list of the same kind does if
it begins on a later line, or has a second child. -/
theorem keepsItems_markdown_list {children : List Node} (h : children ≠ []) (numbered : Bool)
    (attrs : Members) (uid : Option String) :
    let form := (container (some (listType numbered)) children attrs uid).markdown
    lines form = (children.zipIdx 1).flatMap
        (fun entry => itemHead numbered entry :: laterLines entry.1) ++ ["", ""] ∧
      (KeepsItems numbered children form ↔
        ∀ child ∈ children, ∀ line ∈ laterLines child, opensItem numbered line.toList = false) ∧
      ((∀ child ∈ children, child.IsOutline) →
        (KeepsItems numbered children form ↔
          ∀ child ∈ children, child.opens numbered false = false)) := by
  intro form
  have hkeeps := keepsItems_iff numbered h attrs uid
  refine ⟨lines_markdown_list numbered h attrs uid, hkeeps, fun houtline => hkeeps.trans ?_⟩
  refine forall₂_congr fun child hchild => ?_
  have hlater := ((houtline child hchild).isFramed numbered).exists_later_iff
  rw [← Bool.not_eq_true, ← hlater]
  simp [laterLines]

/-- A numbered list keeps its items apart with a bullet list and a second paragraph in its first
child; a bullet list with the same children does not. -/
theorem keepsItems_markdown_list_nested :
    let run (text : String) : Node := .leaf text []
    let paragraph (text : String) : Node := .container (some "p") [run text] [] none
    let bullet (text : String) : Node := .container (some "li") [run text] [] none
    let bullets : Node := .container (some "ul") [bullet "b", bullet "c"] [] none
    let first : Node := .container (some "li") [paragraph "a", bullets, paragraph "d"] [] none
    let last : Node := .container (some "li") [paragraph "e"] [] none
    let form (numbered : Bool) : String :=
      (container (some (listType numbered)) [first, last] [] none).markdown
    (∀ child ∈ [first, last], child.IsOutline) ∧
      form true = "1. a\n\n- b\n- c\n\nd\n2. e\n\n" ∧ KeepsItems true [first, last] (form true) ∧
      form false = "- a\n\n- b\n- c\n\nd\n- e\n\n" ∧
      ¬ KeepsItems false [first, last] (form false) := by
  intro run paragraph bullet bullets first last form
  have hrun {text : String} (h : text ∈ ["a", "b", "c", "d", "e"]) : (run text).IsOutline := by
    simp only [List.mem_cons, List.not_mem_nil, or_false] at h
    rcases h with rfl | rfl | rfl | rfl | rfl <;>
      exact .leaf (by decide) (by decide) fun numbered rest => by cases numbered <;> rfl
  have hone {type : String} (h : type ∈ ["p", "li", "ul", "ol"]) {child : Node}
      (hchild : child.IsOutline) : (container (some type) [child] [] none).IsOutline :=
    .container h (List.cons_ne_nil _ _) (List.forall_mem_singleton.2 hchild)
  have hbullets : bullets.IsOutline :=
    .container (by decide) (List.cons_ne_nil _ _) (List.forall_mem_cons.2
      ⟨hone (by decide) (hrun (by decide)),
        List.forall_mem_singleton.2 (hone (by decide) (hrun (by decide)))⟩)
  have hfirst : first.IsOutline :=
    .container (by decide) (List.cons_ne_nil _ _) (List.forall_mem_cons.2
      ⟨hone (by decide) (hrun (by decide)), List.forall_mem_cons.2
        ⟨hbullets, List.forall_mem_singleton.2 (hone (by decide) (hrun (by decide)))⟩⟩)
  have houtline : ∀ child ∈ [first, last], child.IsOutline :=
    List.forall_mem_cons.2 ⟨hfirst, List.forall_mem_singleton.2
      (hone (by decide) (hone (by decide) (hrun (by decide))))⟩
  have hkeeps (numbered : Bool) : KeepsItems numbered [first, last] (form numbered) ↔
      ∀ child ∈ [first, last], child.opens numbered false = false :=
    (keepsItems_markdown_list (List.cons_ne_nil _ _) numbered [] none).2.2 houtline
  refine ⟨houtline, by decide +kernel, (hkeeps true).2 ?_, by decide +kernel, fun h => ?_⟩
  · exact List.forall_mem_cons.2 ⟨rfl, List.forall_mem_singleton.2 rfl⟩
  · exact absurd ((hkeeps false).1 h first List.mem_cons_self) (by decide)

end Node

end ContentModel.RichText
