import ContentModel.Proofs.Text.Visible
import ContentModel.RichText.Markdown

/-!
# Rich text loses no text

The visible characters of the text runs of a rich text stand in its Markdown form, in order.

* `Node.texts` are the texts of the runs under a node, in document order, `Node.induct` is induction
  on nodes;
* `Node.Legible` leaves out what is not written: text under rules and images, and what lies in
  tables outside of rows (`Node.IsTablePart`);
* `keeps_containerText` and `keeps_tableText` are the steps, one for each way in which containers
  are written; `Node.Legible.keeps` is the induction over the tree, in which a section of a table is
  followed row by row;
* `Node.visible_sublist_markdown` is the main statement.
-/

namespace ContentModel.RichText

open Text Markdown

/-! ## Text runs of a node -/

namespace Node

/-- Induction on nodes, with one hypothesis for the children of a container. -/
@[elab_as_elim]
theorem induct {P : Node → Prop} (leaf : ∀ text marks, P (.leaf text marks))
    (container : ∀ type children attrs uid, (∀ child ∈ children, P child) →
      P (.container type children attrs uid)) (node : Node) : P node :=
  @Node.rec P (fun children => ∀ child ∈ children, P child) leaf container
    (fun child h => absurd h (by simp))
    (fun _ _ ihHead ihTail child h =>
      (List.mem_cons.1 h).elim (fun e => e ▸ ihHead) (ihTail child)) node

mutual

/-- The texts of the runs under a node, in document order. -/
def texts : Node → List String
  | .leaf text _ => [text]
  | .container _ children _ _ => textsAll children

/-- The texts of the runs under nodes. -/
def textsAll : List Node → List String
  | [] => []
  | node :: rest => texts node ++ textsAll rest

end

theorem concat_textsAll (nodes : List Node) :
    concat (textsAll nodes) = concat (nodes.map fun node => concat node.texts) := by
  induction nodes with
  | nil => rfl
  | cons node rest ih => rw [textsAll, concat_append, List.map_cons, concat_cons, ih]

theorem textsAll_eq_nil {nodes : List Node} (h : ∀ node ∈ nodes, node.texts = []) :
    textsAll nodes = [] := by
  induction nodes with
  | nil => rfl
  | cons node rest ih =>
    rw [List.forall_mem_cons] at h
    rw [textsAll, h.1, ih h.2, List.append_nil]

theorem markdownAll_eq (nodes : List Node) : markdownAll nodes = nodes.map markdown := by
  induction nodes with
  | nil => rfl
  | cons node rest ih => rw [markdownAll, ih, List.map_cons]

/-- A row, or a section of a table that holds rows and sections only. -/
inductive IsTablePart : Node → Prop
  | row {type : Option String} {children : List Node} {attrs : Members} {uid : Option String}
      (kind : Kind.ofType type = .row) : IsTablePart (.container type children attrs uid)
  | rowSection {type : Option String} {children : List Node} {attrs : Members}
      {uid : Option String} (kind : Kind.ofType type = .rowSection)
      (parts : ∀ child ∈ children, IsTablePart child) :
      IsTablePart (.container type children attrs uid)

/-- A node all of whose text runs are written: none lies under a rule or an image, and tables are
made of rows and sections. -/
inductive Legible : Node → Prop
  | leaf (text : String) (marks : List Mark) : Legible (.leaf text marks)
  | container {type : Option String} {children : List Node} {attrs : Members}
      {uid : Option String}
      (textless : Kind.ofType type = .rule ∨ Kind.ofType type = .image →
        ∀ child ∈ children, child.texts = [])
      (parts : Kind.ofType type = .table → ∀ child ∈ children, IsTablePart child)
      (below : ∀ child ∈ children, Legible child) :
      Legible (.container type children attrs uid)

theorem Legible.children {type : Option String} {children : List Node} {attrs : Members}
    {uid : Option String} (h : Legible (.container type children attrs uid)) :
    ∀ child ∈ children, Legible child := by
  cases h with
  | container _ _ below => exact below

end Node

/-! ## The ways in which containers are written -/

theorem keeps_wrapMarks (text : String) (marks : List Mark) :
    Keeps text (wrapMarks text marks) := by
  -- Text in the middle of the wrapping stays: the induction is for a text wrapped already.
  suffices h : ∀ form, Keeps text form →
      Keeps text (marks.foldl (fun form mark => mark.wrappers.1 ++ (form ++ mark.wrappers.2)) form)
    from h text (.refl text)
  induction marks with
  | nil => exact fun _ hform => hform
  | cons mark rest ih => exact fun form hform => ih _ ((hform.after _).before _)

theorem keeps_bulletLines (items : List String) :
    Keeps (concat items) (concat (bulletLines items)) :=
  .concat_forms fun item _ => (Keeps.refl item).strip.before "- "

theorem keeps_numberedLines (n : Nat) (items : List String) :
    Keeps (concat items) (concat (numberedLines n items)) := by
  induction items generalizing n with
  | nil => exact .refl _
  | cons item rest ih =>
    exact (((Keeps.refl item).strip.before ". ").before _).append (ih (n + 1))

/-- A container other than a table keeps the forms of its children, rules and images excepted. -/
theorem keeps_containerText {kind : Kind} (hrule : kind ≠ .rule) (himage : kind ≠ .image)
    (attrs : Members) (children : List String) :
    Keeps (concat children) (containerText kind attrs children) := by
  have hcontent := Keeps.refl (concat children)
  cases kind with
  | rule => exact absurd rfl hrule
  | image => exact absurd rfl himage
  | document => exact hcontent.strip
  | paragraph => exact hcontent.after _
  | heading level => exact ((hcontent.after _).before _).before _
  | quotation => exact (keeps_blockquote _).after _
  | bulletList => exact ((keeps_bulletLines _).trans (keeps_joinWith _ _)).after _
  | numberedList => exact ((keeps_numberedLines 1 _).trans (keeps_joinWith _ _)).after _
  | listItem => exact hcontent.strip
  | codeBlock => exact (((hcontent.strip.after _).before _).before _).before _
  | link => exact (hcontent.after _).before _
  | table => exact hcontent
  | row => exact hcontent
  | rowSection => exact hcontent
  | other => exact hcontent

theorem keeps_cellRow (cells : List String) : Keeps (concat cells) (cellRow cells) := by
  have hcells : Keeps (concat cells)
      (concat (cells.map fun cell => escapeCell (Text.strip cell))) :=
    .concat_forms fun cell _ => (Keeps.refl cell).strip.trans (keeps_escapeCell _)
  exact hcells.trans (keeps_tableRow _)

theorem keeps_tableText (rows : List (List String)) :
    Keeps (concat (rows.map concat)) (tableText rows) := by
  cases rows with
  | nil => exact .refl _
  | cons head rows =>
    have hrows : Keeps (concat (rows.map concat)) (concat (rows.map cellRow)) :=
      .concat_map fun row _ => keeps_cellRow row
    -- The separator stands between the head and the other rows.
    have hlines := (keeps_cellRow head).append (hrows.before (separatorRow head.length))
    exact (hlines.trans (keeps_joinWith "\n" (cellRow head :: _ :: _))).after _

/-! ## The whole tree -/

namespace Node

/-- The forms of the cells of the rows among nodes keep the texts under the nodes if those of each
node do. -/
theorem keeps_tableRows {nodes : List Node}
    (h : ∀ node ∈ nodes, Keeps (concat node.texts) (concat ((rowsOf node).map concat))) :
    Keeps (concat (textsAll nodes)) (concat ((tableRows nodes).map concat)) := by
  induction nodes with
  | nil => exact .refl _
  | cons node rest ih =>
    rw [List.forall_mem_cons] at h
    rw [textsAll, tableRows, List.map_append, concat_append, concat_append]
    exact h.1.append (ih h.2)

/-- The form of a legible node keeps its texts, and so do the cells of its rows if it is a part of a
table. -/
theorem Legible.keeps {node : Node} (h : node.Legible) :
    Keeps (concat node.texts) node.markdown ∧
      (node.IsTablePart → Keeps (concat node.texts) (concat ((rowsOf node).map concat))) := by
  induction node using Node.induct with
  | leaf text marks =>
    refine ⟨?_, nofun⟩
    rw [texts, markdown, concat_cons, concat_nil, String.append_empty]
    exact keeps_wrapMarks text marks
  | container type children attrs uid ih =>
    have hforms : Keeps (concat (textsAll children)) (concat (markdownAll children)) := by
      rw [concat_textsAll, markdownAll_eq]
      exact .concat_map fun child hchild => (ih child hchild (h.children child hchild)).1
    have hrows (hparts : ∀ child ∈ children, child.IsTablePart) :
        Keeps (concat (textsAll children)) (concat ((tableRows children).map concat)) :=
      keeps_tableRows fun child hchild =>
        (ih child hchild (h.children child hchild)).2 (hparts child hchild)
    refine ⟨?_, fun hpart => ?_⟩
    · rw [texts, markdown]
      cases h with
      | container textless parts _ =>
        split
        · next htable => exact (hrows (parts htable)).trans (keeps_tableText _)
        · by_cases hnone : Kind.ofType type = .rule ∨ Kind.ofType type = .image
          · rw [textsAll_eq_nil (textless hnone)]
            exact .of_empty rfl _
          · rw [not_or] at hnone
            exact hforms.trans (keeps_containerText hnone.1 hnone.2 attrs _)
    · rw [texts, rowsOf]
      cases hpart with
      | row hkind =>
        rw [hkind]
        simpa using hforms
      | rowSection hkind hparts =>
        rw [hkind]
        exact hrows hparts

/-- **Rich text loses no text.** The characters of all text runs that are not blank, in document
order, are a subsequence of the Markdown form of the tree they are in. -/
theorem visible_sublist_markdown {node : Node} (h : node.Legible) :
    (visible (concat node.texts)).Sublist node.markdown.toList :=
  h.keeps.1.sublist_toList

/-- A table whose head is a section with a pipe in it, and whose other row holds a list and an image
without text. -/
theorem visible_sublist_markdown_table :
    let cell (children : List Node) : Node := .container (some "td") children [] none
    let head : Node := .container (some "thead")
      [.container (some "tr") [cell [.leaf "a|b" [.bold]], cell []] [] none] [] none
    let image : Node := .container (some "img") [] [] none
    let row : Node := .container (some "tr")
      [cell [.container (some "ol") [.container (some "li") [.leaf " c " []] [] none] [] none],
        image] [] none
    let table : Node := .container (some "table") [head, row] [] none
    table.Legible ∧
      table.markdown = "| **a\\|b** |  |\n| --- | --- |\n| 1. c | ![Image]() |\n\n" ∧
      (visible (concat table.texts)).Sublist table.markdown.toList := by
  intro cell head image row table
  have plain {type : String} {children : List Node}
      (hkind : Kind.ofType (some type) ∉ [.rule, .image, .table])
      (h : ∀ child ∈ children, Legible child) :
      Legible (.container (some type) children [] none) := by
    simp only [List.mem_cons, not_or] at hkind
    exact .container (fun hnone => (hnone.elim hkind.1 hkind.2.1).elim)
      (fun htable => (hkind.2.2.1 htable).elim) h
  have hhead : head.Legible := by
    refine plain (by decide) (List.forall_mem_singleton.2 (plain (by decide) ?_))
    refine List.forall_mem_cons.2 ⟨?_, List.forall_mem_singleton.2 (plain (by decide) nofun)⟩
    exact plain (by decide) (List.forall_mem_singleton.2 (.leaf _ _))
  have himage : image.Legible :=
    .container (fun _ => nofun) (fun htable => absurd htable (by decide)) nofun
  have hlist : (cell [.container (some "ol")
      [.container (some "li") [.leaf " c " []] [] none] [] none]).Legible := by
    refine plain (by decide) (List.forall_mem_singleton.2 (plain (by decide) ?_))
    exact List.forall_mem_singleton.2 (plain (by decide) (List.forall_mem_singleton.2 (.leaf _ _)))
  have hrow : row.Legible :=
    plain (by decide) (List.forall_mem_cons.2 ⟨hlist, List.forall_mem_singleton.2 himage⟩)
  have hparts : ∀ part ∈ [head, row], part.IsTablePart := by
    refine List.forall_mem_cons.2 ⟨.rowSection rfl ?_, List.forall_mem_singleton.2 (.row rfl)⟩
    exact List.forall_mem_singleton.2 (.row rfl)
  have htable : table.Legible :=
    .container (fun hnone => absurd hnone (by decide)) (fun _ => hparts)
      (List.forall_mem_cons.2 ⟨hhead, List.forall_mem_singleton.2 hrow⟩)
  exact ⟨htable, by decide +kernel, visible_sublist_markdown htable⟩

end Node

end ContentModel.RichText
