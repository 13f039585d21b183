import Mathlib.Data.List.Forall2
import ContentModel.Proofs.Markdown.Table
import ContentModel.Proofs.RichText.Lossless

/-!
# Tables of rich text

* `Node.rowsIn` are the cells of the rows among nodes, those in sections included, in document
  order; `Node.tableRows_eq` says that these are the rows that are written;
* `Node.ShowsRow` says that a line of a table shows a row;
* `Node.lines_markdown_table` is the main statement: a table has a line for each row and a separator
  below the first one, whatever is in the cells.
-/

namespace ContentModel.RichText

open Text Markdown

/-! ## Rows -/

theorem Kind.ofType_eq_row_iff {type : Option String} :
    Kind.ofType type = .row ↔ type = some "tr" ∨ type = some "row" := by
  constructor
  · intro h
    unfold Kind.ofType at h
    split at h <;> simp_all
  · rintro (rfl | rfl) <;> rfl

theorem Kind.ofType_eq_rowSection_iff {type : Option String} :
    Kind.ofType type = .rowSection ↔
      type = some "thead" ∨ type = some "tbody" ∨ type = some "tfoot" := by
  constructor
  · intro h
    unfold Kind.ofType at h
    split at h <;> simp_all
  · rintro (rfl | rfl | rfl) <;> rfl

namespace Node

mutual

/-- The cells of the rows among nodes, row by row; a section stands for the rows in it. -/
def rowsIn : List Node → List (List Node)
  | [] => []
  | node :: rest => rowsAt node ++ rowsIn rest

/-- The cells of a row, or of the rows of a section. -/
def rowsAt : Node → List (List Node)
  | .leaf _ _ => []
  | .container type children _ _ =>
    if type = some "tr" ∨ type = some "row" then [children]
    else if type = some "thead" ∨ type = some "tbody" ∨ type = some "tfoot" then rowsIn children
    else []

end

theorem rowsOf_eq (node : Node) : rowsOf node = (rowsAt node).map markdownAll := by
  induction node using Node.induct with
  | leaf text marks => rfl
  | container type children attrs uid ih =>
    have hbelow : tableRows children = (rowsIn children).map markdownAll := by
      clear attrs uid
      induction children with
      | nil => rfl
      | cons child rest ihRest =>
        rw [List.forall_mem_cons] at ih
        rw [tableRows, rowsIn, List.map_append, ih.1, ihRest ih.2]
    rw [rowsOf, rowsAt]
    split
    · next hrow => rw [if_pos (Kind.ofType_eq_row_iff.1 hrow)]; rfl
    · next hsection =>
      have hnot : ¬ (type = some "tr" ∨ type = some "row") := by
        rw [← Kind.ofType_eq_row_iff, hsection]
        decide
      rw [if_neg hnot, if_pos (Kind.ofType_eq_rowSection_iff.1 hsection), hbelow]
    · next hrow hsection =>
      rw [if_neg (mt Kind.ofType_eq_row_iff.2 hrow),
        if_neg (mt Kind.ofType_eq_rowSection_iff.2 hsection)]
      rfl

/-- The rows that are written are the rows among the nodes. -/
theorem tableRows_eq (nodes : List Node) : tableRows nodes = (rowsIn nodes).map markdownAll := by
  induction nodes with
  | nil => rfl
  | cons node rest ih => rw [tableRows, rowsIn, List.map_append, rowsOf_eq, ih]

/-! ## Lines -/

/-- What a table shows of a cell: its form, trimmed, with pipes escaped and line feeds turned into
blanks. -/
def cellForm (cell : Node) : String := escapeCell (strip cell.markdown)

/-- A line of a table shows the cells of a row, if there are any. -/
def ShowsRow (cells : List Node) (line : String) : Prop :=
  cells ≠ [] → ShowsCells (cells.map cellForm) line

theorem cellRow_markdownAll (cells : List Node) :
    cellRow (markdownAll cells) = tableRow (cells.map cellForm) := by
  rw [cellRow, markdownAll_eq, List.map_map]
  rfl

theorem showsRow_cellRow (cells : List Node) : ShowsRow cells (cellRow (markdownAll cells)) := by
  intro hne
  rw [cellRow_markdownAll]
  refine showsCells_tableRow (by simpa using hne) fun form hform => ?_
  obtain ⟨cell, -, rfl⟩ := List.mem_map.1 hform
  exact isSealed_escapeCell _

theorem newline_notMem_cellRow (cells : List Node) :
    '\n' ∉ (cellRow (markdownAll cells)).toList := by
  rw [cellRow_markdownAll]
  refine newline_notMem_tableRow_iff.2 fun form hform => ?_
  obtain ⟨cell, -, rfl⟩ := List.mem_map.1 hform
  exact newline_notMem_escapeCell _

/-- **Tables are well formed, whatever is in their cells.** The form of a table that has a row is
followed by two line feeds. Without them it has one line for each row, in document order, and a
separator as its second line. A line of a row that has cells shows them: cut at the pipes without a
backslash before them, it has one text for each between its outer pipes, which is the form of the
cell, trimmed, with pipes escaped and line feeds turned into blanks. The separator has three dashes
for each cell of the first row. -/
theorem lines_markdown_table {children : List Node} (h : rowsIn children ≠ []) (attrs : Members)
    (uid : Option String) :
    ∃ text first rest head separator others,
      (container (some "table") children attrs uid).markdown = text ++ "\n\n" ∧
      rowsIn children = first :: rest ∧ lines text = head :: separator :: others ∧
      (lines text).length = (rowsIn children).length + 1 ∧
      List.Forall₂ ShowsRow (first :: rest) (head :: others) ∧
      dashCells separator = first.length ∧ (first ≠ [] → HasCells first.length separator) := by
  obtain ⟨first, rest, hrows⟩ := List.exists_cons_of_ne_nil h
  let row (cells : List Node) : String := cellRow (markdownAll cells)
  let all : List String := row first :: separatorRow first.length :: rest.map row
  have hlines : lines (joinWith "\n" all) = all := by
    rw [lines_joinWith (List.cons_ne_nil _ _)]
    refine flatMap_lines_of_notMem (List.forall_mem_cons.2 ⟨newline_notMem_cellRow first,
      List.forall_mem_cons.2 ⟨newline_notMem_separatorRow _, fun line hline => ?_⟩⟩)
    obtain ⟨cells, -, rfl⟩ := List.mem_map.1 hline
    exact newline_notMem_cellRow cells
  refine ⟨joinWith "\n" all, first, rest, row first, separatorRow first.length, rest.map row, ?_,
    hrows, hlines, ?_, ?_, dashCells_separatorRow _, fun hne => ?_⟩
  · have hlength : (markdownAll first).length = first.length := by
      rw [markdownAll_eq, List.length_map]
    rw [markdown, if_pos (show Kind.ofType (some "table") = .table from rfl), tableRows_eq, hrows,
      List.map_cons, tableText, hlength, List.map_map]
    rfl
  · rw [hlines, hrows]
    simp [all]
  · rw [← List.map_cons (f := row), List.forall₂_map_right_iff, List.forall₂_same]
    exact fun cells _ => showsRow_cellRow cells
  · simpa using (showsCells_separatorRow (List.length_pos_iff.2 hne)).hasCells

/-- A table whose head has a pipe behind a backslash and whose body has a row without cells and one
with a table and code of two lines in its cells. -/
theorem lines_markdown_table_nested :
    let cell (children : List Node) : Node := .container (some "td") children [] none
    let row (cells : List Node) : Node := .container (some "tr") cells [] none
    let inner : Node :=
      .container (some "table") [row [cell [.leaf "x" []], cell [.leaf "y" []]]] [] none
    let code : Node := .container (some "code") [.leaf "a\nb" []] [] none
    let first : List Node := [cell [.leaf "p\\|q" [.bold]], cell []]
    let last : List Node := [cell [inner], cell [code]]
    let children : List Node :=
      [.container (some "thead") [row first] [] none, .leaf "lost" [],
        .container (some "tbody") [row [], row last] [] none]
    rowsIn children = [first, [], last] ∧
      ∃ text head separator others,
        (container (some "table") children [] none).markdown = text ++ "\n\n" ∧
        lines text = head :: separator :: others ∧ (lines text).length = 4 ∧
        List.Forall₂ ShowsRow [first, [], last] (head :: others) ∧ dashCells separator = 2 ∧
        ShowsCells ["**p\\\\|q**", ""] head := by
  intro cell row inner code first last children
  have hrows : rowsIn children = [first, [], last] := rfl
  obtain ⟨text, front, rest, head, separator, others, hform, heq, hlines, hlength, hshows, hdashes,
    -⟩ := lines_markdown_table (show rowsIn children ≠ [] by rw [hrows]; exact List.cons_ne_nil _ _)
      [] none
  cases hrows.symm.trans heq
  refine ⟨hrows, text, head, separator, others, hform, hlines, hlength, hshows, hdashes, ?_⟩
  have hhead := (List.forall₂_cons.1 hshows).1 (List.cons_ne_nil _ _)
  have hcells : first.map cellForm = ["**p\\\\|q**", ""] := by decide +kernel
  rwa [hcells] at hhead

end Node

end ContentModel.RichText
