import ContentModel.Markdown.Basic
import ContentModel.Proofs.Text.Lines

/-!
# Rows of tables

The cells that a reader finds in a line of a table: it is cut at the pipes that no backslash stands
before.

* `Markdown.splitPipes` cuts a text there, `Markdown.length_splitPipes_eq_one_iff` says when there is
  nothing to cut;
* `Markdown.ShowsCells` says that a line shows given cells between its outer pipes, up to blanks
  around them;
* `Markdown.showsCells_tableRow` says that the row of cells without bare pipes shows them,
  `Markdown.hasCells_tableRow_iff` that a row has as many cells as it is made from only then;
* `Markdown.isSealed_escapeCell` says that escaped texts have no bare pipes;
* `Markdown.dashCells` counts the cells of a separator.
-/

namespace ContentModel.Markdown

open Text

/-! ## Bare pipes -/

/-- The pieces of a text between the pipes that no backslash stands before, given the character
before the text. There is always one. -/
def splitPipes : (previous : Char) → List Char → List (List Char)
  | _, [] => [[]]
  | previous, c :: rest =>
    if c = '|' ∧ previous ≠ '\\' then [] :: splitPipes c rest
    else (splitPipes c rest).modifyHead (c :: ·)

/-- Every pipe of a text has a backslash before it. -/
def IsSealed (text : String) : Prop :=
  ∀ before after, text.toList = before ++ '|' :: after → before.getLast? = some '\\'

variable {previous : Char} {text : List Char}

theorem splitPipes_ne_nil (previous : Char) (text : List Char) : splitPipes previous text ≠ [] := by
  induction text generalizing previous with
  | nil => simp [splitPipes]
  | cons c rest ih =>
    rw [splitPipes]
    split
    · simp
    · simpa using ih c

theorem joinChars_splitPipes (previous : Char) (text : List Char) :
    joinChars '|' (splitPipes previous text) = text := by
  induction text generalizing previous with
  | nil => rfl
  | cons c rest ih =>
    obtain ⟨first, others, hsplit⟩ := List.exists_cons_of_ne_nil (splitPipes_ne_nil c rest)
    have hrest := ih c
    rw [hsplit] at hrest
    rw [splitPipes, hsplit]
    split
    · next hpipe => simp [joinChars, hrest, hpipe.1]
    · cases others with
      | nil => simpa [joinChars] using hrest
      | cons next more => simpa [joinChars] using hrest

theorem splitPipes_of_length_eq_one (h : (splitPipes previous text).length = 1) :
    splitPipes previous text = [text] := by
  obtain ⟨piece, hpiece⟩ := List.length_eq_one_iff.1 h
  have hjoin := joinChars_splitPipes previous text
  rw [hpiece] at hjoin
  rw [hpiece, show piece = text from hjoin]

/-- There is nothing to cut just when every pipe has a backslash before it. -/
theorem length_splitPipes_eq_one_iff : (splitPipes previous text).length = 1 ↔
    ∀ before after, text = before ++ '|' :: after → before.getLastD previous = '\\' := by
  induction text generalizing previous with
  | nil => simp [splitPipes]
  | cons c rest ih =>
    rw [splitPipes]
    split
    · next hpipe =>
      have hpos := List.length_pos_iff.2 (splitPipes_ne_nil c rest)
      refine iff_of_false (by rw [List.length_cons]; omega) fun h => ?_
      exact hpipe.2 (h [] rest (by rw [hpipe.1]; rfl))
    · next hbare =>
      rw [List.length_modifyHead, ih]
      constructor
      · intro h before after heq
        cases before with
        | nil =>
          by_contra hprevious
          exact hbare ⟨(List.cons.inj heq).1, hprevious⟩
        | cons d front =>
          obtain ⟨rfl, hrest⟩ := List.cons.inj heq
          rw [List.getLastD_cons]
          exact h front after hrest
      · rintro h before after rfl
        have := h (c :: before) after rfl
        rwa [List.getLastD_cons] at this

theorem isSealed_iff {text : String} :
    IsSealed text ↔ (splitPipes ' ' text.toList).length = 1 := by
  rw [length_splitPipes_eq_one_iff]
  refine forall₃_congr fun before after _ => ?_
  rw [List.getLastD_eq_getLast?]
  cases before.getLast? with
  | none => simp
  | some c => simp

theorem length_splitPipes_escapeCellChars (previous : Char) (text : List Char) :
    (splitPipes previous (escapeCellChars text)).length = 1 := by
  induction text generalizing previous with
  | nil => rfl
  | cons c rest ih =>
    have hcons : escapeCellChars (c :: rest) =
        replaceChar '\n' [' '] (if c = '|' then ['\\', '|'] else [c]) ++ escapeCellChars rest := by
      rw [escapeCellChars, replaceChar_cons]
      exact List.flatMap_append
    rw [hcons]
    by_cases hpipe : c = '|'
    · subst hpipe
      simpa [replaceChar, splitPipes] using ih '|'
    by_cases hnewline : c = '\n'
    · subst hnewline
      simpa [replaceChar, splitPipes] using ih ' '
    · simpa [replaceChar, splitPipes, hpipe, hnewline] using ih c

/-- Escaping puts a backslash before every pipe. -/
theorem isSealed_escapeCell (text : String) : IsSealed (escapeCell text) := by
  rw [isSealed_iff, escapeCell, String.toList_ofList]
  exact length_splitPipes_escapeCellChars ' ' text.toList

/-! ## The cells of a line -/

/-- The texts between the outer pipes of a line, one for each cell. -/
def CellTexts (line : String) (inner : List String) : Prop :=
  (splitPipes ' ' line.toList).map String.ofList = "" :: (inner ++ [""])

/-- Between its outer pipes a line has as many cells. -/
def HasCells (n : Nat) (line : String) : Prop := ∃ inner, CellTexts line inner ∧ inner.length = n

/-- Between its outer pipes a line shows these cells, up to blanks around them. -/
def ShowsCells (cells : List String) (line : String) : Prop :=
  ∃ inner, CellTexts line inner ∧ inner.map strip = cells.map strip

theorem ShowsCells.hasCells {cells : List String} {line : String} (h : ShowsCells cells line) :
    HasCells cells.length line := by
  obtain ⟨inner, hinner, hstrip⟩ := h
  exact ⟨inner, hinner, by simpa using congrArg List.length hstrip⟩

/-! ## Rows -/

theorem toList_tableRow {cells : List String} (h : cells ≠ []) : (tableRow cells).toList =
    '|' :: cells.flatMap fun cell => ' ' :: (cell.toList ++ [' ', '|']) := by
  have hinner : ∀ (cell : String) (rest : List String),
      ' ' :: ((joinWith " | " (cell :: rest)).toList ++ [' ', '|']) =
        (cell :: rest).flatMap fun cell => ' ' :: (cell.toList ++ [' ', '|']) := by
    intro cell rest
    induction rest generalizing cell with
    | nil => simp
    | cons next more ih => simp [joinWith_cons_cons, ← ih next]
  obtain ⟨cell, rest, rfl⟩ := List.exists_cons_of_ne_nil h
  rw [← hinner]
  simp [tableRow]

/-- What stands in a row between two pipes that are put there. -/
def cellPieces (cell : String) : List (List Char) :=
  splitPipes '|' (' ' :: (cell.toList ++ [' ']))

theorem splitPipes_append_pipe (previous : Char) (text rest : List Char) :
    splitPipes previous (text ++ ' ' :: '|' :: rest) =
      splitPipes previous (text ++ [' ']) ++ splitPipes '|' rest := by
  induction text generalizing previous with
  | nil => simp [splitPipes]
  | cons c more ih =>
    obtain ⟨first, others, hsplit⟩ :=
      List.exists_cons_of_ne_nil (splitPipes_ne_nil c (more ++ [' ']))
    rw [List.cons_append, List.cons_append, splitPipes, splitPipes, ih, hsplit]
    split <;> rfl

theorem splitPipes_tableRow {cells : List String} (h : cells ≠ []) :
    splitPipes ' ' (tableRow cells).toList = [] :: (cells.flatMap cellPieces ++ [[]]) := by
  rw [toList_tableRow h, splitPipes, if_pos (by decide)]
  congr 1
  clear h
  induction cells with
  | nil => rfl
  | cons cell rest ih =>
    have hcell := splitPipes_append_pipe '|' (' ' :: cell.toList)
      (rest.flatMap fun cell => ' ' :: (cell.toList ++ [' ', '|']))
    simp only [List.flatMap_cons, List.append_assoc, List.cons_append, List.nil_append, ih]
      at hcell ⊢
    exact hcell

theorem length_splitPipes_append_blank (previous : Char) (text : List Char) :
    (splitPipes previous (text ++ [' '])).length = (splitPipes previous text).length := by
  induction text generalizing previous with
  | nil => simp [splitPipes]
  | cons c rest ih =>
    rw [List.cons_append, splitPipes, splitPipes]
    split <;> simp [ih]

theorem length_cellPieces (cell : String) :
    (cellPieces cell).length = (splitPipes ' ' cell.toList).length := by
  rw [cellPieces, splitPipes, if_neg (by decide), List.length_modifyHead,
    length_splitPipes_append_blank]

theorem cellPieces_of_isSealed {cell : String} (h : IsSealed cell) :
    cellPieces cell = [' ' :: (cell.toList ++ [' '])] :=
  splitPipes_of_length_eq_one ((length_cellPieces cell).trans (isSealed_iff.1 h))

theorem strip_blank_around (text : String) : strip (" " ++ (text ++ " ")) = strip text := by
  have hblank : isBlank ' ' = true := by decide
  simp only [strip, trimChars, String.toList_append]
  congr 1
  change trimEnd isBlank ((' ' :: (text.toList ++ [' '])).dropWhile isBlank) = _
  rw [List.dropWhile_cons_of_pos hblank, List.dropWhile_append]
  split
  · next hnil => simp [List.isEmpty_iff.1 hnil, hblank]
  · exact trimEnd_append_of_all (by simp [hblank])

/-- A row shows the cells that it is made from if they have no bare pipes. -/
theorem showsCells_tableRow {cells : List String} (hne : cells ≠ [])
    (h : ∀ cell ∈ cells, IsSealed cell) : ShowsCells cells (tableRow cells) := by
  have hpieces : cells.flatMap cellPieces = cells.map fun cell => ' ' :: (cell.toList ++ [' ']) := by
    rw [List.map_eq_flatMap]
    exact List.flatMap_congr fun cell hcell => cellPieces_of_isSealed (h cell hcell)
  refine ⟨cells.map fun cell => " " ++ (cell ++ " "), ?_, ?_⟩
  · rw [CellTexts, splitPipes_tableRow hne, hpieces]
    simp
  · rw [List.map_map]
    exact List.map_congr_left fun cell _ => strip_blank_around cell

theorem length_le_length_cellPieces (cells : List String) :
    cells.length ≤ (cells.flatMap cellPieces).length := by
  induction cells with
  | nil => exact Nat.le_refl 0
  | cons cell rest ih =>
    have hpos := List.length_pos_iff.2 (splitPipes_ne_nil ' ' cell.toList)
    rw [List.flatMap_cons, List.length_append, length_cellPieces, List.length_cons]
    omega

theorem isSealed_of_length_cellPieces {cells : List String}
    (h : (cells.flatMap cellPieces).length = cells.length) : ∀ cell ∈ cells, IsSealed cell := by
  induction cells with
  | nil => nofun
  | cons cell rest ih =>
    have hpos := List.length_pos_iff.2 (splitPipes_ne_nil ' ' cell.toList)
    have hrest := length_le_length_cellPieces rest
    rw [List.flatMap_cons, List.length_append, length_cellPieces, List.length_cons] at h
    exact List.forall_mem_cons.2 ⟨isSealed_iff.2 (by omega), ih (by omega)⟩

/-- A row has as many cells as it is made from just when none of them has a bare pipe. -/
theorem hasCells_tableRow_iff {cells : List String} (hne : cells ≠ []) :
    HasCells cells.length (tableRow cells) ↔ ∀ cell ∈ cells, IsSealed cell := by
  refine ⟨?_, fun h => (showsCells_tableRow hne h).hasCells⟩
  rintro ⟨inner, hinner, hlength⟩
  have hpieces := congrArg List.length hinner
  rw [splitPipes_tableRow hne] at hpieces
  simp only [List.length_map, List.length_cons, List.length_append, List.length_nil] at hpieces
  exact isSealed_of_length_cellPieces (by omega)

/-- A row is a single line just when its cells are. -/
theorem newline_notMem_tableRow_iff {cells : List String} :
    '\n' ∉ (tableRow cells).toList ↔ ∀ cell ∈ cells, '\n' ∉ cell.toList := by
  cases cells with
  | nil => decide
  | cons cell rest => simp [toList_tableRow, List.mem_flatMap]

/-! ## Separators -/

/-- The number of cells of a line that show three dashes. -/
def dashCells (line : String) : Nat :=
  ((splitPipes ' ' line.toList).map fun piece => strip (String.ofList piece)).count "---"

theorem showsCells_separatorRow {n : Nat} (hn : 0 < n) :
    ShowsCells (List.replicate n "---") (separatorRow n) := by
  have hdashes : IsSealed "---" := isSealed_iff.2 (by decide)
  refine showsCells_tableRow (by simpa using hn.ne') fun cell hcell => ?_
  rwa [(List.mem_replicate.1 hcell).2]

theorem dashCells_separatorRow (n : Nat) : dashCells (separatorRow n) = n := by
  rcases Nat.eq_zero_or_pos n with rfl | hn
  · decide
  · obtain ⟨inner, hinner, hstrip⟩ := showsCells_separatorRow hn
    have hblank : strip "" = "" := by decide
    have hcells : dashCells (separatorRow n) = (("" :: (inner ++ [""])).map strip).count "---" := by
      rw [← hinner, List.map_map]
      rfl
    have hdashes : strip "---" = "---" := by decide
    rw [hcells, List.map_cons, List.map_append, hstrip, List.map_replicate, hdashes,
      List.map_singleton, hblank]
    simp

theorem newline_notMem_separatorRow (n : Nat) : '\n' ∉ (separatorRow n).toList := by
  refine newline_notMem_tableRow_iff.2 fun cell hcell => ?_
  rw [(List.mem_replicate.1 hcell).2]
  decide

end ContentModel.Markdown
