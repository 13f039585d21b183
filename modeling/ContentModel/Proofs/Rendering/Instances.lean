import Mathlib.Data.List.Forall2
import ContentModel.Proofs.Markdown.Table
import ContentModel.Proofs.Rendering.Shown

/-!
# Tables of repeatable groups

* `Rendering.ShowsInstance` says that a line of a table shows an instance of a repeatable group,
  each cell the value of its field;
* `Rendering.IsRectangular` says that a table has a head, a separator and as many rows as asked for,
  and that every line has the same number of cells;
* `Rendering.isRectangular_instanceTable_iff` is the main statement: the separator and the rows are
  always as they should be, the head is if the labels of the columns have no line feeds and no bare
  pipes.
-/

namespace ContentModel.Rendering

open Text Markdown

/-- A cell shows the value of a field in an instance: its rendering, escaped, or nothing if the value
is empty or the instance is no object. -/
inductive ShowsValue (options : RenderOptions) (item : Json) (field : Field) : String → Prop
  | empty (h : item.isObject = false ∨ (valueOf item.members field.uid).isEmptyValue = true) :
      ShowsValue options item field ""
  | rendered {text : String} (object : item.isObject = true)
      (filled : (valueOf item.members field.uid).isEmptyValue = false)
      (rendering : primitive options field.toFieldInfo (valueOf item.members field.uid) =
        .ok (.str text)) :
      ShowsValue options item field (escapeCell text)

/-- A line of a table shows an instance of a repeatable group, with a cell for each field. -/
def ShowsInstance (options : RenderOptions) (fields : List Field) (item : Json) (line : String) :
    Prop :=
  ∃ cells, List.Forall₂ (ShowsValue options item) fields cells ∧ ShowsCells cells line

/-- A table has a head, a separator and so many rows, and so many cells in every line. -/
def IsRectangular (rows width : Nat) (table : String) : Prop :=
  (lines table).length = rows + 2 ∧ ∀ line ∈ lines table, HasCells width line

variable {options : RenderOptions} {fields : List Field} {items : List Json}

/-! ## Cells and rows -/

theorem forall_mem_right {α β : Type} {shows : α → β → Prop} {good : β → Prop} {items : List α}
    {others : List β} (h : List.Forall₂ shows items others)
    (hgood : ∀ item other, shows item other → good other) : ∀ other ∈ others, good other := by
  induction h with
  | nil => nofun
  | cons hhead _ ih => exact List.forall_mem_cons.2 ⟨hgood _ _ hhead, ih⟩

theorem ShowsValue.fits {item : Json} {field : Field} {cell : String}
    (h : ShowsValue options item field cell) : IsSealed cell ∧ '\n' ∉ cell.toList := by
  cases h with
  | empty => exact ⟨isSealed_iff.2 rfl, by decide⟩
  | rendered => exact ⟨isSealed_escapeCell _, newline_notMem_escapeCell _⟩

theorem ShowsInstance.hasCells {item : Json} {line : String}
    (h : ShowsInstance options fields item line) : HasCells fields.length line := by
  obtain ⟨cells, hcells, hshows⟩ := h
  exact hcells.length_eq ▸ hshows.hasCells

theorem valueOf_eq_null {item : Json} (h : item.isObject = false) (uid : String) :
    valueOf item.members uid = .null := by
  cases item with
  | obj members => cases h
  | _ => rfl

theorem cellText_eq_ok {rendered : Json} {cell : String} (h : cellText rendered = .ok cell) :
    ∃ text, rendered = .str text ∧ cell = escapeCell text := by
  cases rendered with
  | str text => exact ⟨text, rfl, (Except.ok.inj h).symm⟩
  | _ => cases h

theorem forall₂_showsValue {item : Json} {cells : List String}
    (h : instanceCells options item.members fields = .ok cells) :
    List.Forall₂ (ShowsValue options item) fields cells := by
  induction fields generalizing cells with
  | nil =>
    cases h
    exact .nil
  | cons field rest ih =>
    rw [instanceCells] at h
    split at h
    · next hempty =>
      obtain ⟨_, hcell, h⟩ := bind_eq_ok h
      obtain ⟨others, hothers, h⟩ := bind_eq_ok h
      cases hcell
      cases h
      exact .cons (.empty (Or.inr hempty)) (ih hothers)
    · next hfilled =>
      obtain ⟨cell, hcell, h⟩ := bind_eq_ok h
      obtain ⟨others, hothers, h⟩ := bind_eq_ok h
      obtain ⟨rendered, hrendering, hcell⟩ := bind_eq_ok hcell
      obtain ⟨text, rfl, rfl⟩ := cellText_eq_ok hcell
      cases h
      have hobject : item.isObject = true := by
        by_contra hnot
        rw [valueOf_eq_null (Bool.not_eq_true _ ▸ hnot)] at hfilled
        exact hfilled rfl
      exact .cons (.rendered hobject (Bool.not_eq_true _ ▸ hfilled) hrendering) (ih hothers)

theorem forall₂_showsInstance {rows : List String} (hfields : fields ≠ [])
    (h : instanceRows options fields items = .ok rows) :
    List.Forall₂ (ShowsInstance options fields) items rows ∧ ∀ row ∈ rows, '\n' ∉ row.toList := by
  induction items generalizing rows with
  | nil =>
    cases h
    exact ⟨.nil, nofun⟩
  | cons item rest ih =>
    rw [instanceRows] at h
    obtain ⟨cells, hcells, h⟩ := bind_eq_ok h
    obtain ⟨others, hothers, h⟩ := bind_eq_ok h
    cases h
    have hshows := forall₂_showsValue hcells
    have hfits : ∀ cell ∈ cells, IsSealed cell ∧ '\n' ∉ cell.toList :=
      forall_mem_right hshows fun _ _ => ShowsValue.fits
    have hne : cells ≠ [] := by
      rintro rfl
      cases hshows
      exact hfields rfl
    obtain ⟨hrest, hfree⟩ := ih hothers
    refine ⟨.cons ⟨cells, hshows, showsCells_tableRow hne fun cell hcell => (hfits cell hcell).1⟩
      hrest, List.forall_mem_cons.2 ⟨?_, hfree⟩⟩
    exact newline_notMem_tableRow_iff.2 fun cell hcell => (hfits cell hcell).2

/-! ## Tables -/

/-- The labels of the columns of a repeatable group. -/
def columnLabels (options : RenderOptions) (fields : List Field) : List String :=
  (columns options fields).map fun field => field.label

theorem lines_instanceTable {table : String} (hitems : items ≠ [])
    (hcolumns : columns options fields ≠ [])
    (h : instanceTable options fields (.arr items) = .ok table) :
    ∃ rows, instanceRows options (columns options fields) items = .ok rows ∧
      lines table = lines (tableRow (columnLabels options fields)) ++
        separatorRow (columns options fields).length :: rows := by
  obtain ⟨item, rest, rfl⟩ := List.exists_cons_of_ne_nil hitems
  have hshown : (columns options fields).isEmpty = false := by simpa using hcolumns
  simp only [instanceTable, hshown] at h
  obtain ⟨rows, hrows, h⟩ := bind_eq_ok h
  cases h
  have hfree := (forall₂_showsInstance hcolumns hrows).2
  refine ⟨rows, hrows, ?_⟩
  rw [lines_joinWith (List.cons_ne_nil _ _), List.flatMap_cons, flatMap_lines_of_notMem
    (List.forall_mem_cons.2 ⟨newline_notMem_separatorRow _, hfree⟩)]
  rfl

/-- **The tables of repeatable groups are rectangular but for the labels of their columns.** The
table of a list of instances, where it can be written, consists of the lines of its head, of a
separator with three dashes for each column, and of a line for each instance in which every column
shows the value of its field, or nothing if the value is empty or the instance is no object. It has
one line for the head and as many cells in every line as there are columns just when the labels have
no line feeds and no bare pipes. -/
theorem isRectangular_instanceTable_iff {table : String} (hitems : items ≠ [])
    (hcolumns : columns options fields ≠ [])
    (h : instanceTable options fields (.arr items) = .ok table) :
    (∃ separator rows,
      lines table = lines (tableRow (columnLabels options fields)) ++ separator :: rows ∧
      ShowsCells (List.replicate (columns options fields).length "---") separator ∧
      List.Forall₂ (ShowsInstance options (columns options fields)) items rows) ∧
    (IsRectangular items.length (columns options fields).length table ↔
      ∀ label ∈ columnLabels options fields, '\n' ∉ label.toList ∧ IsSealed label) := by
  obtain ⟨rows, hrows, hlines⟩ := lines_instanceTable hitems hcolumns h
  obtain ⟨hshows, -⟩ := forall₂_showsInstance hcolumns hrows
  have hseparator := showsCells_separatorRow (List.length_pos_iff.2 hcolumns)
  have hhead : HasCells (columns options fields).length (tableRow (columnLabels options fields)) ↔
      ∀ label ∈ columnLabels options fields, IsSealed label := by
    rw [← hasCells_tableRow_iff (by simpa [columnLabels] using hcolumns), columnLabels,
      List.length_map]
  refine ⟨⟨_, rows, hlines, hseparator, hshows⟩, ?_⟩
  rw [IsRectangular, hlines, List.length_append, List.length_cons, ← hshows.length_eq]
  constructor
  · rintro ⟨hlength, hcells⟩
    have hfree : '\n' ∉ (tableRow (columnLabels options fields)).toList :=
      length_lines_eq_one_iff.1 (by omega)
    have hsealed := hhead.1 (hcells _ (by simp [lines_of_notMem hfree]))
    exact fun label hlabel => ⟨newline_notMem_tableRow_iff.1 hfree label hlabel,
      hsealed label hlabel⟩
  · intro hfits
    have hfree : '\n' ∉ (tableRow (columnLabels options fields)).toList :=
      newline_notMem_tableRow_iff.2 fun label hlabel => (hfits label hlabel).1
    rw [lines_of_notMem hfree]
    refine ⟨by rw [List.length_singleton]; omega, ?_⟩
    rw [List.singleton_append, List.forall_mem_cons, List.forall_mem_cons]
    refine ⟨hhead.2 fun label hlabel => (hfits label hlabel).2, ?_, ?_⟩
    · simpa using hseparator.hasCells
    · exact forall_mem_right hshows fun _ _ => ShowsInstance.hasCells

/-- Two instances, one of which has a pipe and a line feed in its value and one of which is no
object: with one column the table is rectangular, with another whose label has a pipe it is not. -/
theorem isRectangular_instanceTable_iff_label :
    let plain : Field := ⟨{ uid := "a", dataType := some "text" }, [], []⟩
    let piped : Field :=
      ⟨{ uid := "b", dataType := some "text", displayName := some "x|y" }, [], []⟩
    let items : List Json := [.obj [("a", .str "1|2\n3")], .str "none"]
    let narrow : String := "| a |\n| --- |\n| 1\\|2 3 |\n|  |"
    let wide : String := "| a | x|y |\n| --- | --- |\n| 1\\|2 3 |  |\n|  |  |"
    instanceTable {} [plain] (.arr items) = .ok narrow ∧ IsRectangular 2 1 narrow ∧
      instanceTable {} [plain, piped] (.arr items) = .ok wide ∧ ¬ IsRectangular 2 2 wide := by
  intro plain piped items narrow wide
  have hnarrow : instanceTable {} [plain] (.arr items) = .ok narrow := by decide +kernel
  have hwide : instanceTable {} [plain, piped] (.arr items) = .ok wide := by decide +kernel
  have hone : columnLabels {} [plain] = ["a"] := by decide +kernel
  have htwo : columnLabels {} [plain, piped] = ["a", "x|y"] := by decide +kernel
  have hitems : items ≠ [] := List.cons_ne_nil _ _
  obtain ⟨-, hrectangular⟩ :=
    isRectangular_instanceTable_iff hitems (by decide +kernel) hnarrow
  obtain ⟨-, hnot⟩ := isRectangular_instanceTable_iff hitems (by decide +kernel) hwide
  rw [hone, List.forall_mem_singleton,
    show (columns {} [plain]).length = 1 by decide +kernel] at hrectangular
  rw [htwo, show (columns {} [plain, piped]).length = 2 by decide +kernel] at hnot
  refine ⟨hnarrow, hrectangular.2 ⟨by decide, isSealed_iff.2 (by decide)⟩, hwide, fun h => ?_⟩
  have hsealed := (hnot.1 h "x|y" (by simp)).2
  exact absurd (isSealed_iff.1 hsealed) (by decide)

end ContentModel.Rendering
