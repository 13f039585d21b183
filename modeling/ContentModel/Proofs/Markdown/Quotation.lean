import ContentModel.Markdown.Basic
import ContentModel.Proofs.Text.Lines

/-!
# Quotations

A quotation is read line by line: what begins with the sign `>` belongs to it.

* `Markdown.IsQuoted` says that every line of a text is marked as a quotation,
  `Markdown.IsQuotedBelow` that every line below the first is;
* `Markdown.isQuoted_blockquote` says that `blockquote` marks every line, whatever the text;
* `Markdown.isQuoted_append_iff` says that a mark in front of a text leaves it to the text whether
  the lines below the first are marked.
-/

namespace ContentModel.Markdown

open Text

/-- A line begins with the sign of a quotation. -/
def IsMarked (line : String) : Prop := line.toList.head? = some '>'

instance (line : String) : Decidable (IsMarked line) :=
  inferInstanceAs (Decidable (line.toList.head? = some '>'))

/-- Every line of a text begins with the sign of a quotation. -/
def IsQuoted (text : String) : Prop := ∀ line ∈ lines text, IsMarked line

instance (text : String) : Decidable (IsQuoted text) :=
  inferInstanceAs (Decidable (∀ line ∈ lines text, IsMarked line))

/-- Every line of a text but the first begins with the sign of a quotation. -/
def IsQuotedBelow (text : String) : Prop := ∀ line ∈ (lines text).tail, IsMarked line

instance (text : String) : Decidable (IsQuotedBelow text) :=
  inferInstanceAs (Decidable (∀ line ∈ (lines text).tail, IsMarked line))

/-! ## Every line marked -/

theorem joinWith_marks {texts : List String} (h : texts ≠ []) :
    "> " ++ joinWith "\n> " texts = joinWith "\n" (texts.map ("> " ++ ·)) := by
  induction texts with
  | nil => exact absurd rfl h
  | cons text rest ih =>
    cases rest with
    | nil => rfl
    | cons next more =>
      have hrest := ih (List.cons_ne_nil next more)
      rw [joinWith_cons_cons, List.map_cons, List.map_cons, joinWith_cons_cons, ← List.map_cons,
        ← hrest]
      simp [String.ext_iff]

/-- The lines of a quotation are those of the text, trimmed, each with a mark. -/
theorem lines_blockquote (text : String) :
    lines (blockquote text) = (lines (strip text)).map ("> " ++ ·) := by
  have hne : lines (strip text) ≠ [] := by
    simpa [lines] using splitChars_ne_nil '\n' (strip text).toList
  rw [blockquote, joinWith_marks hne, lines_joinWith (by simpa using hne), flatMap_lines_of_notMem]
  intro line hline
  obtain ⟨form, hform, rfl⟩ := List.mem_map.1 hline
  simpa using (within_of_mem_lines hform).2

theorem isQuoted_blockquote (text : String) : IsQuoted (blockquote text) := by
  intro line hline
  rw [lines_blockquote] at hline
  obtain ⟨form, -, rfl⟩ := List.mem_map.1 hline
  simp [IsMarked]

/-! ## The first line marked -/

/-- What is put behind a text without making a new line changes none of the beginnings of its lines,
unless it is a mark and the last line is empty. -/
theorem splitChars_append_marked {rest : List Char} (hfree : '\n' ∉ rest)
    (hhead : rest.head? ≠ some '>') (text : List Char) :
    (splitChars '\n' (text ++ rest)).map (fun line => decide (line.head? = some '>')) =
      (splitChars '\n' text).map fun line => decide (line.head? = some '>') := by
  induction text with
  | nil => simp [splitChars_of_notMem hfree, splitChars, hhead]
  | cons c more ih =>
    obtain ⟨first, others, hsplit⟩ := List.exists_cons_of_ne_nil (splitChars_ne_nil '\n' more)
    obtain ⟨front, tail, happend⟩ :=
      List.exists_cons_of_ne_nil (splitChars_ne_nil '\n' (more ++ rest))
    rw [hsplit, happend] at ih
    rw [List.cons_append, splitChars, splitChars, hsplit, happend]
    split
    · rw [List.map_cons, ih]
      rfl
    · have htail := (List.cons.inj ih).2
      simpa using htail

theorem isQuotedBelow_iff (text : String) : IsQuotedBelow text ↔
    ∀ mark ∈ ((splitChars '\n' text.toList).map fun line =>
      decide (line.head? = some '>')).tail, mark = true := by
  simp [IsQuotedBelow, lines, IsMarked, ← List.map_tail]

/-- The first line of a text that begins with a mark is marked. -/
theorem isQuoted_iff_of_isMarked {text : String} (h : IsMarked text) :
    IsQuoted text ↔ IsQuotedBelow text := by
  obtain ⟨more, hmore⟩ := List.head?_eq_some_iff.1 h
  obtain ⟨first, others, hsplit⟩ := List.exists_cons_of_ne_nil (splitChars_ne_nil '\n' more)
  have hlines : lines text = String.ofList ('>' :: first) :: others.map String.ofList := by
    rw [lines, hmore, splitChars, if_neg (by decide), hsplit]
    rfl
  rw [IsQuoted, IsQuotedBelow, hlines, List.forall_mem_cons, List.tail_cons]
  exact and_iff_right (by simp [IsMarked])

/-- A text with a mark in front, and closed without a new line, is a quotation just when its lines
below the first are marked already. -/
theorem isQuoted_append_iff (start text rest : String) (hmark : IsMarked start)
    (hstart : '\n' ∉ start.toList) (hrest : '\n' ∉ rest.toList)
    (hhead : rest.toList.head? ≠ some '>') :
    IsQuoted (start ++ (text ++ rest)) ↔ IsQuotedBelow text := by
  have hbelow : IsQuotedBelow (start ++ (text ++ rest)) ↔ IsQuotedBelow text := by
    rw [IsQuotedBelow, lines_tail_append hstart, ← IsQuotedBelow, isQuotedBelow_iff,
      isQuotedBelow_iff, String.toList_append, splitChars_append_marked hrest hhead]
  have hwhole : IsMarked (start ++ (text ++ rest)) := by
    rw [IsMarked, String.toList_append, List.head?_append, hmark]
    rfl
  rw [isQuoted_iff_of_isMarked hwhole, hbelow]

end ContentModel.Markdown
