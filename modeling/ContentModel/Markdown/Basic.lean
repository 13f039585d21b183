import ContentModel.Numeric.Digits
import ContentModel.Text.Basic
import ContentModel.Text.Blank

/-!
# Markdown pieces

The small forms that documents are put together from.

* `Markdown.heading`, `tableRow`, `separatorRow` and `blockquote` are the forms;
* `Markdown.escapeCell` makes a text fit for a table cell: it has no line feed left
  (`newline_notMem_escapeCell`).
-/

namespace ContentModel.Markdown

/-- A heading; levels outside one to six count as the nearest of these. -/
def heading (text : String) (level : Int) : String :=
  Text.repeated (min (max level 1) 6).toNat '#' ++ (" " ++ text)

/-- A text with pipes escaped and line feeds turned into spaces. -/
def escapeCellChars (text : List Char) : List Char :=
  Text.replaceChar '\n' [' '] (Text.replaceChar '|' ['\\', '|'] text)

/-- A text with pipes escaped and line feeds turned into spaces. -/
def escapeCell (text : String) : String := String.ofList (escapeCellChars text.toList)

theorem newline_notMem_escapeCell (text : String) : '\n' ∉ (escapeCell text).toList := by
  simp only [escapeCell, String.toList_ofList, escapeCellChars, Text.replaceChar,
    List.mem_flatMap, not_exists, not_and]
  intro c _
  split <;> simp_all [eq_comm]

/-- A row of a table. -/
def tableRow (cells : List String) : String :=
  "| " ++ (Text.joinWith " | " cells ++ " |")

/-- The row between the head of a table and the rest of it. -/
def separatorRow (count : Int) : String := tableRow (List.replicate count.toNat "---")

/-- A text as a quotation, every line of it marked. -/
def blockquote (text : String) : String :=
  "> " ++ Text.joinWith "\n> " (Text.lines (Text.strip text))

end ContentModel.Markdown
