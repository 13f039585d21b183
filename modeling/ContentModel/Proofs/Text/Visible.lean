import ContentModel.Markdown.Basic

/-!
# The visible characters of a text

Most of what is done to a text on its way into a document moves or adds blanks and punctuation.

* `Text.visible` are the characters that are not blank; trimming does not touch them
  (`visible_strip`), nor does cutting into lines (`visible_lines`);
* `Text.Keeps text form` says that the visible characters of a text stand in its form, in order. It
  is a preorder and goes through `concat` (`Keeps.concat_map`);
* each Markdown piece keeps what it is made from (`keeps_tableRow`, `keeps_escapeCell`,
  `keeps_blockquote`).
-/

namespace ContentModel

namespace Text

/-- The characters of a text that are not blank. -/
def visible (text : String) : List Char := text.toList.filter fun c => !isBlank c

@[simp] theorem visible_append (a b : String) : visible (a ++ b) = visible a ++ visible b := by
  simp [visible]

/-! ## Trimming and cutting -/

theorem filter_not_trimEnd (p : Char → Bool) (text : List Char) :
    (trimEnd p text).filter (fun c => !p c) = text.filter fun c => !p c := by
  induction text with
  | nil => rfl
  | cons c rest ih =>
    rw [trimEnd, List.filter_cons, ← ih]
    split
    · next hnil => cases hc : p c <;> simp [hc, hnil]
    · next hcons => rw [List.filter_cons, hcons]

theorem filter_not_dropWhile (p : Char → Bool) (text : List Char) :
    (text.dropWhile p).filter (fun c => !p c) = text.filter fun c => !p c := by
  induction text with
  | nil => rfl
  | cons c rest ih => cases hc : p c <;> simp [hc, ih]

/-- Trimming takes no visible character away. -/
@[simp] theorem visible_strip (text : String) : visible (strip text) = visible text := by
  simp only [visible, strip, String.toList_ofList, trimChars, filter_not_trimEnd,
    filter_not_dropWhile]

theorem filter_joinChars (p : Char → Bool) {separator : Char} (h : p separator = false)
    (pieces : List (List Char)) :
    (joinChars separator pieces).filter p = pieces.flatMap (List.filter p) := by
  induction pieces with
  | nil => rfl
  | cons piece rest ih =>
    cases rest with
    | nil => simp [joinChars]
    | cons next more => simp [joinChars, h, ih]

theorem visible_concat (texts : List String) : visible (concat texts) = texts.flatMap visible := by
  induction texts with
  | nil => rfl
  | cons text rest ih => simp [ih]

/-- The lines of a text have its visible characters. -/
theorem visible_lines (text : String) : visible (concat (lines text)) = visible text := by
  have hpieces := filter_joinChars (fun c => !isBlank c) (show (!isBlank '\n') = false by decide)
    (splitChars '\n' text.toList)
  rw [joinChars_splitChars] at hpieces
  rw [visible_concat, lines, List.flatMap_map]
  simpa only [visible, String.toList_ofList] using hpieces.symm

/-! ## Texts that are kept -/

/-- The visible characters of a text stand in another, in order. -/
def Keeps (text form : String) : Prop := (visible text).Sublist (visible form)

namespace Keeps

variable {text form other : String}

theorem of_visible (h : visible text = visible form) : Keeps text form := by
  show (visible text).Sublist (visible form)
  exact h ▸ List.Sublist.refl (visible text)

theorem refl (text : String) : Keeps text text := of_visible rfl

theorem trans (h : Keeps text form) (hform : Keeps form other) : Keeps text other :=
  List.Sublist.trans h hform

theorem of_empty (h : visible text = []) (form : String) : Keeps text form := by
  rw [Keeps, h]
  exact List.nil_sublist _

/-- What is put before a form does no harm. -/
theorem before (h : Keeps text form) (start : String) : Keeps text (start ++ form) := by
  rw [Keeps, visible_append]
  exact List.Sublist.trans h (List.sublist_append_right _ _)

/-- What is put after a form does no harm. -/
theorem after (h : Keeps text form) (rest : String) : Keeps text (form ++ rest) := by
  rw [Keeps, visible_append]
  exact List.Sublist.trans h (List.sublist_append_left _ _)

theorem append {a b c d : String} (h : Keeps a b) (h' : Keeps c d) : Keeps (a ++ c) (b ++ d) := by
  rw [Keeps, visible_append, visible_append]
  exact List.Sublist.append h h'

theorem strip (h : Keeps text form) : Keeps text (strip form) :=
  h.trans (of_visible (visible_strip form).symm)

/-- Forms in a row keep the texts in a row. -/
theorem concat_map {α : Type} {read write : α → String} {items : List α}
    (h : ∀ item ∈ items, Keeps (read item) (write item)) :
    Keeps (concat (items.map read)) (concat (items.map write)) := by
  induction items with
  | nil => exact refl _
  | cons item rest ih =>
    rw [List.forall_mem_cons] at h
    exact h.1.append (ih h.2)

theorem concat_forms {write : String → String} {texts : List String}
    (h : ∀ text ∈ texts, Keeps text (write text)) :
    Keeps (concat texts) (concat (texts.map write)) := by
  have hmap : Keeps (concat (texts.map id)) (concat (texts.map write)) := concat_map h
  rwa [List.map_id] at hmap

/-- All visible characters of a text that is kept are among all characters of its form. -/
theorem sublist_toList (h : Keeps text form) : (visible text).Sublist form.toList :=
  List.Sublist.trans h List.filter_sublist

end Keeps

theorem keeps_joinWith (separator : String) (texts : List String) :
    Keeps (concat texts) (joinWith separator texts) := by
  induction texts with
  | nil => exact .refl _
  | cons text rest ih =>
    cases rest with
    | nil => exact .of_visible (by simp)
    | cons next more => exact (Keeps.refl text).append (ih.before separator)

end Text

namespace Markdown

open Text

theorem keeps_escapeCell (text : String) : Keeps text (escapeCell text) := by
  rw [Keeps, visible, visible, escapeCell, String.toList_ofList, escapeCellChars]
  induction text.toList with
  | nil => exact List.Sublist.refl _
  | cons c rest ih =>
    by_cases hpipe : c = '|'
    · -- The backslash is added, the pipe stays.
      subst hpipe
      exact List.Sublist.cons _ (List.Sublist.cons_cons _ ih)
    by_cases hnewline : c = '\n'
    · subst hnewline
      exact ih
    · rw [replaceChar_cons, if_neg hpipe, List.singleton_append, replaceChar_cons, if_neg hnewline,
        List.filter_append, List.filter_cons]
      cases hc : isBlank c
      · simpa [hc] using ih
      · simpa [hc] using ih

theorem keeps_tableRow (cells : List String) : Keeps (concat cells) (tableRow cells) :=
  ((keeps_joinWith " | " cells).after " |").before "| "

theorem keeps_blockquote (text : String) : Keeps text (blockquote text) := by
  have hlines : Keeps text (concat (lines (strip text))) :=
    .of_visible (by rw [visible_lines, visible_strip])
  exact (hlines.trans (keeps_joinWith "\n> " _)).before "> "

end Markdown

end ContentModel
