import ContentModel.Markdown.Basic
import Mathlib.Data.List.DropRight

/-!
# Texts within texts

What a document shows stands in it as a piece of consecutive characters, the blanks around it left
aside.

* `Text.Within text whole` says that the characters of a text stand in a row in another;
* `Within.joinWith_of_isInfix` says that it goes through joining, `Within.strip` that a trimmed text
  stays within a text that is trimmed;
* `Text.within_lines` says that a text without a line feed stands within a line,
  `Markdown.within_blockquote` that the lines of a text, trimmed, stand in its quotation.
-/

namespace ContentModel

namespace Text

/-- The characters of a text stand in a row in another. -/
def Within (text whole : String) : Prop := text.toList <:+: whole.toList

instance (text whole : String) : Decidable (Within text whole) :=
  inferInstanceAs (Decidable (text.toList <:+: whole.toList))

namespace Within

variable {text form whole : String}

theorem refl (text : String) : Within text text := List.infix_refl _

theorem trans (h : Within text form) (hform : Within form whole) : Within text whole :=
  List.IsInfix.trans h hform

theorem of_eq_empty (h : text = "") (whole : String) : Within text whole := by
  subst h
  exact List.nil_infix

/-- What is put before a form does no harm. -/
theorem before (h : Within text form) (start : String) : Within text (start ++ form) :=
  h.trans (by simpa [Within] using (List.suffix_append start.toList form.toList).isInfix)

/-- What is put after a form does no harm. -/
theorem after (h : Within text form) (rest : String) : Within text (form ++ rest) :=
  h.trans (by simpa [Within] using (List.prefix_append form.toList rest.toList).isInfix)

end Within

/-! ## Joined texts -/

section Join

variable {separator : String} {texts all : List String}

theorem joinWith_append {first second : List String} (hfirst : first ≠ []) (hsecond : second ≠ []) :
    joinWith separator (first ++ second) =
      joinWith separator first ++ (separator ++ joinWith separator second) := by
  induction first with
  | nil => exact absurd rfl hfirst
  | cons text rest ih =>
    obtain ⟨head, tail, rfl⟩ := List.exists_cons_of_ne_nil hsecond
    cases rest with
    | nil => rfl
    | cons next more =>
      have hrest := ih (List.cons_ne_nil next more)
      simp only [List.cons_append] at hrest ⊢
      rw [joinWith_cons_cons, joinWith_cons_cons, hrest]
      simp only [String.append_assoc]

theorem Within.joinWith_left (first second : List String) :
    Within (joinWith separator first) (joinWith separator (first ++ second)) := by
  by_cases hfirst : first = []
  · exact .of_eq_empty (by rw [hfirst]; rfl) _
  by_cases hsecond : second = []
  · rw [hsecond, List.append_nil]
    exact .refl _
  · rw [joinWith_append hfirst hsecond]
    exact (Within.refl _).after _

theorem Within.joinWith_right (first second : List String) :
    Within (joinWith separator second) (joinWith separator (first ++ second)) := by
  by_cases hfirst : first = []
  · rw [hfirst, List.nil_append]
    exact .refl _
  by_cases hsecond : second = []
  · exact .of_eq_empty (by rw [hsecond]; rfl) _
  · rw [joinWith_append hfirst hsecond]
    exact ((Within.refl _).before _).before _

/-- Texts in a row among others stand in the joined text as they would alone. -/
theorem Within.joinWith_of_isInfix (h : texts <:+: all) :
    Within (joinWith separator texts) (joinWith separator all) := by
  obtain ⟨first, last, rfl⟩ := h
  exact (joinWith_right first texts).trans (joinWith_left (first ++ texts) last)

theorem Within.joinWith_of_mem {text : String} (h : text ∈ all) :
    Within text (joinWith separator all) := by
  obtain ⟨first, last, rfl⟩ := List.append_of_mem h
  have hinfix : [text] <:+: first ++ text :: last := ⟨first, last, by simp⟩
  exact joinWith_of_isInfix hinfix

end Join

/-! ## Trimmed texts -/

section Trim

variable {p : Char → Bool}

/-- Characters before a text that is trimmed in front are dropped without it. -/
theorem dropWhile_append_of_trimmed {text : List Char} (h : text.dropWhile p = text)
    (hne : text ≠ []) (start tail : List Char) :
    ∃ rest, (start ++ (text ++ tail)).dropWhile p = rest ++ (text ++ tail) := by
  have htext : (text ++ tail).dropWhile p = text ++ tail := by
    rw [List.dropWhile_append, h, if_neg (by simpa using hne)]
  rw [List.dropWhile_append, htext]
  split
  · exact ⟨[], rfl⟩
  · exact ⟨start.dropWhile p, rfl⟩

theorem trimEnd_append_of_ne_nil {text tail : List Char} (h : trimEnd p tail ≠ []) :
    trimEnd p (text ++ tail) = text ++ trimEnd p tail := by
  induction text with
  | nil => rfl
  | cons c rest ih =>
    rw [List.cons_append, trimEnd, ih]
    cases hrest : rest ++ trimEnd p tail with
    | nil => exact absurd (List.append_eq_nil_iff.1 hrest).2 h
    | cons d more => simp [hrest]

theorem all_of_trimEnd_eq_nil {text : List Char} (h : trimEnd p text = []) :
    ∀ c ∈ text, p c = true := by
  induction text with
  | nil => nofun
  | cons c rest ih =>
    rw [trimEnd] at h
    split at h
    · next hrest =>
      split at h
      · next hc => exact List.forall_mem_cons.2 ⟨hc, ih hrest⟩
      · cases h
    · cases h

/-- Characters after a text that is trimmed at its end are trimmed without it. -/
theorem trimEnd_append_of_trimmed {text : List Char} (h : trimEnd p text = text)
    (hne : text ≠ []) (start tail : List Char) :
    ∃ rest, trimEnd p (start ++ text ++ tail) = start ++ text ++ rest := by
  by_cases htail : trimEnd p tail = []
  · have hstart : trimEnd p (start ++ text) = start ++ text := by
      rw [trimEnd_append_of_ne_nil (by rwa [h]), h]
    exact ⟨[], by rw [trimEnd_append_of_all (all_of_trimEnd_eq_nil htail), hstart, List.append_nil]⟩
  · exact ⟨trimEnd p tail, trimEnd_append_of_ne_nil htail⟩

theorem dropWhile_trimChars (text : List Char) :
    (trimChars p text).dropWhile p = trimChars p text :=
  dropWhile_trimEnd (List.dropWhile_idempotent p text)

theorem trimEnd_trimChars (text : List Char) : trimEnd p (trimChars p text) = trimChars p text :=
  trimEnd_trimEnd p (text.dropWhile p)

/-- A trimmed text in another stands in the other trimmed. -/
theorem infix_trimChars {text whole : List Char} (hstart : text.dropWhile p = text)
    (hend : trimEnd p text = text) (h : text <:+: whole) : text <:+: trimChars p whole := by
  by_cases hne : text = []
  · rw [hne]
    exact List.nil_infix
  obtain ⟨start, tail, rfl⟩ := h
  obtain ⟨rest, hrest⟩ := dropWhile_append_of_trimmed hstart hne start tail
  obtain ⟨last, hlast⟩ := trimEnd_append_of_trimmed hend hne rest tail
  refine ⟨rest, last, ?_⟩
  rw [trimChars, List.append_assoc start, hrest, ← List.append_assoc, hlast]

theorem trimEnd_isPrefix (text : List Char) : trimEnd p text <+: text := by
  induction text with
  | nil => exact List.prefix_refl _
  | cons c rest ih =>
    rw [trimEnd]
    split
    · split
      · exact List.nil_prefix
      · exact ⟨rest, rfl⟩
    · next d more hrest =>
      rw [hrest] at ih
      exact List.cons_prefix_cons.2 ⟨rfl, ih⟩

end Trim

/-- A trimmed text within another is within the other trimmed. -/
theorem Within.strip {text whole : String} (h : Within (strip text) whole) :
    Within (strip text) (strip whole) := by
  simp only [Within, Text.strip, String.toList_ofList] at h ⊢
  exact infix_trimChars (dropWhile_trimChars _) (trimEnd_trimChars _) h

theorem within_strip (text : String) : Within (strip text) text := by
  simp only [Within, strip, String.toList_ofList, trimChars]
  exact (trimEnd_isPrefix _).isInfix.trans (List.dropWhile_suffix isBlank).isInfix

/-! ## Lines -/

section Lines

variable {separator : Char} {piece text : List Char}

/-- What a text begins with begins its first piece, if no piece ends in it. -/
theorem prefix_splitChars (h : piece <+: text) (hfree : separator ∉ piece) :
    ∃ first more, splitChars separator text = first :: more ∧ piece <+: first := by
  induction text generalizing piece with
  | nil => exact ⟨[], [], rfl, h⟩
  | cons c rest ih =>
    rcases List.prefix_cons_iff.1 h with rfl | ⟨tail, rfl, htail⟩
    · obtain ⟨first, more, hsplit⟩ :=
        List.exists_cons_of_ne_nil (splitChars_ne_nil separator (c :: rest))
      exact ⟨first, more, hsplit, List.nil_prefix⟩
    · obtain ⟨hc, htailFree⟩ := not_or.1 (List.mem_cons.not.1 hfree)
      obtain ⟨first, more, hsplit, hfirst⟩ := ih htail htailFree
      refine ⟨c :: first, more, ?_, List.cons_prefix_cons.2 ⟨rfl, hfirst⟩⟩
      rw [splitChars, if_neg (Ne.symm hc), hsplit]

/-- What stands in a text stands in one of its pieces, if no piece ends in it. -/
theorem infix_splitChars (h : piece <:+: text) (hfree : separator ∉ piece) :
    ∃ part ∈ splitChars separator text, piece <:+: part := by
  induction text with
  | nil => exact ⟨[], List.mem_singleton.2 rfl, h⟩
  | cons c rest ih =>
    rcases List.infix_cons_iff.1 h with hprefix | hrest
    · obtain ⟨first, more, hsplit, hfirst⟩ := prefix_splitChars hprefix hfree
      exact ⟨first, by simp [hsplit], hfirst.isInfix⟩
    · obtain ⟨part, hpart, hwithin⟩ := ih hrest
      by_cases hc : c = separator
      · rw [splitChars, if_pos hc]
        exact ⟨part, List.mem_cons_of_mem _ hpart, hwithin⟩
      · obtain ⟨first, more, hsplit⟩ :=
          List.exists_cons_of_ne_nil (splitChars_ne_nil separator rest)
        rw [splitChars, if_neg hc, hsplit]
        rw [hsplit] at hpart
        rcases List.mem_cons.1 hpart with rfl | hmore
        · exact ⟨c :: part, List.mem_cons_self, List.infix_cons hwithin⟩
        · exact ⟨part, List.mem_cons_of_mem _ hmore, hwithin⟩

theorem infix_joinChars {pieces : List (List Char)} (h : piece ∈ pieces) :
    piece <:+: joinChars separator pieces := by
  induction pieces with
  | nil => cases h
  | cons first rest ih =>
    cases rest with
    | nil =>
      obtain rfl := List.mem_singleton.1 h
      exact List.infix_refl _
    | cons next more =>
      rw [joinChars]
      rcases List.mem_cons.1 h with rfl | hrest
      · exact (List.prefix_append piece _).isInfix
      · exact ((ih hrest).trans (List.suffix_cons separator _).isInfix).trans
          (List.suffix_append first _).isInfix

theorem notMem_of_mem_splitChars (h : piece ∈ splitChars separator text) : separator ∉ piece := by
  induction text generalizing piece with
  | nil =>
    obtain rfl := List.mem_singleton.1 h
    exact List.not_mem_nil
  | cons c rest ih =>
    by_cases hc : c = separator
    · rw [splitChars, if_pos hc] at h
      rcases List.mem_cons.1 h with rfl | hrest
      · exact List.not_mem_nil
      · exact ih hrest
    · obtain ⟨first, more, hsplit⟩ :=
        List.exists_cons_of_ne_nil (splitChars_ne_nil separator rest)
      rw [splitChars, if_neg hc, hsplit] at h
      rw [hsplit] at ih
      rcases List.mem_cons.1 h with rfl | hmore
      · exact List.mem_cons.not.2 (not_or.2 ⟨Ne.symm hc, ih List.mem_cons_self⟩)
      · exact ih (List.mem_cons_of_mem _ hmore)

end Lines

/-- A text without a line feed stands within a line of any text that it is within. -/
theorem within_lines {text whole : String} (h : Within text whole) (hline : '\n' ∉ text.toList) :
    ∃ line ∈ lines whole, Within text line := by
  obtain ⟨part, hpart, hwithin⟩ := infix_splitChars h hline
  exact ⟨String.ofList part, List.mem_map_of_mem hpart, by simpa [Within] using hwithin⟩

theorem within_of_mem_lines {text line : String} (h : line ∈ lines text) :
    Within line text ∧ '\n' ∉ line.toList := by
  obtain ⟨piece, hpiece, rfl⟩ := List.mem_map.1 h
  have hwithin : piece <:+: joinChars '\n' (splitChars '\n' text.toList) := infix_joinChars hpiece
  rw [joinChars_splitChars] at hwithin
  rw [Within, String.toList_ofList]
  exact ⟨hwithin, notMem_of_mem_splitChars hpiece⟩

end Text

namespace Markdown

open Text

theorem within_heading (text : String) (level : Int) : Within text (heading text level) :=
  ((Within.refl text).before " ").before _

/-- The lines of a text, trimmed, stand in its quotation. -/
theorem within_blockquote {text line : String} (h : line ∈ lines text) :
    Within (strip line) (blockquote text) := by
  obtain ⟨hwithin, hfree⟩ := within_of_mem_lines h
  have hstrip : Within (strip line) line := within_strip line
  have hstripFree : '\n' ∉ (strip line).toList := fun hmem =>
    hfree (List.IsInfix.subset hstrip hmem)
  obtain ⟨quoted, hquoted, hline⟩ := within_lines (hstrip.trans hwithin).strip hstripFree
  exact (hline.trans (.joinWith_of_mem hquoted)).before "> "

end Markdown

end ContentModel
