import ContentModel.Proofs.Text.Within

/-!
# The lines of joined texts

* `Text.lines_joinWith` gives the lines of texts that are joined by line feeds;
* `Text.length_lines_eq_one_iff` says which texts are a single line;
* `Text.terminated` are texts each with a line feed behind it, `Text.lines_terminated_append` says
  what their lines are before another text;
* `Text.stripEnd` trims the end of a text only, `Text.stripEnd_append` says which of two texts this
  concerns.
-/

namespace ContentModel.Text

variable {separator : Char} {text : List Char}

/-- A separator in the middle of a text cuts it there. -/
theorem splitChars_append_cons (separator : Char) (text rest : List Char) :
    splitChars separator (text ++ separator :: rest) =
      splitChars separator text ++ splitChars separator rest := by
  induction text with
  | nil => simp [splitChars]
  | cons c more ih =>
    rw [List.cons_append, splitChars, splitChars, ih]
    obtain ⟨first, others, hsplit⟩ :=
      List.exists_cons_of_ne_nil (splitChars_ne_nil separator more)
    split <;> simp [hsplit]

theorem splitChars_of_notMem (h : separator ∉ text) : splitChars separator text = [text] := by
  induction text with
  | nil => rfl
  | cons c rest ih =>
    rw [List.mem_cons, not_or] at h
    rw [splitChars, if_neg (Ne.symm h.1), ih h.2]

/-- A start without a separator belongs to the first piece. -/
theorem splitChars_append_of_notMem {start : List Char} (h : separator ∉ start)
    (text : List Char) :
    splitChars separator (start ++ text) = (splitChars separator text).modifyHead (start ++ ·) := by
  induction start with
  | nil =>
    rw [List.nil_append]
    cases splitChars separator text <;> rfl
  | cons c rest ih =>
    obtain ⟨hc, hrest⟩ := not_or.1 (List.mem_cons.not.1 h)
    obtain ⟨first, more, hsplit⟩ := List.exists_cons_of_ne_nil (splitChars_ne_nil separator text)
    rw [List.cons_append, splitChars, if_neg (Ne.symm hc), ih hrest, hsplit]
    rfl

theorem lines_append_newline (first second : String) :
    lines (first ++ ("\n" ++ second)) = lines first ++ lines second := by
  simp only [lines, String.toList_append, ← List.map_append, ← splitChars_append_cons]
  rfl

/-- The lines of joined texts are the lines of the texts. -/
theorem lines_joinWith {texts : List String} (h : texts ≠ []) :
    lines (joinWith "\n" texts) = texts.flatMap lines := by
  induction texts with
  | nil => exact absurd rfl h
  | cons text rest ih =>
    cases rest with
    | nil => simp
    | cons next more =>
      rw [joinWith_cons_cons, lines_append_newline, ih (List.cons_ne_nil next more)]
      exact List.flatMap_cons.symm

theorem lines_of_notMem {text : String} (h : '\n' ∉ text.toList) : lines text = [text] := by
  rw [lines, splitChars_of_notMem h, List.map_singleton, String.ofList_toList]

theorem length_lines_eq_one_iff {text : String} :
    (lines text).length = 1 ↔ '\n' ∉ text.toList := by
  refine ⟨fun h => ?_, fun h => by rw [lines_of_notMem h]; rfl⟩
  obtain ⟨piece, hpiece⟩ := List.length_eq_one_iff.1 ((List.length_map _).symm.trans h)
  have htext := joinChars_splitChars '\n' text.toList
  rw [hpiece] at htext
  have hfree := notMem_of_mem_splitChars (hpiece ▸ List.mem_singleton_self piece)
  rwa [← show piece = text.toList from htext]

theorem lines_tail_append {start : String} (h : '\n' ∉ start.toList) (text : String) :
    (lines (start ++ text)).tail = (lines text).tail := by
  rw [lines, String.toList_append, splitChars_append_of_notMem h, lines]
  cases splitChars '\n' text.toList <;> rfl

/-- Lines of texts that are single lines are these texts. -/
theorem flatMap_lines_of_notMem {texts : List String} (h : ∀ text ∈ texts, '\n' ∉ text.toList) :
    texts.flatMap lines = texts := by
  induction texts with
  | nil => rfl
  | cons text rest ih =>
    rw [List.forall_mem_cons] at h
    rw [List.flatMap_cons, lines_of_notMem h.1, ih h.2, List.singleton_append]

/-! ## Texts above others -/

/-- The texts in order, each with a line feed behind it. -/
def terminated (texts : List String) : String := concat (texts.map (· ++ "\n"))

theorem joinWith_terminated (above : List String) {texts : List String} (h : texts ≠ []) :
    joinWith "\n" (above ++ texts) = terminated above ++ joinWith "\n" texts := by
  induction above with
  | nil => simp [terminated]
  | cons text rest ih =>
    obtain ⟨next, more, hrest⟩ :=
      List.exists_cons_of_ne_nil (List.append_ne_nil_of_right_ne_nil rest h)
    rw [List.cons_append, hrest, joinWith_cons_cons, ← hrest, ih]
    simp [terminated, String.append_assoc]

theorem lines_terminated_append (above : List String) (text : String) :
    lines (terminated above ++ text) = above.flatMap lines ++ lines text := by
  have hjoin := joinWith_terminated above (List.cons_ne_nil text [])
  rw [joinWith_singleton] at hjoin
  rw [← hjoin, lines_joinWith (by simp), List.flatMap_append, List.flatMap_singleton]

/-! ## Trimming at the end -/

/-- What is trimmed at the end of a text are characters of the class. -/
theorem exists_eq_trimEnd_append (p : Char → Bool) (text : List Char) :
    ∃ tail, text = trimEnd p text ++ tail ∧ ∀ c ∈ tail, p c = true := by
  obtain ⟨tail, htail⟩ := trimEnd_isPrefix (p := p) text
  refine ⟨tail, htail.symm, all_of_trimEnd_eq_nil ?_⟩
  by_contra hne
  have hlast : trimEnd p (trimEnd p text ++ tail) = trimEnd p text ++ trimEnd p tail :=
    trimEnd_append_of_ne_nil hne
  rw [htail, List.self_eq_append_right] at hlast
  exact hne hlast

/-- A text without the blanks at its end. -/
def stripEnd (text : String) : String := String.ofList (trimEnd isBlank text.toList)

/-- Of two texts the second one is trimmed at its end, unless it is blank. -/
theorem stripEnd_append (first second : String) : stripEnd (first ++ second) =
    if stripEnd second = "" then stripEnd first else first ++ stripEnd second := by
  split
  · next hblank =>
    have hnil : trimEnd isBlank second.toList = [] := by simpa [stripEnd] using hblank
    rw [stripEnd, String.toList_append, trimEnd_append_of_all (all_of_trimEnd_eq_nil hnil),
      stripEnd]
  · next hvisible =>
    have hne : trimEnd isBlank second.toList ≠ [] := by simpa [stripEnd] using hvisible
    rw [stripEnd, String.toList_append, trimEnd_append_of_ne_nil hne, stripEnd]
    simp

theorem strip_eq_stripEnd {text : String} {c : Char} (h : text.toList.head? = some c)
    (hc : isBlank c = false) : strip text = stripEnd text := by
  obtain ⟨rest, hrest⟩ := List.head?_eq_some_iff.1 h
  rw [strip, trimChars, hrest, List.dropWhile_cons_of_neg (by simp [hc]), ← hrest, stripEnd]

end ContentModel.Text
