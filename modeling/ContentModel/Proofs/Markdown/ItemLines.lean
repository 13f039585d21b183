import ContentModel.Numeric.Digits
import ContentModel.Proofs.Text.Digits
import ContentModel.Proofs.Text.Lines

/-!
# Lines that begin items

A reader takes a line for an item of a list by what it begins with: a hyphen and a blank, or digits,
a point and a blank.

* `Markdown.opensItem` says which lines these are, `Markdown.itemMarker` is what is written there;
* `Markdown.Opens` says that a text has such a line, where its first line counts only if it is put
  at the beginning of a line;
* `Markdown.Closed` says that what follows a text does not matter for its last line;
* `Markdown.Frame` takes a form apart into a core and the blanks around it and says which of its
  lines begin items; there is one lemma for each way in which forms are put together.
-/

namespace ContentModel.Markdown

open Text

/-! ## Items -/

/-- Whether a line begins as an item of a numbered list or of a bullet list. -/
def opensItem (numbered : Bool) (line : List Char) : Bool :=
  if numbered then
    line.head?.any isAsciiDigit && ['.', ' '].isPrefixOf (line.dropWhile isAsciiDigit)
  else ['-', ' '].isPrefixOf line

/-- What the item of a number begins with. -/
def itemMarker (numbered : Bool) (n : Nat) : String :=
  if numbered then Digits.intText n ++ ". " else "- "

/-- Some line of a text begins as an item, where the first line counts if it is fresh. -/
def Opens (numbered fresh : Bool) (text : List Char) : Prop :=
  ∃ line ∈ if fresh then splitChars '\n' text else (splitChars '\n' text).tail,
    opensItem numbered line = true

/-- What is put behind a text does not matter for its last line. -/
def Closed (numbered : Bool) (text : List Char) : Prop :=
  ∀ fresh rest, Opens numbered fresh (text ++ rest) ↔
    Opens numbered fresh text ∨ Opens numbered false rest

variable {numbered fresh : Bool}

theorem opensItem_of_isBlank {c : Char} (h : isBlank c = true) (numbered : Bool)
    (rest : List Char) : opensItem numbered (c :: rest) = false := by
  have hdigit : isAsciiDigit c = false := by
    by_contra hnot
    rw [Bool.not_eq_false] at hnot
    rw [isBlank_of_isDigit (isDigit_of_isAsciiDigit hnot)] at h
    cases h
  have hhyphen : c ≠ '-' := by
    rintro rfl
    exact absurd h (by decide)
  cases numbered
  · simp [opensItem, List.isPrefixOf, Ne.symm hhyphen]
  · simp [opensItem, hdigit]

theorem toList_itemMarker_true (n : Nat) :
    (itemMarker true n).toList = Digits.ofNat n ++ ['.', ' '] := by
  simp [itemMarker, Digits.intText, Digits.ofInt]

/-- What begins with the marker of an item begins an item of that kind of list, and of no other. -/
theorem opensItem_itemMarker_append (numbered kind : Bool) (n : Nat) (rest : List Char) :
    opensItem numbered ((itemMarker kind n).toList ++ rest) = (kind == numbered) := by
  cases kind with
  | false => cases numbered <;> simp [itemMarker, opensItem, List.isPrefixOf, isAsciiDigit]
  | true =>
    have hdigits : ∀ c ∈ Digits.ofNat n, isAsciiDigit c = true := fun c =>
      Digits.isAsciiDigit_of_mem_ofNat
    obtain ⟨first, more, hnat⟩ := List.exists_cons_of_ne_nil (Digits.ofNat_ne_nil n)
    have hfirst : isAsciiDigit first = true := hdigits first (by simp [hnat])
    have hdrop : ((Digits.ofNat n) ++ '.' :: ' ' :: rest).dropWhile isAsciiDigit =
        '.' :: ' ' :: rest := by
      rw [List.dropWhile_append_of_pos hdigits]
      rfl
    rw [toList_itemMarker_true, List.append_assoc]
    cases numbered with
    | false =>
      have hhyphen : first ≠ '-' := by
        rintro rfl
        exact absurd hfirst (by decide)
      simp [hnat, opensItem, List.isPrefixOf, Ne.symm hhyphen]
    | true =>
      simp only [opensItem, if_true, List.cons_append, List.nil_append, hdrop]
      simp [hnat, hfirst]

theorem front_itemMarker (kind : Bool) (n : Nat) :
    ∃ c rest, (itemMarker kind n).toList = c :: rest ∧ isBlank c = false := by
  cases kind with
  | false => exact ⟨'-', [' '], by simp [itemMarker], by decide⟩
  | true =>
    obtain ⟨first, more, hnat⟩ := List.exists_cons_of_ne_nil (Digits.ofNat_ne_nil n)
    have hfirst : isAsciiDigit first = true :=
      Digits.isAsciiDigit_of_mem_ofNat (n := n) (by simp [hnat])
    exact ⟨first, more ++ ['.', ' '], by rw [toList_itemMarker_true, hnat, List.cons_append],
      isBlank_of_isDigit (isDigit_of_isAsciiDigit hfirst)⟩

theorem newline_notMem_itemMarker (kind : Bool) (n : Nat) : '\n' ∉ (itemMarker kind n).toList := by
  cases kind with
  | false => simp [itemMarker]
  | true =>
    rw [toList_itemMarker_true, List.mem_append, not_or]
    exact ⟨fun hmem => absurd (Digits.isAsciiDigit_of_mem_ofNat hmem) (by decide), by decide⟩

/-! ## Texts -/

theorem opens_append_newline (first second : List Char) :
    Opens numbered fresh (first ++ '\n' :: second) ↔
      Opens numbered fresh first ∨ Opens numbered true second := by
  have htail : (splitChars '\n' first ++ splitChars '\n' second).tail =
      (splitChars '\n' first).tail ++ splitChars '\n' second :=
    List.tail_append_of_ne_nil (splitChars_ne_nil _ _)
  cases fresh <;>
    simp [Opens, splitChars_append_cons, htail, or_and_right, exists_or]

/-- A start of a line that decides whether the line begins an item decides it for the first line. -/
theorem opens_fixed_append {start : List Char} {opening : Bool} (hfree : '\n' ∉ start)
    (h : ∀ rest, opensItem numbered (start ++ rest) = opening) (rest : List Char) :
    Opens numbered fresh (start ++ rest) ↔
      (fresh && opening) = true ∨ Opens numbered false rest := by
  obtain ⟨first, others, hsplit⟩ := List.exists_cons_of_ne_nil (splitChars_ne_nil '\n' rest)
  cases fresh <;> simp [Opens, splitChars_append_of_notMem hfree, hsplit, h]

theorem not_opens_nil : ¬ Opens numbered false [] := by
  rintro ⟨line, hline, -⟩
  cases hline

theorem opens_fixed {start : List Char} {opening : Bool} (hfree : '\n' ∉ start)
    (h : ∀ rest, opensItem numbered (start ++ rest) = opening) :
    Opens numbered fresh start ↔ (fresh && opening) = true := by
  have hstart : Opens numbered fresh (start ++ []) ↔ _ := opens_fixed_append hfree h []
  rwa [List.append_nil, or_iff_left not_opens_nil] at hstart

theorem closed_fixed {start : List Char} {opening : Bool} (hfree : '\n' ∉ start)
    (h : ∀ rest, opensItem numbered (start ++ rest) = opening) : Closed numbered start := by
  intro fresh rest
  rw [opens_fixed_append hfree h, opens_fixed hfree h]

theorem Closed.append {first second : List Char} (hfirst : Closed numbered first)
    (hsecond : Closed numbered second) : Closed numbered (first ++ second) := by
  intro fresh rest
  rw [List.append_assoc, hfirst, hfirst, hsecond, or_assoc]

theorem Closed.append_newline {second : List Char} (h : Closed numbered second)
    (first : List Char) : Closed numbered (first ++ '\n' :: second) := by
  intro fresh rest
  rw [List.append_assoc, List.cons_append, opens_append_newline, opens_append_newline, h, or_assoc]

/-! ## Blanks in texts -/

section Blanks

variable {gap second : List Char}

theorem not_opens_of_blank (h : ∀ c ∈ gap, isBlank c = true) : ¬ Opens numbered fresh gap := by
  rintro ⟨line, hline, hopens⟩
  have hpiece : line ∈ splitChars '\n' gap := by
    cases fresh
    · exact List.mem_of_mem_tail hline
    · exact hline
  have hsub : line ⊆ gap := by
    have hinfix := (infix_joinChars hpiece : line <:+: joinChars '\n' _).subset
    rwa [joinChars_splitChars] at hinfix
  cases line with
  | nil => cases numbered <;> cases hopens
  | cons c rest =>
    rw [opensItem_of_isBlank (h c (hsub List.mem_cons_self))] at hopens
    cases hopens

/-- Blanks in front keep the first line from beginning an item. -/
theorem opens_blank_append (h : ∀ c ∈ gap, isBlank c = true) (hfree : '\n' ∉ gap)
    (text : List Char) :
    Opens numbered fresh (gap ++ text) ↔ Opens numbered (fresh && gap.isEmpty) text := by
  cases gap with
  | nil => simp
  | cons c rest =>
    have hnone (more : List Char) : opensItem numbered (c :: rest ++ more) = false :=
      opensItem_of_isBlank (h c List.mem_cons_self) numbered _
    rw [opens_fixed_append hfree hnone]
    simp

theorem Closed.blank_append (h : Closed numbered second) (hblank : ∀ c ∈ gap, isBlank c = true)
    (hfree : '\n' ∉ gap) : Closed numbered (gap ++ second) := by
  intro fresh rest
  rw [List.append_assoc, opens_blank_append hblank hfree, opens_blank_append hblank hfree, h]

end Blanks

/-! ## Forms -/

/-- A form is a core with blanks around it: `opens` says whether a line of the core begins an item,
its first line counted or not, and `ends` whether the form ends with a line feed. -/
structure Frame (numbered : Bool) (lead core tail : List Char) (opens : Bool → Bool)
    (ends : Bool) : Prop where
  lead_blank : ∀ c ∈ lead, isBlank c = true
  /-- The blanks before the core are on its first line. -/
  lead_free : '\n' ∉ lead
  tail_blank : ∀ c ∈ tail, isBlank c = true
  tail_free : ends = false → '\n' ∉ tail
  tail_ends : ends = true → ∃ start, tail = start ++ ['\n']
  /-- The core begins and ends with characters that are no blanks. -/
  front : ∃ c rest, core = c :: rest ∧ isBlank c = false
  back : trimEnd isBlank core = core
  closed : Closed numbered core
  opens_iff : ∀ fresh, Opens numbered fresh core ↔ opens fresh = true
  /-- The core does not begin with an item if there are blanks before it. -/
  indented : lead ≠ [] → opens true = opens false

namespace Frame

variable {lead core tail lead' core' tail' : List Char} {opens opens' : Bool → Bool}
  {ends ends' : Bool}

theorem ne_nil (h : Frame numbered lead core tail opens ends) : core ≠ [] := by
  obtain ⟨c, rest, rfl, -⟩ := h.front
  exact List.cons_ne_nil c rest

theorem trimChars_eq (h : Frame numbered lead core tail opens ends) :
    trimChars isBlank (lead ++ (core ++ tail)) = core := by
  obtain ⟨c, rest, hcore, hc⟩ := h.front
  have hfront : (core ++ tail).dropWhile isBlank = core ++ tail := by
    rw [hcore, List.cons_append, List.dropWhile_cons_of_neg (by simp [hc])]
  rw [trimChars, List.dropWhile_append_of_pos h.lead_blank, hfront,
    trimEnd_append_of_all h.tail_blank, h.back]

/-- The form without the blanks around it. -/
theorem trimmed (h : Frame numbered lead core tail opens ends) :
    Frame numbered [] core [] opens false :=
  { h with
    lead_blank := nofun
    lead_free := List.not_mem_nil
    tail_blank := nofun
    tail_free := fun _ => List.not_mem_nil
    tail_ends := nofun
    indented := fun hne => absurd rfl hne }

/-- The form with a line feed behind it. -/
theorem newline (h : Frame numbered lead core tail opens ends) :
    Frame numbered lead core (tail ++ ['\n']) opens true :=
  { h with
    tail_blank := List.forall_mem_append.2
      ⟨h.tail_blank, List.forall_mem_singleton.2 (by decide)⟩
    tail_free := nofun
    tail_ends := fun _ => ⟨tail, rfl⟩ }

/-- The form, trimmed, as an item. -/
theorem item (h : Frame numbered lead core tail opens ends) (kind : Bool) (n : Nat) :
    Frame numbered [] ((itemMarker kind n).toList ++ core) []
      (fun fresh => fresh && kind == numbered || opens false) false where
  lead_blank := nofun
  lead_free := List.not_mem_nil
  tail_blank := nofun
  tail_free := fun _ => List.not_mem_nil
  tail_ends := nofun
  front := by
    obtain ⟨c, rest, hmarker, hc⟩ := front_itemMarker kind n
    exact ⟨c, rest ++ core, by rw [hmarker, List.cons_append], hc⟩
  back := by rw [trimEnd_append_of_ne_nil (by rw [h.back]; exact h.ne_nil), h.back]
  closed := (closed_fixed (newline_notMem_itemMarker kind n)
    (opensItem_itemMarker_append numbered kind n)).append h.closed
  opens_iff fresh := by
    rw [opens_fixed_append (newline_notMem_itemMarker kind n)
      (opensItem_itemMarker_append numbered kind n), h.opens_iff, Bool.or_eq_true]
  indented := fun hne => absurd rfl hne

/-- What begins on a new line may begin with an item if no blanks are before it. -/
theorem opens_indented (h : Frame numbered lead core tail opens ends) :
    Opens numbered fresh (lead ++ core) ↔ opens fresh = true := by
  rw [opens_blank_append h.lead_blank h.lead_free, h.opens_iff]
  cases hlead : lead.isEmpty with
  | true => rw [Bool.and_true]
  | false =>
    have hsame := h.indented (by simpa using hlead)
    cases fresh <;> simp [hsame]

/-- Two forms in a row: the second one begins on a new line if the first ends with a line feed. -/
theorem append (h : Frame numbered lead core tail opens ends)
    (h' : Frame numbered lead' core' tail' opens' ends') :
    Frame numbered lead (core ++ (tail ++ (lead' ++ core'))) tail'
      (fun fresh => opens fresh || opens' ends) ends' := by
  have hgap : Closed numbered (core ++ (tail ++ (lead' ++ core'))) ∧
      ∀ fresh, Opens numbered fresh (core ++ (tail ++ (lead' ++ core'))) ↔
        (opens fresh || opens' ends) = true := by
    have hsecond := h'.closed.blank_append h'.lead_blank h'.lead_free
    cases ends with
    | false =>
      refine ⟨h.closed.append (hsecond.blank_append h.tail_blank (h.tail_free rfl)),
        fun fresh => ?_⟩
      rw [h.closed, opens_blank_append h.tail_blank (h.tail_free rfl), Bool.false_and,
        h'.opens_indented, h.opens_iff, Bool.or_eq_true]
    | true =>
      obtain ⟨start, htail⟩ := h.tail_ends rfl
      have hstart : ∀ c ∈ start, isBlank c = true := fun c hc =>
        h.tail_blank c (by simp [htail, hc])
      have hform : core ++ (tail ++ (lead' ++ core')) =
          (core ++ start) ++ '\n' :: (lead' ++ core') := by simp [htail]
      refine hform ▸ ⟨hsecond.append_newline _, fun fresh => ?_⟩
      rw [opens_append_newline, h.closed, or_iff_left (not_opens_of_blank hstart),
        h'.opens_indented, h.opens_iff, Bool.or_eq_true]
  obtain ⟨c, rest, hcore, hc⟩ := h.front
  exact {
    lead_blank := h.lead_blank
    lead_free := h.lead_free
    tail_blank := h'.tail_blank
    tail_free := h'.tail_free
    tail_ends := h'.tail_ends
    front := ⟨c, rest ++ (tail ++ (lead' ++ core')), by rw [hcore, List.cons_append], hc⟩
    back := by
      have hcore' : trimEnd isBlank core' ≠ [] := by
        rw [h'.back]
        exact h'.ne_nil
      simp only [← List.append_assoc]
      rw [trimEnd_append_of_ne_nil hcore', h'.back]
    closed := hgap.1
    opens_iff := hgap.2
    indented := fun hne => by rw [h.indented hne] }

end Frame

/-- A text is a form that is not blank; `opens` and `ends` are as in `Frame`. -/
def IsFramed (numbered : Bool) (text : String) (opens : Bool → Bool) (ends : Bool) : Prop :=
  ∃ lead core tail, text.toList = lead ++ (core ++ tail) ∧
    Frame numbered lead core tail opens ends

namespace IsFramed

variable {text second : String} {opens opens' : Bool → Bool} {ends ends' : Bool}

theorem congr (h : IsFramed numbered text opens ends) (heq : ∀ fresh, opens fresh = opens' fresh) :
    IsFramed numbered text opens' ends := by
  rwa [funext heq] at h

/-- A single line that begins no item, whatever is put behind it. -/
theorem of_line (hfree : '\n' ∉ text.toList) (hvisible : strip text ≠ "")
    (hstart : ∀ rest, opensItem numbered ((strip text).toList ++ rest) = false) :
    IsFramed numbered text (fun _ => false) false := by
  let lead := text.toList.takeWhile isBlank
  let core := trimChars isBlank text.toList
  obtain ⟨tail, htail, hblank⟩ := exists_eq_trimEnd_append isBlank (text.toList.dropWhile isBlank)
  have hform : text.toList = lead ++ (core ++ tail) := by
    rw [show core ++ tail = text.toList.dropWhile isBlank from htail.symm,
      List.takeWhile_append_dropWhile]
  have hcore : (strip text).toList = core := String.toList_ofList
  have hparts : '\n' ∉ lead ∧ '\n' ∉ core ∧ '\n' ∉ tail := by
    rw [hform] at hfree
    simpa only [List.mem_append, not_or] using hfree
  rw [hcore] at hstart
  obtain ⟨c, rest, hfront⟩ := List.exists_cons_of_ne_nil
    (show core ≠ [] from fun hnil => hvisible (by rw [← String.toList_eq_nil_iff, hcore, hnil]))
  have hc : isBlank c = false := by
    have hdrop := List.dropWhile_eq_self_iff.1 (dropWhile_trimChars (p := isBlank) text.toList)
    simpa [show trimChars isBlank text.toList = c :: rest from hfront] using hdrop
  refine ⟨lead, core, tail, hform, ?_⟩
  exact {
    lead_blank := fun c hc => List.mem_takeWhile_imp hc
    lead_free := hparts.1
    tail_blank := hblank
    tail_free := fun _ => hparts.2.2
    tail_ends := nofun
    front := ⟨c, rest, hfront, hc⟩
    back := trimEnd_trimChars text.toList
    closed := closed_fixed hparts.2.1 hstart
    opens_iff := fun fresh => by rw [opens_fixed hparts.2.1 hstart, Bool.and_false]
    indented := fun _ => rfl }

theorem newline (h : IsFramed numbered text opens ends) :
    IsFramed numbered (text ++ "\n") opens true := by
  obtain ⟨lead, core, tail, htext, hframe⟩ := h
  refine ⟨lead, core, tail ++ ['\n'], ?_, hframe.newline⟩
  simp [htext]

theorem append (h : IsFramed numbered text opens ends)
    (h' : IsFramed numbered second opens' ends') :
    IsFramed numbered (text ++ second) (fun fresh => opens fresh || opens' ends) ends' := by
  obtain ⟨lead, core, tail, htext, hframe⟩ := h
  obtain ⟨lead', core', tail', hsecond, hframe'⟩ := h'
  exact ⟨lead, _, tail', by simp [htext, hsecond], hframe.append hframe'⟩

theorem strip (h : IsFramed numbered text opens ends) :
    IsFramed numbered (Text.strip text) opens false := by
  obtain ⟨lead, core, tail, htext, hframe⟩ := h
  exact ⟨[], core, [], by simp [Text.strip, htext, hframe.trimChars_eq], hframe.trimmed⟩

/-- The text, trimmed, as an item. -/
theorem item (h : IsFramed numbered text opens ends) (kind : Bool) (n : Nat) :
    IsFramed numbered (itemMarker kind n ++ Text.strip text)
      (fun fresh => fresh && kind == numbered || opens false) false := by
  obtain ⟨lead, core, tail, htext, hframe⟩ := h
  exact ⟨[], _, [], by simp [Text.strip, htext, hframe.trimChars_eq], hframe.item kind n⟩

/-- Whether a line below the first one of the text, trimmed, begins an item. -/
theorem exists_later_iff (h : IsFramed numbered text opens ends) :
    (∃ line ∈ (lines (Text.strip text)).tail, opensItem numbered line.toList = true) ↔
      opens false = true := by
  obtain ⟨lead, core, tail, htext, hframe⟩ := h
  rw [← hframe.opens_iff, Text.strip, htext, hframe.trimChars_eq]
  simp [lines, Opens, ← List.map_tail]

end IsFramed

end ContentModel.Markdown
