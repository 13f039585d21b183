import ContentModel.Proofs.Calendar.Timestamp

/-!
# The plain form of dates and times

* `Iso.PlainForm` is the plain form as a grammar, for any class of digits;
* `Iso.PlainForm.mem` says which characters it is made of, `Iso.PlainForm.imp` that only its digits
  depend on the class;
* `Iso.isIsoDate_iff_plainForm` is the main statement: digits of all scripts and a line feed at the
  end are accepted, and nothing else but the form in ASCII digits.
-/

namespace ContentModel.Iso

variable {digit other : Char → Bool} {text run : List Char} {n : Nat}

/-- A run of digits of a class, of the given length. -/
def IsRunOf (digit : Char → Bool) (n : Nat) (run : List Char) : Prop :=
  run.length = n ∧ ∀ c ∈ run, digit c = true

/-- The plain form with digits of a class: a date, or a date, a `T` and a time of day to the second,
with three digits of a fraction or none and with a `Z` or without. -/
inductive PlainForm (digit : Char → Bool) : List Char → Prop
  | date {year month day : List Char}
      (runs : IsRunOf digit 4 year ∧ IsRunOf digit 2 month ∧ IsRunOf digit 2 day) :
      PlainForm digit (dateChars year month day)
  | time {year month day hour minute second fraction : List Char} (utc : Bool)
      (date_runs : IsRunOf digit 4 year ∧ IsRunOf digit 2 month ∧ IsRunOf digit 2 day)
      (clock_runs : IsRunOf digit 2 hour ∧ IsRunOf digit 2 minute ∧ IsRunOf digit 2 second)
      (fraction_run : fraction = [] ∨ IsRunOf digit 3 fraction) :
      PlainForm digit (dateChars year month day ++ 'T' :: (hour ++ ':' :: (minute ++ ':' :: second))
        ++ (announced '.' fraction ++ if utc then ['Z'] else []))

/-! ## The characters of the form -/

theorem IsRunOf.imp (h : IsRunOf digit n run)
    (himp : ∀ c ∈ run, digit c = true → other c = true) : IsRunOf other n run :=
  ⟨h.1, fun c hc => himp c hc (h.2 c hc)⟩

theorem mem_dateChars {year month day : List Char} {c : Char} :
    c ∈ dateChars year month day ↔ c = '-' ∨ c ∈ year ∨ c ∈ month ∨ c ∈ day := by
  simp only [dateChars, List.mem_append, List.mem_cons]
  tauto

theorem mem_announced {c d : Char} : c ∈ announced d run ↔ run ≠ [] ∧ (c = d ∨ c ∈ run) := by
  unfold announced
  split
  · next hnil => simp [List.isEmpty_iff.1 hnil]
  · next hne => simpa using fun _ => mt List.isEmpty_iff.2 hne

/-- Besides digits, the plain form has hyphens, colons, a `T`, a point and a `Z`. -/
theorem PlainForm.mem (h : PlainForm digit text) {c : Char} (hc : c ∈ text) :
    digit c = true ∨ c ∈ ['-', ':', 'T', '.', 'Z'] := by
  have hdate {year month day : List Char} (runs : IsRunOf digit 4 year ∧ IsRunOf digit 2 month ∧
      IsRunOf digit 2 day) (hmem : c ∈ dateChars year month day) : digit c = true ∨ c = '-' := by
    rcases mem_dateChars.1 hmem with rfl | hyear | hmonth | hday
    · exact Or.inr rfl
    · exact Or.inl (runs.1.2 c hyear)
    · exact Or.inl (runs.2.1.2 c hmonth)
    · exact Or.inl (runs.2.2.2 c hday)
  cases h with
  | date runs => exact (hdate runs hc).imp_right fun heq => by simp [heq]
  | time utc date_runs clock_runs fraction_run =>
    simp only [List.mem_append, List.mem_cons, mem_announced] at hc
    rcases hc with (hmem | rfl | hour | rfl | minute | rfl | second) |
      ⟨hne, rfl | hfraction⟩ | hutc
    · exact (hdate date_runs hmem).imp_right fun heq => by simp [heq]
    · simp
    · exact Or.inl (clock_runs.1.2 c hour)
    · simp
    · exact Or.inl (clock_runs.2.1.2 c minute)
    · simp
    · exact Or.inl (clock_runs.2.2.2 c second)
    · simp
    · exact Or.inl ((fraction_run.resolve_left hne).2 c hfraction)
    · cases utc <;> simp_all

theorem PlainForm.newline_notMem (h : PlainForm Text.isAsciiDigit text) : '\n' ∉ text := by
  intro hnewline
  have hchar := h.mem hnewline
  revert hchar
  decide

/-- The form in ASCII digits has no digits of other scripts. -/
theorem PlainForm.isAsciiDigit_of_isDigit (h : PlainForm Text.isAsciiDigit text) {c : Char}
    (hc : c ∈ text) (hdigit : Text.isDigit c = true) : Text.isAsciiDigit c = true := by
  have hmarks : ∀ c ∈ ['-', ':', 'T', '.', 'Z'], c.toNat < 128 := by simp
  rcases h.mem hc with hascii | hmark
  · exact hascii
  · exact Text.isAsciiDigit_of_isDigit hdigit (hmarks c hmark)

/-- If digits of one class are digits of another where they stand in the form, then the form is one
for the other class. -/
theorem PlainForm.imp (h : PlainForm digit text)
    (himp : ∀ c ∈ text, digit c = true → other c = true) : PlainForm other text := by
  cases h with
  | date runs =>
    simp only [mem_dateChars] at himp
    exact .date ⟨runs.1.imp fun c hc => himp c (by simp [hc]),
      runs.2.1.imp fun c hc => himp c (by simp [hc]),
      runs.2.2.imp fun c hc => himp c (by simp [hc])⟩
  | time utc date_runs clock_runs fraction_run =>
    simp only [List.mem_append, List.mem_cons, mem_dateChars, mem_announced] at himp
    refine .time utc ⟨date_runs.1.imp fun c hc => himp c (by simp [hc]),
      date_runs.2.1.imp fun c hc => himp c (by simp [hc]),
      date_runs.2.2.imp fun c hc => himp c (by simp [hc])⟩
      ⟨clock_runs.1.imp fun c hc => himp c (by simp [hc]),
      clock_runs.2.1.imp fun c hc => himp c (by simp [hc]),
      clock_runs.2.2.imp fun c hc => himp c (by simp [hc])⟩
      (fraction_run.imp_right fun hrun => hrun.imp fun c hc => himp c ?_)
    exact Or.inr (Or.inl ⟨List.ne_nil_of_mem hc, Or.inr hc⟩)

/-! ## Acceptance -/

theorem isIsoDate_of_plainForm {s : String} {form last : List Char}
    (h : PlainForm Text.isDigit form) (hlast : atEnd last = true) (hs : s.toList = form ++ last) :
    isIsoDate s = true := by
  rw [isIsoDate_iff]
  cases h with
  | date runs => exact Or.inl ⟨_, _, _, last, runs, hlast, hs⟩
  | @time _ _ _ _ _ _ fraction utc date_runs clock_runs fraction_run =>
    refine Or.inr ⟨_, announced '.' fraction ++ ((if utc then ['Z'] else []) ++ last),
      .intro date_runs clock_runs, plainTail_iff.2 ⟨fraction, _, fraction_run, ⟨last, hlast, ?_⟩, rfl⟩,
      by rw [hs]; simp only [List.append_assoc]⟩
    cases utc
    · exact Or.inl rfl
    · exact Or.inr rfl

theorem exists_plainForm {s : String} (h : isIsoDate s = true) :
    ∃ form last, PlainForm Text.isDigit form ∧ atEnd last = true ∧ s.toList = form ++ last := by
  rcases isIsoDate_iff.1 h with ⟨year, month, day, last, hruns, hlast, hs⟩ |
    ⟨_, _, ⟨hdate, hclock⟩, htail, hs⟩
  · exact ⟨_, last, .date hruns, hlast, hs⟩
  · obtain ⟨fraction, rest, hfraction, ⟨last, hlast, hrest⟩, rfl⟩ := plainTail_iff.1 htail
    obtain ⟨utc, rfl⟩ : ∃ utc : Bool, rest = (if utc then ['Z'] else []) ++ last := by
      rcases hrest with rfl | rfl
      · exact ⟨false, rfl⟩
      · exact ⟨true, rfl⟩
    exact ⟨_, last, .time utc hdate hclock hfraction, hlast,
      by rw [hs]; simp only [List.append_assoc]⟩

/-- **The plain form is accepted with digits of all scripts and with a line feed at the end.** A text
is accepted just when it is the plain form with decimal digits of any script, followed by nothing or
by a single line feed. So the texts that are the plain form in ASCII digits as a whole are those
accepted texts that have no line feed and no digits but ASCII digits. -/
theorem isIsoDate_iff_plainForm (s : String) :
    (isIsoDate s = true ↔ ∃ form, PlainForm Text.isDigit form ∧
      (s.toList = form ∨ s.toList = form ++ ['\n'])) ∧
    (PlainForm Text.isAsciiDigit s.toList ↔ isIsoDate s = true ∧ '\n' ∉ s.toList ∧
      ∀ c ∈ s.toList, Text.isDigit c = true → Text.isAsciiDigit c = true) := by
  refine ⟨⟨fun h => ?_, ?_⟩, fun h => ⟨?_, h.newline_notMem, fun c => h.isAsciiDigit_of_isDigit⟩, ?_⟩
  · obtain ⟨form, last, hform, hlast, hs⟩ := exists_plainForm h
    rcases atEnd_iff.1 hlast with rfl | rfl
    · exact ⟨form, hform, Or.inl (by rw [hs, List.append_nil])⟩
    · exact ⟨form, hform, Or.inr hs⟩
  · rintro ⟨form, hform, hs | hs⟩
    · exact isIsoDate_of_plainForm hform rfl (by rw [hs, List.append_nil])
    · exact isIsoDate_of_plainForm hform rfl hs
  · have hdigits := h.imp fun c _ => Text.isDigit_of_isAsciiDigit
    exact isIsoDate_of_plainForm hdigits rfl (List.append_nil _).symm
  · rintro ⟨haccepted, hnewline, hascii⟩
    obtain ⟨form, last, hform, hlast, hs⟩ := exists_plainForm haccepted
    obtain rfl : last = [] := by
      refine (atEnd_iff.1 hlast).resolve_right ?_
      rintro rfl
      exact hnewline (by simp [hs])
    rw [List.append_nil] at hs
    exact hs ▸ hform.imp (hs ▸ hascii)

example : isIsoDate "2024-01-31\n" = true ∧ isIsoDate "٢٠٢٤-01-31" = true := by decide +kernel

end ContentModel.Iso
