import ContentModel.Proofs.Calendar.Stamp

/-!
# Plain dates and timestamps

The two strict forms of dates and times, taken apart.

* `Iso.isIsoDate_iff` and `Iso.isTimestamp_iff` take the plain form and timestamps apart, into the
  strict date and time of day and what comes after it;
* `Iso.isIsoDate_iff_of_isTimestamp` says which timestamps are of the plain form: those with three
  digits of a fraction, or none;
* `Iso.Stamp.isTimestamp_text` says that the written forms of stamps in UTC are timestamps.
-/

namespace ContentModel.Iso

section Forms

variable {text rest : List Char}

/-! ## Grammars -/

theorem clockPart?_eq_some_iff {hour minute second : List Char} :
    clockPart? text = some ((hour, minute, second), rest) ↔
      (IsRun 2 hour ∧ IsRun 2 minute ∧ IsRun 2 second) ∧
        text = hour ++ ':' :: (minute ++ ':' :: second) ++ rest := by
  simp only [clockPart?, Option.bind_eq_bind, Option.pure_def, Option.bind_eq_some_iff,
    Prod.exists, digits?_eq_some_iff, char?_eq_some_iff]
  constructor
  · rintro ⟨_, _, ⟨hhour, rfl⟩, _, rfl, _, _, ⟨hminute, rfl⟩, _, rfl, _, _, ⟨hsecond, rfl⟩, heq⟩
    cases heq
    exact ⟨⟨hhour, hminute, hsecond⟩, by simp⟩
  · rintro ⟨⟨hhour, hminute, hsecond⟩, rfl⟩
    exact ⟨hour, ':' :: (minute ++ ':' :: (second ++ rest)), ⟨hhour, by simp⟩, _, rfl, minute,
      ':' :: (second ++ rest), ⟨hminute, rfl⟩, _, rfl, second, rest, ⟨hsecond, rfl⟩, rfl⟩

/-- What ends a plain date and time: a `Z` or nothing, then the end of the text. -/
def PlainEnd (rest : List Char) : Prop :=
  ∃ last, atEnd last = true ∧ (rest = last ∨ rest = 'Z' :: last)

theorem atEnd_iff : atEnd text = true ↔ text = [] ∨ text = ['\n'] := by
  simp [atEnd]

theorem PlainEnd.endsFraction (h : PlainEnd rest) : EndsFraction rest := by
  obtain ⟨last, hlast, rfl | rfl⟩ := h
  · rcases atEnd_iff.1 hlast with rfl | rfl
    · exact ⟨nofun, nofun⟩
    · exact ⟨by rintro c more heq; cases heq; decide, nofun⟩
  · exact ⟨by rintro c more heq; cases heq; decide, nofun⟩

theorem utcEnd_iff : ((char? 'Z' text).map atEnd).getD false = true ↔
    ∃ last, atEnd last = true ∧ text = 'Z' :: last := by
  cases h : char? 'Z' text with
  | none =>
    refine iff_of_false (by simp) ?_
    rintro ⟨last, -, rfl⟩
    rw [char?_cons_self] at h
    cases h
  | some rest =>
    rw [char?_eq_some_iff.1 h]
    simp

theorem plainTail_iff : plainTail text = true ↔
    ∃ fraction rest, (fraction = [] ∨ IsRun 3 fraction) ∧ PlainEnd rest ∧
      text = announced '.' fraction ++ rest := by
  have hzone (text : List Char) :
      (atEnd text || ((char? 'Z' text).map atEnd).getD false) = true ↔ PlainEnd text := by
    rw [Bool.or_eq_true, utcEnd_iff, PlainEnd]
    simp only [and_or_left, exists_or, exists_eq_right']
  rw [plainTail, Bool.or_eq_true, hzone]
  constructor
  · rintro (hplain | hpoint)
    · exact ⟨[], text, Or.inl rfl, hplain, rfl⟩
    · split at hpoint
      · cases hpoint
      · next more hmore =>
        split at hpoint
        · cases hpoint
        · next run rest hrun =>
          obtain ⟨hthree, rfl⟩ := digits?_eq_some_iff.1 hrun
          refine ⟨run, rest, Or.inr hthree, (hzone rest).1 hpoint, ?_⟩
          rw [char?_eq_some_iff.1 hmore, announced_of_isRun '.' hthree, List.cons_append]
  · rintro ⟨fraction, rest, rfl | hrun, hplain, rfl⟩
    · exact Or.inl hplain
    · right
      rw [announced_of_isRun '.' hrun, List.cons_append, char?_cons_self]
      simp only [digits?_append hrun]
      exact (hzone rest).2 hplain

/-- What a timestamp has after its seconds. -/
def utcTail (text : List Char) : Bool :=
  match char? '.' text with
  | none => ((char? 'Z' text).map atEnd).getD false
  | some more =>
    !(more.takeWhile Text.isDigit).isEmpty &&
      ((char? 'Z' (more.dropWhile Text.isDigit)).map atEnd).getD false

theorem utcTail_iff : utcTail text = true ↔
    ∃ fraction last, (∀ c ∈ fraction, Text.isDigit c = true) ∧ atEnd last = true ∧
      text = announced '.' fraction ++ 'Z' :: last := by
  unfold utcTail
  cases h : char? '.' text with
  | none =>
    dsimp only
    rw [utcEnd_iff]
    constructor
    · rintro ⟨last, hlast, rfl⟩
      exact ⟨[], last, nofun, hlast, rfl⟩
    · rintro ⟨fraction, last, -, hlast, rfl⟩
      cases fraction with
      | nil => exact ⟨last, hlast, rfl⟩
      | cons c rest => simp [announced] at h
  | some more =>
    obtain rfl := char?_eq_some_iff.1 h
    dsimp only
    rw [Bool.and_eq_true, utcEnd_iff]
    constructor
    · rintro ⟨hne, last, hlast, hrest⟩
      refine ⟨more.takeWhile Text.isDigit, last, fun c hc => List.mem_takeWhile_imp hc, hlast, ?_⟩
      rw [announced, if_neg (by simpa using hne), List.cons_append, ← hrest,
        List.takeWhile_append_dropWhile]
    · rintro ⟨fraction, last, hdigits, hlast, heq⟩
      cases fraction with
      | nil => simp [announced] at heq
      | cons c rest =>
        rw [announced, if_neg (by simp), List.cons_append] at heq
        obtain ⟨-, rfl⟩ := List.cons.inj heq
        rw [List.takeWhile_append_of_pos hdigits, List.dropWhile_append_of_pos hdigits]
        exact ⟨by simp, last, hlast, by simp [show Text.isDigit 'Z' = false by decide]⟩

/-- A date and time of day in the strict form: a `T` between them, and the seconds given. -/
inductive WrittenStrict : List Char → Prop
  | intro {year month day hour minute second : List Char}
      (date_runs : IsRun 4 year ∧ IsRun 2 month ∧ IsRun 2 day)
      (clock_runs : IsRun 2 hour ∧ IsRun 2 minute ∧ IsRun 2 second) :
      WrittenStrict
        (dateChars year month day ++ 'T' :: (hour ++ ':' :: (minute ++ ':' :: second)))

theorem WrittenStrict.length {front : List Char} (h : WrittenStrict front) : front.length = 19 := by
  obtain ⟨⟨hyear, hmonth, hday⟩, hhour, hminute, hsecond⟩ := h
  simp [dateChars, hyear.1, hmonth.1, hday.1, hhour.1, hminute.1, hsecond.1]

variable {front : List Char} {s : String}

theorem isIsoDate_of_strict (h : WrittenStrict front) (hs : s.toList = front ++ rest) :
    isIsoDate s = plainTail rest := by
  obtain ⟨hdate, hclock⟩ := h
  rw [List.append_assoc] at hs
  have hmore (more : List Char) : atEnd ('T' :: more) = false := by simp [atEnd]
  rw [isIsoDate, datePart?_eq_some_iff.2 ⟨hdate, hs⟩]
  simp only [List.cons_append, hmore, Bool.false_or, char?_cons_self, Option.bind_some,
    clockPart?_eq_some_iff.2 ⟨hclock, rfl⟩]

theorem isTimestamp_of_strict (h : WrittenStrict front) (hs : s.toList = front ++ rest) :
    isTimestamp s = utcTail rest := by
  obtain ⟨hdate, hclock⟩ := h
  rw [List.append_assoc] at hs
  rw [isTimestamp, datePart?_eq_some_iff.2 ⟨hdate, hs⟩]
  simp only [List.cons_append, char?_cons_self, Option.bind_some,
    clockPart?_eq_some_iff.2 ⟨hclock, rfl⟩]
  rfl

/-- What is read of a date, a `T` and a time of day is the strict form. -/
theorem writtenStrict_of_parts {date clock : List Char × List Char × List Char} {after : List Char}
    (hdate : datePart? text = some (date, after))
    (hclock : (char? 'T' after).bind clockPart? = some (clock, rest)) :
    ∃ front, WrittenStrict front ∧ text = front ++ rest := by
  obtain ⟨hdateRuns, rfl⟩ := datePart?_eq_some_iff.1 hdate
  obtain ⟨more, hmore, hpart⟩ := Option.bind_eq_some_iff.1 hclock
  obtain ⟨hclockRuns, rfl⟩ := clockPart?_eq_some_iff.1 hpart
  obtain rfl := char?_eq_some_iff.1 hmore
  exact ⟨_, .intro hdateRuns hclockRuns, by simp⟩

theorem isTimestamp_iff : isTimestamp s = true ↔
    ∃ front rest, WrittenStrict front ∧ utcTail rest = true ∧ s.toList = front ++ rest := by
  constructor
  · intro h
    unfold isTimestamp at h
    split at h
    · cases h
    · next date after hdate =>
      split at h
      · cases h
      · next clock rest hclock =>
        obtain ⟨front, hfront, hs⟩ := writtenStrict_of_parts hdate hclock
        exact ⟨front, rest, hfront, h, hs⟩
  · rintro ⟨front, rest, hfront, htail, hs⟩
    rw [isTimestamp_of_strict hfront hs, htail]

/-- A text in the plain form is a date, or a date and time of day. -/
theorem isIsoDate_iff : isIsoDate s = true ↔
    (∃ year month day last, (IsRun 4 year ∧ IsRun 2 month ∧ IsRun 2 day) ∧ atEnd last = true ∧
      s.toList = dateChars year month day ++ last) ∨
    ∃ front rest, WrittenStrict front ∧ plainTail rest = true ∧ s.toList = front ++ rest := by
  constructor
  · intro h
    unfold isIsoDate at h
    split at h
    · cases h
    · next date after hdate =>
      rcases Bool.or_eq_true_iff.1 h with hend | htime
      · obtain ⟨hruns, hs⟩ := datePart?_eq_some_iff.1 hdate
        exact Or.inl ⟨_, _, _, after, hruns, hend, hs⟩
      · split at htime
        · cases htime
        · next clock rest hclock =>
          obtain ⟨front, hfront, hs⟩ := writtenStrict_of_parts hdate hclock
          exact Or.inr ⟨front, rest, hfront, htime, hs⟩
  · rintro (⟨year, month, day, last, hruns, hlast, hs⟩ | ⟨front, rest, hfront, htail, hs⟩)
    · rw [isIsoDate, datePart?_eq_some_iff.2 ⟨hruns, hs⟩]
      exact Bool.or_eq_true_iff.2 (Or.inl hlast)
    · rw [isIsoDate_of_strict hfront hs, htail]

/-! ## Which timestamps are plain -/

/-- The digits of the fraction in a strict form, in which they come after 19 characters and a
point. -/
def strictFraction (s : String) : List Char := (fractionPart (s.toList.drop 19)).1

/-- The fraction of a plain date and time has three digits, or there is none. -/
def HasPlainFraction (s : String) : Prop :=
  (strictFraction s).length = 0 ∨ (strictFraction s).length = 3

instance (s : String) : Decidable (HasPlainFraction s) := inferInstanceAs (Decidable (_ ∨ _))

theorem strictFraction_eq {fraction : List Char} (hfront : WrittenStrict front)
    (hdigits : ∀ c ∈ fraction, Text.isDigit c = true) (hrest : EndsFraction rest)
    (hs : s.toList = front ++ (announced '.' fraction ++ rest)) : strictFraction s = fraction := by
  rw [strictFraction, hs, ← hfront.length, List.drop_left, fractionPart_append hdigits hrest]

theorem hasPlainFraction_of_isIsoDate (h : isIsoDate s = true) : HasPlainFraction s := by
  rcases isIsoDate_iff.1 h with ⟨year, month, day, last, ⟨hyear, hmonth, hday⟩, hlast, hs⟩ |
    ⟨front, rest, hfront, htail, hs⟩
  · have hshort : s.toList.length ≤ 11 := by
      rw [hs]
      rcases atEnd_iff.1 hlast with rfl | rfl <;>
        simp [dateChars, hyear.1, hmonth.1, hday.1]
    left
    rw [strictFraction, List.drop_of_length_le (by omega)]
    rfl
  · obtain ⟨fraction, last, hfraction, hend, rfl⟩ := plainTail_iff.1 htail
    have hdigits : ∀ c ∈ fraction, Text.isDigit c = true := by
      rcases hfraction with rfl | hrun
      · exact List.forall_mem_nil _
      · exact hrun.2
    rw [HasPlainFraction, strictFraction_eq hfront hdigits hend.endsFraction hs]
    rcases hfraction with rfl | hrun
    · exact Or.inl rfl
    · exact Or.inr hrun.1

/-- A timestamp is of the plain form just when its fraction is. -/
theorem isIsoDate_iff_of_isTimestamp (h : isTimestamp s = true) :
    isIsoDate s = true ↔ HasPlainFraction s := by
  refine ⟨hasPlainFraction_of_isIsoDate, fun hplain => ?_⟩
  obtain ⟨front, rest, hfront, htail, hs⟩ := isTimestamp_iff.1 h
  obtain ⟨fraction, last, hdigits, hlast, rfl⟩ := utcTail_iff.1 htail
  have hend : PlainEnd ('Z' :: last) := ⟨last, hlast, Or.inr rfl⟩
  rw [HasPlainFraction, strictFraction_eq hfront hdigits hend.endsFraction hs] at hplain
  rw [isIsoDate_of_strict hfront hs, plainTail_iff]
  refine ⟨fraction, 'Z' :: last, ?_, hend, rfl⟩
  rcases hplain with hnone | hthree
  · exact Or.inl (List.length_eq_zero_iff.1 hnone)
  · exact Or.inr ⟨hthree, hdigits⟩

end Forms

theorem Stamp.isTimestamp_text (stamp : Stamp) : isTimestamp stamp.text = true := by
  have hdate := stamp.date_runs
  have hclock := stamp.clock_runs
  refine isTimestamp_iff.2 ⟨_, announced '.' stamp.fraction ++ ['Z'],
    .intro ⟨hdate.1.isRun, hdate.2.1.isRun, hdate.2.2.isRun⟩
      ⟨hclock.1.isRun, hclock.2.1.isRun, hclock.2.2.isRun⟩,
    utcTail_iff.2 ⟨stamp.fraction, [], ?_, rfl, rfl⟩, ?_⟩
  · exact fun c hc => Text.isDigit_of_isAsciiDigit (stamp.fraction_run c hc)
  · rw [Stamp.text, String.toList_ofList, Stamp.localChars, List.append_assoc]

end ContentModel.Iso
