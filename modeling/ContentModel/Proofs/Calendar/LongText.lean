import ContentModel.Proofs.Calendar.Stamp
import ContentModel.Proofs.Text.Lines
import ContentModel.Rendering.Formatter

/-!
# Dates in words

* `Date.longText_injective` says that a date in words determines the date;
* `Iso.TimePart` and `Iso.Carries` say that a text carries a date, alone or with a time of day after
  it; `Iso.calendarDate?_eq_some_iff` says that this is the date that is read from it;
* `Formatter.humanDate_names` is the main statement: exactly the texts that carry a date are changed,
  into the date in words.
-/

namespace ContentModel

open Digits

/-! ## Months -/

namespace Calendar

theorem monthName_injective {month other : Nat} (hmonth : 1 ≤ month ∧ month ≤ 12)
    (hother : 1 ≤ other ∧ other ≤ 12) (h : monthName month = monthName other) : month = other := by
  have hall : ∀ month < 13, ∀ other < 13, 1 ≤ month → 1 ≤ other →
      monthName month = monthName other → month = other := by decide +kernel
  exact hall month (by omega) other (by omega) hmonth.1 hother.1 h

/-- The name of a month is a single word. -/
theorem blank_notMem_monthName (month : Nat) : ' ' ∉ (monthName month).toList := by
  unfold monthName
  split <;> decide

/-- The name of a month begins with neither a blank nor a digit. -/
theorem exists_head_monthName (month : Nat) : ∃ c rest, (monthName month).toList = c :: rest ∧
    Text.isBlank c = false ∧ Text.isAsciiDigit c = false := by
  unfold monthName
  split <;> exact ⟨_, _, rfl, by decide, by decide⟩

end Calendar

/-! ## Dates in words -/

namespace Date

open Calendar

theorem toList_longText (date : Date) : date.longText.toList =
    (monthName date.month).toList ++ ' ' ::
      ((ofNat date.day ++ [',']) ++ ' ' :: ofNat date.year) := by
  have hnat (n : Nat) : (intText n).toList = ofNat n := by
    rw [intText, String.toList_ofList, ofInt, if_neg (by omega), Int.natAbs_natCast]
  simp [longText, hnat]

theorem splitChars_longText (date : Date) : Text.splitChars ' ' date.longText.toList =
    [(monthName date.month).toList, ofNat date.day ++ [','], ofNat date.year] := by
  have hdigits (n : Nat) : ' ' ∉ ofNat n := fun h =>
    absurd (isAsciiDigit_of_mem_ofNat h) (by decide)
  rw [toList_longText, Text.splitChars_append_cons, Text.splitChars_append_cons,
    Text.splitChars_of_notMem (blank_notMem_monthName _), Text.splitChars_of_notMem (hdigits _),
    Text.splitChars_of_notMem (by simpa using hdigits date.day)]
  rfl

/-- A date in words determines the date. -/
theorem longText_injective : Function.Injective longText := by
  intro date other h
  have hpieces := splitChars_longText date
  rw [h, splitChars_longText] at hpieces
  simp only [List.cons.injEq, List.append_cancel_right_eq, and_true] at hpieces
  obtain ⟨hmonth, hday, hyear⟩ := hpieces
  have hname : other.month = date.month :=
    monthName_injective other.bounds.2.1 date.bounds.2.1 (String.toList_inj.1 hmonth)
  have hday := ofNat_injective hday
  have hyear := ofNat_injective hyear
  cases date
  cases other
  simp_all

end Date

/-! ## Texts that carry a date -/

namespace Iso

/-- What may follow a date: nothing, or a `T` or a space, hours and minutes, seconds and a fraction
if they are given, and an offset. The digits may be of any script. -/
inductive TimePart : List Char → Prop
  | none : TimePart []
  | time {hour minute second fraction tail : List Char}
      {offset : Option (Bool × List Char × List Char)} (separator : Char)
      (separates : separator = 'T' ∨ separator = ' ') (clock_runs : IsRun 2 hour ∧ IsRun 2 minute)
      (second_run : second = [] ∨ IsRun 2 second)
      (fraction_run : ∀ c ∈ fraction, Text.isDigit c = true) (zone : Zone offset tail) :
      TimePart (separator :: (clockChars hour minute second ++ announced '.' fraction ++ tail))

/-- Trimmed, a text is a date in ASCII digits, alone or with a time part after it. -/
def Carries (text : String) (date : Date) : Prop :=
  ∃ year month day tail, (IsAsciiRun 4 year ∧ IsAsciiRun 2 month ∧ IsAsciiRun 2 day) ∧
    TimePart tail ∧
    Text.trimChars Text.isBlank text.toList = dateChars year month day ++ tail ∧
    date.year = Text.digitsValue year ∧ date.month = Text.digitsValue month ∧
    date.day = Text.digitsValue day

theorem Written.exists_timePart {parts : Parts} {text : List Char} (h : Written parts text) :
    (IsRun 4 parts.year ∧ IsRun 2 parts.month ∧ IsRun 2 parts.day) ∧
      ∃ tail, TimePart tail ∧ text = dateChars parts.year parts.month parts.day ++ tail := by
  rcases h with ⟨hdate⟩ | ⟨⟨separator, hseparator, hdate, hclock, hsecond, hfraction⟩, hzone⟩
  · exact ⟨hdate, [], .none, (List.append_nil _).symm⟩
  · refine ⟨hdate, _, .time separator hseparator hclock hsecond hfraction hzone, ?_⟩
    simp only [List.append_assoc, List.cons_append]

theorem TimePart.exists_written {year month day tail : List Char} (h : TimePart tail)
    (hdate : IsRun 4 year ∧ IsRun 2 month ∧ IsRun 2 day) :
    ∃ parts, Written parts (dateChars year month day ++ tail) ∧ parts.year = year ∧
      parts.month = month ∧ parts.day = day := by
  cases h with
  | none =>
    have hwritten := Written.date hdate
    exact ⟨_, by rwa [List.append_nil], rfl, rfl, rfl⟩
  | time separator hseparator hclock hsecond hfraction hzone =>
    have hwritten := Written.time (.intro separator hseparator hdate hclock hsecond hfraction) hzone
    rw [List.append_assoc, List.cons_append] at hwritten
    exact ⟨_, hwritten, rfl, rfl, rfl⟩

theorem Parts.date?_eq_some_iff {parts : Parts} {date : Date} : parts.date? = some date ↔
    ((∀ c ∈ parts.year, Text.isAsciiDigit c = true) ∧
      (∀ c ∈ parts.month, Text.isAsciiDigit c = true) ∧
      ∀ c ∈ parts.day, Text.isAsciiDigit c = true) ∧
    date.year = Text.digitsValue parts.year ∧ date.month = Text.digitsValue parts.month ∧
    date.day = Text.digitsValue parts.day := by
  unfold Parts.date?
  split
  · next hascii =>
    simp only [List.all_append, Bool.and_eq_true, List.all_eq_true, and_assoc] at hascii
    rw [Date.of?_eq_some_iff, and_iff_right hascii]
  · next hascii =>
    refine iff_of_false nofun ?_
    rintro ⟨⟨hyear, hmonth, hday⟩, -⟩
    simp only [List.all_append, Bool.and_eq_true, List.all_eq_true] at hascii
    exact hascii ⟨⟨hyear, hmonth⟩, hday⟩

/-- The date that is read from a text is the one that it carries. -/
theorem calendarDate?_eq_some_iff {text : String} {date : Date} :
    calendarDate? text = some date ↔ Carries text date := by
  simp only [calendarDate?, Option.bind_eq_some_iff, split?_eq_some_iff, Parts.date?_eq_some_iff]
  constructor
  · rintro ⟨parts, hwritten, ⟨hyear, hmonth, hday⟩, hvalues⟩
    obtain ⟨⟨hyear', hmonth', hday'⟩, tail, htail, htext⟩ := hwritten.exists_timePart
    exact ⟨_, _, _, tail, ⟨⟨hyear'.1, hyear⟩, ⟨hmonth'.1, hmonth⟩, ⟨hday'.1, hday⟩⟩, htail, htext,
      hvalues⟩
  · rintro ⟨year, month, day, tail, ⟨hyear, hmonth, hday⟩, htail, htext, hvalues⟩
    obtain ⟨parts, hwritten, rfl, rfl, rfl⟩ :=
      htail.exists_written ⟨hyear.isRun, hmonth.isRun, hday.isRun⟩
    exact ⟨parts, htext ▸ hwritten, ⟨hyear.2, hmonth.2, hday.2⟩, hvalues⟩

/-- What carries a date is no date in words: it begins with a digit. -/
theorem Carries.ne_longText {text : String} {date : Date} (h : Carries text date) (other : Date) :
    text ≠ other.longText := by
  rintro rfl
  obtain ⟨year, month, day, tail, ⟨hyear, -⟩, -, htext, -⟩ := h
  obtain ⟨c, rest, hname, hblank, hdigit⟩ := Calendar.exists_head_monthName other.month
  rw [Date.toList_longText, hname, List.cons_append, Text.trimChars,
    List.dropWhile_cons_of_neg (by simp [hblank])] at htext
  cases year with
  | nil => cases hyear.1
  | cons d front =>
    obtain ⟨more, hmore⟩ := htext ▸ Text.trimEnd_isPrefix (p := Text.isBlank) (c :: _)
    have hhead : d = c := by simpa [dateChars] using congrArg List.head? hmore
    have hascii := hyear.2 d List.mem_cons_self
    rw [hhead, hdigit] at hascii
    cases hascii

end Iso

/-! ## Dates for readers -/

namespace Formatter

open Iso Calendar

theorem humanDate_of_carries {text : String} {date : Date} (h : Carries text date) :
    humanDate text = date.longText := by
  rw [humanDate, calendarDate?_eq_some_iff.2 h]

/-- **Dates for readers name the date that is written.** A text is changed just when it carries a
date, alone or with a time of day after it; then the month's name, the day and the year of the date
come out, whatever the time of day, fraction and offset. Two such texts come out alike just when
they carry the same date. -/
theorem humanDate_names :
    (∀ text, humanDate text ≠ text ↔ ∃ date, Carries text date) ∧
    (∀ text date, Carries text date → humanDate text =
      monthName date.month ++ (" " ++ (intText date.day ++ (", " ++ intText date.year)))) ∧
    ∀ text text' date date', Carries text date → Carries text' date' →
      (humanDate text = humanDate text' ↔ date = date') := by
  refine ⟨fun text => ⟨fun hchanged => ?_, ?_⟩, fun text date => humanDate_of_carries, ?_⟩
  · cases hdate : calendarDate? text with
    | none =>
      rw [humanDate, hdate] at hchanged
      exact absurd rfl hchanged
    | some date => exact ⟨date, calendarDate?_eq_some_iff.1 hdate⟩
  · rintro ⟨date, hcarries⟩
    rw [humanDate_of_carries hcarries]
    exact (hcarries.ne_longText date).symm
  · intro text text' date date' hcarries hcarries'
    rw [humanDate_of_carries hcarries, humanDate_of_carries hcarries']
    exact Date.longText_injective.eq_iff

/-- A leap day, alone and with blanks, a time of day that does not exist and a long offset around it,
comes out the same; the day that a common year does not have stays as it is. -/
theorem humanDate_names_leap_day :
    let leapDay : Date := ⟨2024, 2, 29, by decide⟩
    let late : String := " 2024-02-29 25:61.5-99:99\n"
    Carries late leapDay ∧ Carries "2024-02-29" leapDay ∧ humanDate late = "February 29, 2024" ∧
      humanDate "2024-02-29" = humanDate late ∧ humanDate "2023-02-29" = "2023-02-29" := by
  intro leapDay late
  obtain ⟨hchanged, hwords, hsame⟩ := humanDate_names
  have hlate : Carries late leapDay := calendarDate?_eq_some_iff.1 (by decide +kernel)
  have halone : Carries "2024-02-29" leapDay := calendarDate?_eq_some_iff.1 (by decide +kernel)
  have hnone : calendarDate? "2023-02-29" = none := by decide +kernel
  refine ⟨hlate, halone, (hwords late leapDay hlate).trans (by decide +kernel),
    (hsame _ _ _ _ halone hlate).2 rfl, ?_⟩
  by_contra hne
  obtain ⟨date, hdate⟩ := (hchanged "2023-02-29").1 hne
  rw [calendarDate?_eq_some_iff.2 hdate] at hnone
  cases hnone

end Formatter

end ContentModel
