import Mathlib.Data.List.TakeWhile
import ContentModel.Proofs.Text.Digits
import ContentModel.Calendar.Iso

/-!
# The written forms of dates and times

The general form of dates and times as a grammar, and the reader that takes it apart.

* `Iso.WrittenLocal` relates a date and time of day without an offset to its text, `Iso.Zone` an
  offset to its text, and `Iso.Written` a date, with or without these, to the whole text;
* `Iso.splitChars?_eq_some_iff` says that the reader takes apart exactly the texts of the grammar,
  into the parts that they are written from.
-/

namespace ContentModel.Iso

variable {text rest run tail : List Char}

/-! ## Runs and characters -/

/-- A run of decimal digits of any script, of the given length. -/
def IsRun (n : Nat) (run : List Char) : Prop := run.length = n ∧ ∀ c ∈ run, Text.isDigit c = true

instance (n : Nat) (run : List Char) : Decidable (IsRun n run) :=
  decidable_of_iff (run.length = n ∧ run.all Text.isDigit = true) (and_congr_right' List.all_eq_true)

theorem digits?_eq_some_iff {n : Nat} :
    digits? n text = some (run, rest) ↔ IsRun n run ∧ text = run ++ rest := by
  induction n generalizing text run with
  | zero =>
    simp only [digits?, IsRun, Option.some.injEq, Prod.mk.injEq, List.length_eq_zero_iff]
    constructor
    · rintro ⟨rfl, rfl⟩
      simp
    · rintro ⟨⟨rfl, -⟩, rfl⟩
      simp
  | succ n ih =>
    cases text with
    | nil =>
      refine iff_of_false (by simp [digits?]) ?_
      rintro ⟨⟨hlength, -⟩, happend⟩
      rw [(List.append_eq_nil_iff.1 happend.symm).1] at hlength
      cases hlength
    | cons c more =>
      simp only [digits?]
      constructor
      · intro h
        split at h
        · next hc =>
          obtain ⟨⟨front, after⟩, hfront, heq⟩ := Option.map_eq_some_iff.1 h
          cases heq
          obtain ⟨⟨hlength, hdigits⟩, rfl⟩ := ih.1 hfront
          exact ⟨⟨by rw [List.length_cons, hlength], List.forall_mem_cons.2 ⟨hc, hdigits⟩⟩, rfl⟩
        · cases h
      · rintro ⟨⟨hlength, hdigits⟩, happend⟩
        cases run with
        | nil => cases hlength
        | cons d front =>
          rw [List.cons_append] at happend
          obtain ⟨rfl, rfl⟩ := List.cons.inj happend
          rw [List.forall_mem_cons] at hdigits
          rw [if_pos hdigits.1, ih.2 ⟨⟨Nat.succ.inj hlength, hdigits.2⟩, rfl⟩]
          rfl

theorem digits?_append {n : Nat} (h : IsRun n run) (rest : List Char) :
    digits? n (run ++ rest) = some (run, rest) :=
  digits?_eq_some_iff.2 ⟨h, rfl⟩

@[simp] theorem char?_cons_self (c : Char) (rest : List Char) :
    char? c (c :: rest) = some rest := by
  simp [char?]

theorem char?_eq_some_iff {c : Char} : char? c text = some rest ↔ text = c :: rest := by
  cases text with
  | nil => simp [char?]
  | cons d more => by_cases h : d = c <;> simp [char?, h]

theorem char?_getD (c : Char) (text : List Char) :
    ∃ present : Bool, text = (if present then [c] else []) ++ (char? c text).getD text := by
  cases h : char? c text with
  | none => exact ⟨false, rfl⟩
  | some rest => exact ⟨true, char?_eq_some_iff.1 h⟩

theorem char?_eq_none {c : Char} (h : ∀ more, text ≠ c :: more) : char? c text = none :=
  Option.eq_none_iff_forall_ne_some.2 fun more hmore => h more (char?_eq_some_iff.1 hmore)

/-- What begins a run of digits is no character that is not a digit. -/
theorem IsRun.head_ne {n : Nat} {c : Char} (h : IsRun (n + 1) run) (hc : Text.isDigit c = false)
    (rest : List Char) : run ++ rest ≠ c :: text := by
  cases run with
  | nil => cases h.1
  | cons d front =>
    rintro heq
    cases heq
    have := h.2 c List.mem_cons_self
    rw [hc] at this
    cases this

/-! ## Dates -/

/-- A date in writing. -/
def dateChars (year month day : List Char) : List Char := year ++ '-' :: (month ++ '-' :: day)

theorem datePart?_eq_some_iff {year month day : List Char} :
    datePart? text = some ((year, month, day), rest) ↔
      (IsRun 4 year ∧ IsRun 2 month ∧ IsRun 2 day) ∧ text = dateChars year month day ++ rest := by
  simp only [datePart?, dateChars, Option.bind_eq_bind, Option.pure_def, Option.bind_eq_some_iff,
    Prod.exists, digits?_eq_some_iff, char?_eq_some_iff]
  constructor
  · rintro ⟨_, _, ⟨hyear, rfl⟩, _, rfl, _, _, ⟨hmonth, rfl⟩, _, rfl, _, _, ⟨hday, rfl⟩, heq⟩
    cases heq
    exact ⟨⟨hyear, hmonth, hday⟩, by simp⟩
  · rintro ⟨⟨hyear, hmonth, hday⟩, rfl⟩
    exact ⟨year, '-' :: (month ++ '-' :: (day ++ rest)), ⟨hyear, by simp⟩, _, rfl, month,
      '-' :: (day ++ rest), ⟨hmonth, rfl⟩, _, rfl, day, rest, ⟨hday, rfl⟩, rfl⟩

/-! ## Times of day -/

/-- A part of a text that may be left out, with the character that announces it. -/
def announced (c : Char) (run : List Char) : List Char := if run.isEmpty then [] else c :: run

theorem announced_of_isRun {n : Nat} (c : Char) (h : IsRun (n + 1) run) :
    announced c run = c :: run := by
  cases run with
  | nil => cases h.1
  | cons d rest => rfl

/-- Hours, minutes and seconds in writing; seconds that are not given are left out. -/
def clockChars (hour minute second : List Char) : List Char :=
  hour ++ ':' :: (minute ++ announced ':' second)

/-- The seconds that follow the minutes, and the rest of the text. -/
def secondPart (text : List Char) : List Char × List Char :=
  ((char? ':' text).bind (digits? 2)).getD ([], text)

/-- The digits of a fraction, and the rest of the text. -/
def fractionPart (text : List Char) : List Char × List Char :=
  match text with
  | '.' :: more =>
    let run := more.takeWhile Text.isDigit
    if run.isEmpty then ([], '.' :: more) else (run, more.dropWhile Text.isDigit)
  | rest => ([], rest)

/-- What is read as seconds is two digits or nothing, and the text begins with it. -/
theorem secondPart_sound (text : List Char) :
    ((secondPart text).1 = [] ∨ IsRun 2 (secondPart text).1) ∧
      text = announced ':' (secondPart text).1 ++ (secondPart text).2 := by
  unfold secondPart
  cases h : (char? ':' text).bind (digits? 2) with
  | none => exact ⟨Or.inl rfl, rfl⟩
  | some found =>
    obtain ⟨run, rest⟩ := found
    obtain ⟨more, hmore, hdigits⟩ := Option.bind_eq_some_iff.1 h
    rw [char?_eq_some_iff] at hmore
    obtain ⟨hrun, rfl⟩ := digits?_eq_some_iff.1 hdigits
    exact ⟨Or.inr hrun, by simp [hmore, announced_of_isRun ':' hrun]⟩

theorem secondPart_append {second : List Char} (hsecond : second = [] ∨ IsRun 2 second)
    (hrest : ∀ more, rest ≠ ':' :: more) :
    secondPart (announced ':' second ++ rest) = (second, rest) := by
  rcases hsecond with rfl | hrun
  · simp [announced, secondPart, char?_eq_none hrest]
  · simp [announced_of_isRun ':' hrun, secondPart, digits?_append hrun]

theorem fractionPart_sound (text : List Char) :
    (∀ c ∈ (fractionPart text).1, Text.isDigit c = true) ∧
      text = announced '.' (fractionPart text).1 ++ (fractionPart text).2 := by
  unfold fractionPart
  split
  · next more =>
    dsimp only
    split
    · exact ⟨nofun, rfl⟩
    · next hne =>
      refine ⟨fun c hc => ?_, ?_⟩
      · exact List.mem_takeWhile_imp hc
      · simp only [announced, if_neg hne, List.cons_append, List.takeWhile_append_dropWhile]
  · exact ⟨nofun, rfl⟩

/-- The rest of a text does not go on with a fraction. -/
def EndsFraction (rest : List Char) : Prop :=
  (∀ c more, rest = c :: more → Text.isDigit c = false) ∧ ∀ more, rest ≠ '.' :: more

theorem fractionPart_append {fraction : List Char}
    (hfraction : ∀ c ∈ fraction, Text.isDigit c = true) (hrest : EndsFraction rest) :
    fractionPart (announced '.' fraction ++ rest) = (fraction, rest) := by
  obtain ⟨hdigit, hpoint⟩ := hrest
  by_cases hne : fraction = []
  · subst hne
    unfold announced fractionPart
    split
    · next more heq => exact absurd heq (hpoint more)
    · rfl
  · have hhead : rest.takeWhile Text.isDigit = [] ∧ rest.dropWhile Text.isDigit = rest := by
      cases rest with
      | nil => exact ⟨rfl, rfl⟩
      | cons c more => simp [hdigit c more rfl]
    simp [announced, hne, fractionPart, List.takeWhile_append_of_pos hfraction,
      List.dropWhile_append_of_pos hfraction, hhead]

/-! ## Offsets -/

/-- A signed offset in writing, with a colon or without. -/
def offsetChars (west : Bool) (hours minutes : List Char) (colon : Bool) : List Char :=
  (if west then '-' else '+') :: (hours ++ ((if colon then [':'] else []) ++ minutes))

/-- The offset that ends a text: nothing or `Z`, or signed hours and minutes. -/
inductive Zone : Option (Bool × List Char × List Char) → List Char → Prop
  | none : Zone none []
  | utc : Zone none ['Z']
  | offset {hours minutes : List Char} (west colon : Bool) (hours_run : IsRun 2 hours)
      (minutes_run : IsRun 2 minutes) :
      Zone (some (west, hours, minutes)) (offsetChars west hours minutes colon)

theorem offset?_offsetChars {hours minutes : List Char} (west colon : Bool) (hhours : IsRun 2 hours)
    (hminutes : IsRun 2 minutes) :
    offset? (offsetChars west hours minutes colon) = some (some (west, hours, minutes)) := by
  have hcolon : (char? ':' ((if colon then [':'] else []) ++ minutes)).getD
      ((if colon then [':'] else []) ++ minutes) = minutes := by
    cases colon with
    | true => simp
    | false =>
      have hnone : char? ':' minutes = none := char?_eq_none fun more => by
        simpa using (hminutes.head_ne (by decide) [] : minutes ++ [] ≠ ':' :: more)
      simp [hnone]
  have hend : digits? 2 minutes = some (minutes, []) := by
    simpa using digits?_append hminutes []
  cases west <;>
    simp [offsetChars, offset?, digits?_append hhours, hcolon, hend]

theorem offset?_eq_some_iff {offset : Option (Bool × List Char × List Char)} :
    offset? text = some offset ↔ Zone offset text := by
  constructor
  · intro h
    unfold offset? at h
    split at h
    · cases h
      exact .none
    · cases h
      exact .utc
    · next c rest _ =>
      split at h
      · next hsign =>
        simp only [Option.bind_eq_bind, Option.bind_eq_some_iff, Prod.exists, digits?_eq_some_iff]
          at h
        obtain ⟨hours, after, ⟨hhours, rfl⟩, minutes, last, ⟨hminutes, hafter⟩, h⟩ := h
        obtain ⟨colon, hcolon⟩ := char?_getD ':' after
        split at h
        · next hlast =>
          rw [hafter, List.isEmpty_iff.1 hlast, List.append_nil] at hcolon
          cases h
          have hc : c = if c == '-' then '-' else '+' := by
            rcases (by simpa using hsign : c = '+' ∨ c = '-') with rfl | rfl <;> rfl
          have hzone := Zone.offset (c == '-') colon hhours hminutes
          rwa [offsetChars, ← hc, ← hcolon] at hzone
        · cases h
      · cases h
  · rintro (_ | _ | ⟨west, colon, hhours, hminutes⟩)
    · rfl
    · rfl
    · exact offset?_offsetChars west colon hhours hminutes

/-- An offset begins with no digit, no point and no colon. -/
theorem Zone.head {offset : Option (Bool × List Char × List Char)} (h : Zone offset (c :: rest)) :
    c = 'Z' ∨ c = '-' ∨ c = '+' := by
  cases h with
  | utc => exact Or.inl rfl
  | offset west => cases west <;> simp

theorem Zone.endsFraction {offset : Option (Bool × List Char × List Char)}
    (h : Zone offset tail) : EndsFraction tail := by
  constructor
  · rintro c more rfl
    rcases h.head with rfl | rfl | rfl <;> decide
  · rintro more rfl
    have := h.head
    simp at this

/-! ## The whole form -/

/-- A date and time of day in writing, without an offset: the date, a `T` or a space, hours and
minutes, the seconds and their fraction if they are given. -/
inductive WrittenLocal : Parts → List Char → Prop
  | intro {year month day hour minute second fraction : List Char} (separator : Char)
      (separates : separator = 'T' ∨ separator = ' ')
      (date_runs : IsRun 4 year ∧ IsRun 2 month ∧ IsRun 2 day)
      (clock_runs : IsRun 2 hour ∧ IsRun 2 minute) (second_run : second = [] ∨ IsRun 2 second)
      (fraction_run : ∀ c ∈ fraction, Text.isDigit c = true) :
      WrittenLocal { year, month, day, clock := some (hour, minute, second), fraction }
        (dateChars year month day
          ++ separator :: (clockChars hour minute second ++ announced '.' fraction))

/-- The general form in writing: a date alone, or a date and time of day with an offset. -/
inductive Written : Parts → List Char → Prop
  | date {year month day : List Char} (runs : IsRun 4 year ∧ IsRun 2 month ∧ IsRun 2 day) :
      Written { year, month, day } (dateChars year month day)
  | time {parts : Parts} {front tail : List Char} {offset : Option (Bool × List Char × List Char)}
      (written : WrittenLocal parts front) (zone : Zone offset tail) :
      Written { parts with offset } (front ++ tail)

/-- The parts of a time of day and an offset, after the date and its separator. -/
def timeParts? (year month day text : List Char) : Option Parts := do
  let (hour, rest) ← digits? 2 text
  let rest ← char? ':' rest
  let (minute, rest) ← digits? 2 rest
  let seconds := secondPart rest
  let fraction := fractionPart seconds.2
  let offset ← offset? fraction.2
  return {
    year, month, day, clock := some (hour, minute, seconds.1), fraction := fraction.1, offset }

/-- The parts of a text whose date is already read. -/
def afterDate? (year month day : List Char) : List Char → Option Parts
  | [] => some { year, month, day }
  | c :: rest => if c = 'T' || c = ' ' then timeParts? year month day rest else none

theorem splitChars?_eq (text : List Char) :
    splitChars? text = (datePart? text).bind fun ((year, month, day), rest) =>
      afterDate? year month day rest := by
  unfold splitChars? afterDate?
  rfl

theorem timeParts?_sound {year month day : List Char} {parts : Parts} {separator : Char}
    (hseparator : separator = 'T' ∨ separator = ' ')
    (hdate : IsRun 4 year ∧ IsRun 2 month ∧ IsRun 2 day)
    (h : timeParts? year month day text = some parts) :
    Written parts (dateChars year month day ++ separator :: text) := by
  simp only [timeParts?, Option.bind_eq_bind, Option.bind_eq_some_iff, Prod.exists,
    digits?_eq_some_iff, char?_eq_some_iff, offset?_eq_some_iff, Option.pure_def,
    Option.some.injEq] at h
  obtain ⟨hour, _, ⟨hhour, rfl⟩, _, rfl, minute, rest, ⟨hminute, rfl⟩, offset, hzone, rfl⟩ := h
  obtain ⟨hsecond, htext⟩ := secondPart_sound rest
  obtain ⟨hfraction, hrest⟩ := fractionPart_sound (secondPart rest).2
  have hwritten := Written.time (.intro separator hseparator hdate ⟨hhour, hminute⟩ hsecond
    hfraction) hzone
  simp only [clockChars, List.append_assoc, List.cons_append, ← hrest, ← htext] at hwritten
  exact hwritten

theorem timeParts?_append {year month day hour minute second fraction : List Char}
    {offset : Option (Bool × List Char × List Char)} (hclock : IsRun 2 hour ∧ IsRun 2 minute)
    (hsecond : second = [] ∨ IsRun 2 second) (hfraction : ∀ c ∈ fraction, Text.isDigit c = true)
    (hzone : Zone offset tail) :
    timeParts? year month day (clockChars hour minute second ++ announced '.' fraction ++ tail) =
      some { year, month, day, clock := some (hour, minute, second), fraction, offset } := by
  have hhead : ∀ more, announced '.' fraction ++ tail ≠ ':' :: more := by
    intro more
    unfold announced
    split
    · rintro rfl
      simpa using hzone.head
    · simp
  simp only [timeParts?, clockChars, List.append_assoc, List.cons_append, digits?_append hclock.1,
    digits?_append hclock.2, char?_cons_self, secondPart_append hsecond hhead,
    fractionPart_append hfraction hzone.endsFraction, offset?_eq_some_iff.2 hzone,
    Option.bind_eq_bind, Option.bind_some, Option.pure_def]

/-- **The reader takes apart exactly the general form**, into the parts that it is written from. -/
theorem splitChars?_eq_some_iff {parts : Parts} :
    splitChars? text = some parts ↔ Written parts text := by
  rw [splitChars?_eq]
  constructor
  · intro h
    obtain ⟨⟨⟨year, month, day⟩, rest⟩, hpart, hafter⟩ := Option.bind_eq_some_iff.1 h
    obtain ⟨hdate, rfl⟩ := datePart?_eq_some_iff.1 hpart
    cases rest with
    | nil =>
      cases hafter
      rw [List.append_nil]
      exact .date hdate
    | cons c rest =>
      simp only [afterDate?, Bool.or_eq_true, decide_eq_true_eq] at hafter
      split at hafter
      · next hc => exact timeParts?_sound hc hdate hafter
      · cases hafter
  · rintro (@⟨year, month, day, hdate⟩ |
      ⟨@⟨year, month, day, _, _, _, _, separator, hseparator, hdate, hclock, hsecond, hfraction⟩,
        hzone⟩)
    · rw [datePart?_eq_some_iff.2 ⟨hdate, (List.append_nil _).symm⟩]
      rfl
    · rw [List.append_assoc, List.cons_append, datePart?_eq_some_iff.2 ⟨hdate, rfl⟩]
      simp only [Option.bind_some, afterDate?, hseparator, timeParts?_append hclock hsecond
        hfraction hzone, Bool.or_eq_true, decide_eq_true_eq, if_true]

/-! ## Blanks around -/

theorem trimEnd_eq_self {p : Char → Bool} {last : Char} (h : text.getLast? = some last)
    (hlast : p last = false) : Text.trimEnd p text = text := by
  induction text with
  | nil => cases h
  | cons c rest ih =>
    cases rest with
    | nil =>
      obtain rfl : c = last := Option.some.inj h
      simp [Text.trimEnd, hlast]
    | cons d more =>
      rw [List.getLast?_cons_cons] at h
      rw [Text.trimEnd, ih h]

/-- A text ends with a character that is no blank. -/
def EndsVisibly (text : List Char) : Prop := ∃ c, text.getLast? = some c ∧ Text.isBlank c = false

theorem EndsVisibly.after (h : EndsVisibly tail) (front : List Char) :
    EndsVisibly (front ++ tail) := by
  obtain ⟨c, hlast, hc⟩ := h
  exact ⟨c, by rw [List.getLast?_append, hlast, Option.some_or], hc⟩

theorem endsVisibly_of_digits (hne : run ≠ []) (h : ∀ c ∈ run, Text.isDigit c = true) :
    EndsVisibly run :=
  ⟨run.getLast hne, List.getLast?_eq_some_getLast hne,
    Text.isBlank_of_isDigit (h _ (List.getLast_mem hne))⟩

theorem IsRun.endsVisibly {n : Nat} (h : IsRun (n + 1) run) : EndsVisibly run :=
  endsVisibly_of_digits (by rintro rfl; cases h.1) h.2

theorem EndsVisibly.announced (h : EndsVisibly text) (c : Char)
    (hrun : ∀ c ∈ run, Text.isDigit c = true) : EndsVisibly (text ++ announced c run) := by
  unfold Iso.announced
  split
  · rwa [List.append_nil]
  · next hne =>
    have hdigits := endsVisibly_of_digits (by simpa using hne) hrun
    simpa using hdigits.after (text ++ [c])

theorem WrittenLocal.endsVisibly {parts : Parts} (h : WrittenLocal parts text) :
    EndsVisibly text := by
  obtain ⟨separator, -, -, hclock, hsecond, hfraction⟩ := h
  rename_i year month day hour minute second fraction
  have hrun : ∀ c ∈ second, Text.isDigit c = true := by
    rcases hsecond with rfl | hsecond
    · nofun
    · exact hsecond.2
  have hminute := hclock.2.endsVisibly.after
    (dateChars year month day ++ separator :: (hour ++ [':']))
  simpa [clockChars] using (hminute.announced ':' hrun).announced '.' hfraction

theorem Zone.endsVisibly {offset : Option (Bool × List Char × List Char)} (h : Zone offset tail) :
    tail = [] ∨ EndsVisibly tail := by
  cases h with
  | none => exact Or.inl rfl
  | utc => exact Or.inr ⟨'Z', rfl, by decide⟩
  | @offset hours minutes west colon hhours hminutes =>
    have hend := hminutes.endsVisibly.after
      ((if west then '-' else '+') :: (hours ++ if colon then [':'] else []))
    exact Or.inr (by simpa [offsetChars] using hend)

/-- A written form has no blanks around it. -/
theorem Written.trimChars {parts : Parts} (h : Written parts text) :
    Text.trimChars Text.isBlank text = text := by
  have hhead : ∃ n year rest, IsRun (n + 1) year ∧ text = year ++ rest := by
    rcases h with ⟨hyear, -⟩ | ⟨⟨_, _, ⟨hyear, -⟩, _⟩, _⟩ <;>
      exact ⟨3, _, _, hyear, by simp only [dateChars, List.append_assoc]; rfl⟩
  have hend : EndsVisibly text := by
    rcases h with @⟨year, month, day, -, -, hday⟩ | ⟨hlocal, hzone⟩
    · simpa [dateChars] using hday.endsVisibly.after (year ++ '-' :: (month ++ ['-']))
    · rcases hzone.endsVisibly with rfl | hzone
      · simpa using hlocal.endsVisibly
      · exact hzone.after _
  obtain ⟨n, year, rest, hyear, rfl⟩ := hhead
  obtain ⟨last, hlast, hvisible⟩ := hend
  cases year with
  | nil => cases hyear.1
  | cons c more =>
    have hc := Text.isBlank_of_isDigit (hyear.2 c List.mem_cons_self)
    rw [Text.trimChars, List.cons_append, List.dropWhile_cons_of_neg (by simp [hc]),
      ← List.cons_append, trimEnd_eq_self hlast hvisible]

theorem split?_eq_some_iff {text : String} {parts : Parts} :
    split? text = some parts ↔ Written parts (Text.trimChars Text.isBlank text.toList) :=
  splitChars?_eq_some_iff

theorem split?_of_written {text : String} {parts : Parts} (h : Written parts text.toList) :
    split? text = some parts :=
  split?_eq_some_iff.2 (by rwa [h.trimChars])

end ContentModel.Iso
