import ContentModel.Proofs.Calendar.Days
import ContentModel.Proofs.Calendar.Moment

/-!
# Dates and times in ASCII digits

* `Iso.Stamp` is a date and time of day in ASCII digits, in full, with any number of digits in the
  fraction of the second;
* `Iso.Stamp.names` says which moment it names in UTC, and `Iso.Stamp.readInstant_text` which
  instant is read;
* `Iso.Stamp.ofDateTime` writes one from numbers.
-/

namespace ContentModel.Iso

/-- A run of ASCII digits, of the given length. -/
def IsAsciiRun (n : Nat) (run : List Char) : Prop :=
  run.length = n ∧ ∀ c ∈ run, Text.isAsciiDigit c = true

theorem IsAsciiRun.isRun {n : Nat} {run : List Char} (h : IsAsciiRun n run) : IsRun n run :=
  ⟨h.1, fun c hc => Text.isDigit_of_isAsciiDigit (h.2 c hc)⟩

theorem isAsciiRun_padded {width n : Nat} (hwidth : 0 < width) (hn : n < 10 ^ width) :
    IsAsciiRun width (Digits.padded width n) :=
  ⟨Digits.length_padded hwidth hn, fun _ hc => Digits.isAsciiDigit_of_mem_padded hc⟩

/-- A date and time of day in ASCII digits, as they are written, with any number of digits in the
fraction of the second. -/
structure Stamp where
  year : List Char
  month : List Char
  day : List Char
  hour : List Char
  minute : List Char
  second : List Char
  fraction : List Char
  date_runs : IsAsciiRun 4 year ∧ IsAsciiRun 2 month ∧ IsAsciiRun 2 day
  clock_runs : IsAsciiRun 2 hour ∧ IsAsciiRun 2 minute ∧ IsAsciiRun 2 second
  fraction_run : ∀ c ∈ fraction, Text.isAsciiDigit c = true
  /-- The date that year, month and day name. -/
  date : Date
  date_eq : Date.of? (Text.digitsValue year) (Text.digitsValue month) (Text.digitsValue day) =
    some date
  clock_lt : Text.digitsValue hour < 24 ∧ Text.digitsValue minute < 60 ∧
    Text.digitsValue second < 60

namespace Stamp

/-! ## From numbers -/

/-- A date, a time of day and the digits of a fraction in writing. -/
def ofDateTime (date : Date) (hour minute second : Nat) (fraction : List Char)
    (clock_lt : hour < 24 ∧ minute < 60 ∧ second < 60)
    (fraction_run : ∀ c ∈ fraction, Text.isAsciiDigit c = true) : Stamp where
  year := Digits.padded 4 date.year
  month := Digits.padded 2 date.month
  day := Digits.padded 2 date.day
  hour := Digits.padded 2 hour
  minute := Digits.padded 2 minute
  second := Digits.padded 2 second
  fraction
  date_runs := by
    obtain ⟨hyear, hmonth, hday⟩ := date.bounds
    have hlength := Calendar.monthLength_le date.year date.month
    exact ⟨isAsciiRun_padded (by decide) (by omega), isAsciiRun_padded (by decide) (by omega),
      isAsciiRun_padded (by decide) (by omega)⟩
  clock_runs :=
    ⟨isAsciiRun_padded (by decide) (by omega), isAsciiRun_padded (by decide) (by omega),
      isAsciiRun_padded (by decide) (by omega)⟩
  fraction_run
  date
  date_eq := by
    rw [Date.of?_eq_some_iff]
    simp only [Digits.digitsValue_padded, and_self]
  clock_lt := by simpa only [Digits.digitsValue_padded] using clock_lt

variable (stamp : Stamp)

/-! ## In writing -/

/-- The written form, without an offset. -/
def localChars : List Char :=
  dateChars stamp.year stamp.month stamp.day ++
    'T' :: (stamp.hour ++ ':' :: (stamp.minute ++ ':' :: stamp.second)) ++
    announced '.' stamp.fraction

/-- The written form in UTC. -/
def text : String := .ofList (stamp.localChars ++ ['Z'])

def parts : Parts where
  year := stamp.year
  month := stamp.month
  day := stamp.day
  clock := some (stamp.hour, stamp.minute, stamp.second)
  fraction := stamp.fraction

theorem writtenLocal : WrittenLocal stamp.parts stamp.localChars := by
  have hdate := stamp.date_runs
  have hclock := stamp.clock_runs
  have hlocal : WrittenLocal stamp.parts _ :=
    .intro 'T' (Or.inl rfl) ⟨hdate.1.isRun, hdate.2.1.isRun, hdate.2.2.isRun⟩
      ⟨hclock.1.isRun, hclock.2.1.isRun⟩ (Or.inr hclock.2.2.isRun)
      fun c hc => Text.isDigit_of_isAsciiDigit (stamp.fraction_run c hc)
  rw [clockChars, announced_of_isRun ':' hclock.2.2.isRun] at hlocal
  simpa [localChars] using hlocal

/-! ## Instants and moments -/

/-- The instant of a date and time of day, in UTC. -/
def instant : Instant :=
  .ofDateTime stamp.date (Text.digitsValue stamp.hour) (Text.digitsValue stamp.minute)
    (Text.digitsValue stamp.second) (microseconds stamp.fraction)

/-- The moment of a date and time of day in UTC, exactly: seconds since the beginning of year 1. -/
def moment : ℚ :=
  stamp.date.dayNumber * 86400 + Text.digitsValue stamp.hour * 3600 +
    Text.digitsValue stamp.minute * 60 + Text.digitsValue stamp.second +
    fractionValue stamp.fraction

section FromNumbers

variable (date : Date) {hour minute second : Nat} {fraction : List Char}
  (clock_lt : hour < 24 ∧ minute < 60 ∧ second < 60)
  (fraction_run : ∀ c ∈ fraction, Text.isAsciiDigit c = true)

theorem instant_ofDateTime :
    (ofDateTime date hour minute second fraction clock_lt fraction_run).instant =
      .ofDateTime date hour minute second (microseconds fraction) := by
  simp only [instant, ofDateTime, Digits.digitsValue_padded]

theorem moment_ofDateTime :
    (ofDateTime date hour minute second fraction clock_lt fraction_run).moment =
      date.dayNumber * 86400 + hour * 3600 + minute * 60 + second + fractionValue fraction := by
  simp only [moment, ofDateTime, Digits.digitsValue_padded]

end FromNumbers

theorem namesLocal : stamp.parts.NamesLocal stamp.date (Text.digitsValue stamp.hour)
    (Text.digitsValue stamp.minute) (Text.digitsValue stamp.second) := by
  have hascii : ((stamp.year ++ stamp.month ++ stamp.day).all Text.isAsciiDigit) = true := by
    simp only [List.all_append, Bool.and_eq_true, List.all_eq_true]
    exact ⟨⟨stamp.date_runs.1.2, stamp.date_runs.2.1.2⟩, stamp.date_runs.2.2.2⟩
  exact ⟨(if_pos hascii).trans stamp.date_eq, rfl, stamp.clock_lt⟩

theorem local?_parts : stamp.parts.local? = some stamp.instant :=
  Parts.local?_eq_some_iff.2 ⟨_, _, _, _, stamp.namesLocal, rfl⟩

theorem instant_lt : stamp.instant.micros < Instant.limit := by
  obtain ⟨hhour, hminute, hsecond⟩ := stamp.clock_lt
  have hday := stamp.date.dayNumber_lt
  have hmicro := microseconds_lt stamp.fraction
  simp only [instant, Instant.ofDateTime, Instant.limit, Instant.day, Instant.second]
  omega

theorem namesMoment : stamp.parts.NamesMoment stamp.moment :=
  ⟨_, _, _, _, stamp.namesLocal, by simp [moment, parts, Parts.offsetSeconds]⟩

/-- A stamp in UTC names its moment. -/
theorem names : Names stamp.text stamp.moment := by
  have hwritten : Written stamp.parts stamp.text.toList := by
    rw [text, String.toList_ofList]
    exact .time stamp.writtenLocal .utc
  exact ⟨stamp.parts, by rwa [hwritten.trimChars], stamp.namesMoment⟩

/-- The instant is the moment, cut down to whole microseconds. -/
theorem wholeMicroseconds_moment : wholeMicroseconds stamp.moment = stamp.instant.micros := by
  have h := Parts.wholeMicroseconds_moment stamp.date (Text.digitsValue stamp.hour)
    (Text.digitsValue stamp.minute) (Text.digitsValue stamp.second) stamp.parts
  rw [show stamp.parts.ahead = 0 from rfl, sub_zero,
    show stamp.parts.offset = none from rfl, Parts.offsetSeconds, Int.cast_zero, sub_zero] at h
  exact h

theorem readInstant_text : readInstant stamp.text = .instant stamp.instant :=
  readInstant_eq_instant_iff.2
    ⟨stamp.moment, stamp.names, stamp.wholeMicroseconds_moment, stamp.instant_lt⟩

end Stamp

end ContentModel.Iso
