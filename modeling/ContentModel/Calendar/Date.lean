import ContentModel.Numeric.Digits

/-!
# Calendar dates

Dates of the years 1 to 9999 in the Gregorian calendar, extended backwards.

* `Date` is a date that exists, `Date.of?` makes one from its numbers;
* `Date.dayNumber` counts the days since the first of January of year 1, `Date.civil` goes back;
* `Date.isoText` and `Date.longText` are the two written forms.
-/

namespace ContentModel

namespace Calendar

/-- Whether a year has a 29th of February. -/
def isLeap (year : Nat) : Bool := year % 4 == 0 && (year % 100 != 0 || year % 400 == 0)

/-- The number of days of a month. -/
def monthLength (year month : Nat) : Nat :=
  if month = 2 then (if isLeap year then 29 else 28)
  else if month = 4 ∨ month = 6 ∨ month = 9 ∨ month = 11 then 30
  else 31

/-- Whether year, month and day name a date. -/
def isDate (year month day : Nat) : Bool :=
  1 ≤ year && year ≤ 9999 && 1 ≤ month && month ≤ 12 && 1 ≤ day && day ≤ monthLength year month

/-- The days of the years before a year. -/
def daysBeforeYear (year : Nat) : Nat :=
  let past := year - 1
  365 * past + past / 4 - past / 100 + past / 400

/-- The days of a year before a month. -/
def daysBeforeMonth (year : Nat) : (month : Nat) → Nat
  | 0 => 0
  | 1 => 0
  | month + 2 => daysBeforeMonth year (month + 1) + monthLength year (month + 1)

/-- The name of a month. -/
def monthName : Nat → String
  | 1 => "January"
  | 2 => "February"
  | 3 => "March"
  | 4 => "April"
  | 5 => "May"
  | 6 => "June"
  | 7 => "July"
  | 8 => "August"
  | 9 => "September"
  | 10 => "October"
  | 11 => "November"
  | _ => "December"

/-- The number of days in 400 years, after which the calendar repeats. -/
def daysPer400Years : Nat := 146097

/-- The month and day of a day of a year, counted from zero, searching from a month on. -/
def monthAndDay (year : Nat) : (tries month dayOfYear : Nat) → Nat × Nat
  | 0, month, day => (month, day + 1)
  | tries + 1, month, day =>
    if day < monthLength year month then (month, day + 1)
    else monthAndDay year tries (month + 1) (day - monthLength year month)

end Calendar

/-- A date of the years 1 to 9999. -/
structure Date where
  year : Nat
  month : Nat
  day : Nat
  valid : Calendar.isDate year month day = true := by decide
  deriving DecidableEq

namespace Date

open Calendar

/-- The date with the given numbers, if there is one. -/
def of? (year month day : Nat) : Option Date :=
  if h : isDate year month day = true then some ⟨year, month, day, h⟩ else none

theorem of?_eq_some_iff {year month day : Nat} {date : Date} :
    of? year month day = some date
      ↔ date.year = year ∧ date.month = month ∧ date.day = day := by
  simp only [of?]
  constructor
  · intro h
    split at h
    · simp only [Option.some.injEq] at h; subst h; simp
    · simp at h
  · rintro ⟨rfl, rfl, rfl⟩
    simp [date.valid]

/-- The number of days from the first of January of year 1. -/
def dayNumber (date : Date) : Nat :=
  daysBeforeYear date.year + daysBeforeMonth date.year date.month + (date.day - 1)

/-- Year, month and day of a day number: the cycle of 400 years it falls in, then the century,
the cycle of four years and the year, the last ones of which may be a day longer. -/
def civil (number : Nat) : Nat × Nat × Nat :=
  let cycle := number / daysPer400Years
  let inCycle := number % daysPer400Years
  let century := min (inCycle / 36524) 3
  let inCentury := inCycle - century * 36524
  let four := inCentury / 1461
  let inFour := inCentury % 1461
  let one := min (inFour / 365) 3
  let year := 400 * cycle + 100 * century + 4 * four + one + 1
  let (month, day) := monthAndDay year 11 1 (inFour - one * 365)
  (year, month, day)

/-- Year, month and day in digits, joined by hyphens. -/
def isoChars (year month day : Nat) : List Char :=
  Digits.padded 4 year ++ '-' :: (Digits.padded 2 month ++ '-' :: Digits.padded 2 day)

/-- The date in digits. -/
def isoText (date : Date) : String := String.ofList (isoChars date.year date.month date.day)

/-- The date with its month's name, the day and the year. -/
def longText (date : Date) : String :=
  monthName date.month
    ++ (" " ++ (Digits.intText date.day ++ (", " ++ Digits.intText date.year)))

end Date

end ContentModel
