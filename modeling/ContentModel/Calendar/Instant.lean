import ContentModel.Calendar.Date

/-!
# Instants

Points in time of the years 1 to 9999, to the microsecond.

* `Instant` counts the microseconds since the beginning of year 1;
* `Instant.shift` moves a count of microseconds, which may leave the range;
* `Instant.text` is the written form, in UTC.
-/

namespace ContentModel

/-- A point in time, as microseconds since the beginning of year 1 in UTC. -/
structure Instant where
  micros : Nat
  deriving DecidableEq, Repr

namespace Instant

/-- The microseconds of a second. -/
def second : Nat := 1000000

/-- The microseconds of a day. -/
def day : Nat := 86400 * second

/-- The microseconds from the beginning of year 1 to the end of year 9999. -/
def limit : Nat := 3652059 * day

/-- The instant of a count of microseconds, if it lies in the years 1 to 9999. -/
def ofMicros? (micros : Int) : Option Instant :=
  if 0 ≤ micros ∧ micros < limit then some ⟨micros.toNat⟩ else none

/-- An instant moved by a count of microseconds. -/
def shift (instant : Instant) (micros : Int) : Option Instant :=
  ofMicros? (instant.micros + micros)

/-- The instant of a time of day on a date. -/
def ofDateTime (date : Date) (hour minute sec micro : Nat) : Instant :=
  ⟨date.dayNumber * day + (hour * 3600 + minute * 60 + sec) * second + micro⟩

/-- Whether one instant is earlier than another. -/
def before (a b : Instant) : Bool := a.micros < b.micros

/-- Date and time of day in UTC, with the fraction of the second if there is one. -/
def text (instant : Instant) : String :=
  let (year, month, dayOfMonth) := Date.civil (instant.micros / day)
  let inDay := instant.micros % day
  let micro := inDay % second
  let sec := inDay / second
  String.ofList
    (Date.isoChars year month dayOfMonth
      ++ 'T' :: (Digits.padded 2 (sec / 3600)
      ++ ':' :: (Digits.padded 2 (sec / 60 % 60)
      ++ ':' :: (Digits.padded 2 (sec % 60)
      ++ (if micro = 0 then [] else '.' :: Digits.padded 6 micro)
      ++ "+00:00".toList))))

end Instant

end ContentModel
