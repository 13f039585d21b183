import ContentModel.Calendar.Iso
import ContentModel.Json.Display
import ContentModel.Numeric.Abbreviated

/-!
# Formatters

The functions that dates and numbers are shown with.

* `Formatter.date` writes a date with the name of its month;
* `Formatter.number` writes a number for readers;
* `FormatError` lists why a formatter refuses a value.
-/

namespace ContentModel

/-- Why a formatter refuses a value. -/
inductive FormatError
  /-- It is not a number. -/
  | notANumber
  /-- The formatter takes no such value. -/
  | unsuitable
  /-- It is an integer beyond the floating-point range. -/
  | tooLarge
  /-- It is an integer of too many digits. -/
  | tooLong
  deriving DecidableEq, Repr

/-- A function that a value is shown with. -/
abbrev Formatter := Json → Except FormatError String

namespace Formatter

/-- The date that a text names, in words; other texts as they are. -/
def humanDate (text : String) : String :=
  match Iso.calendarDate? text with
  | some date => date.longText
  | none => text

/-- Shows the date that a text names in words, and other values as text. -/
def date : Formatter := fun value => .ok (humanDate value.display)

/-- Shows an integer for readers. A negative one is written out, if it is not too long for it. -/
def integer (n : Int) : Except FormatError String :=
  if n < 0 && Digits.isTooLong n then .error .tooLong
  else
    match Abbreviated.ofInt n with
    | some text => .ok text
    | none => .error .tooLarge

theorem integer_eq_tooLong {n : Int} (h : n < 0 ∧ Digits.isTooLong n = true) :
    integer n = .error .tooLong := by
  rw [integer, if_pos (by simpa using h)]

theorem integer_eq_abbreviated {n : Int} (h : ¬ (n < 0 ∧ Digits.isTooLong n = true)) :
    integer n = match Abbreviated.ofInt n with
      | some text => .ok text
      | none => .error .tooLarge := by
  rw [integer, if_neg (by simpa using h)]

/-- Shows a number for readers. -/
def number : Formatter
  | .int n => integer n
  | .bool b => integer (if b then 1 else 0)
  | .float x => .ok (Abbreviated.ofBinary64 x)
  | _ => .error .notANumber

end Formatter

end ContentModel
