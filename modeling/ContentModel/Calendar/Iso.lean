import ContentModel.Calendar.Instant
import ContentModel.Text.Blank
import ContentModel.Text.DecimalDigit

/-!
# ISO dates and times

The written forms of dates that entries and content types use.

* `Iso.isIsoDate` accepts the plain forms: a date, or a date and a time of day with an
  optional fraction of three digits and an optional `Z`;
* `Iso.isTimestamp` accepts a date and a time of day with any fraction and a `Z`;
* `Iso.split?` takes a general form apart, `Iso.calendarDate?` reads its date and
  `Iso.readInstant` the point in time that it names.

In all forms a digit is a decimal digit of any script, and the first two allow a line feed at
the end.
-/

namespace ContentModel.Iso

/-- A run of exactly `n` digits and the rest of the text. -/
def digits? : (n : Nat) → List Char → Option (List Char × List Char)
  | 0, text => some ([], text)
  | _ + 1, [] => none
  | n + 1, c :: rest =>
    if Text.isDigit c then (digits? n rest).map fun (run, after) => (c :: run, after)
    else none

/-- A text without the given character at its front. -/
def char? (c : Char) : List Char → Option (List Char)
  | [] => none
  | d :: rest => if d = c then some rest else none

/-- The end of a text: nothing, or a single line feed. -/
def atEnd (text : List Char) : Bool := text.isEmpty || text == ['\n']

/-- The digits of a date and the rest of the text. -/
def datePart? (text : List Char) : Option ((List Char × List Char × List Char) × List Char) := do
  let (year, rest) ← digits? 4 text
  let rest ← char? '-' rest
  let (month, rest) ← digits? 2 rest
  let rest ← char? '-' rest
  let (day, rest) ← digits? 2 rest
  return ((year, month, day), rest)

/-- The digits of hours, minutes and seconds and the rest of the text. -/
def clockPart? (text : List Char) : Option ((List Char × List Char × List Char) × List Char) := do
  let (hour, rest) ← digits? 2 text
  let rest ← char? ':' rest
  let (minute, rest) ← digits? 2 rest
  let rest ← char? ':' rest
  let (second, rest) ← digits? 2 rest
  return ((hour, minute, second), rest)

/-- Whether a text is what may follow the seconds of a plain date and time. -/
def plainTail (text : List Char) : Bool :=
  let zone (text : List Char) : Bool := atEnd text || ((char? 'Z' text).map atEnd).getD false
  zone text
    || match char? '.' text with
      | none => false
      | some rest =>
        match digits? 3 rest with
        | none => false
        | some (_, rest) => zone rest

/-- Whether a text is a date, or a plain date and time. -/
def isIsoDate (text : String) : Bool :=
  match datePart? text.toList with
  | none => false
  | some (_, rest) =>
    atEnd rest
      || match (char? 'T' rest).bind clockPart? with
        | none => false
        | some (_, rest) => plainTail rest

/-- Whether a text is a date and time in UTC, marked by `Z`. -/
def isTimestamp (text : String) : Bool :=
  match datePart? text.toList with
  | none => false
  | some (_, rest) =>
    match (char? 'T' rest).bind clockPart? with
    | none => false
    | some (_, rest) =>
      let zone (text : List Char) : Bool := ((char? 'Z' text).map atEnd).getD false
      match char? '.' rest with
      | none => zone rest
      | some more =>
        !(more.takeWhile Text.isDigit).isEmpty && zone (more.dropWhile Text.isDigit)

/-- The parts of a general date and time, as they are written. -/
structure Parts where
  year : List Char
  month : List Char
  day : List Char
  /-- Hours, minutes and seconds; the seconds may be left out. -/
  clock : Option (List Char × List Char × List Char) := none
  /-- The digits of the fraction of a second. -/
  fraction : List Char := []
  /-- The offset from UTC: whether it is to the west, the hours and the minutes. -/
  offset : Option (Bool × List Char × List Char) := none

/-- An offset from UTC that ends the text: nothing, `Z`, or signed hours and minutes. -/
def offset? (text : List Char) : Option (Option (Bool × List Char × List Char)) :=
  match text with
  | [] => some none
  | ['Z'] => some none
  | c :: rest =>
    if c = '+' || c = '-' then do
      let (hours, rest) ← digits? 2 rest
      let (minutes, rest) ← digits? 2 ((char? ':' rest).getD rest)
      if rest.isEmpty then return some (c == '-', hours, minutes) else none
    else none

/-- The parts of a general form: a date, then optionally a `T` or a space, hours and minutes,
optional seconds, an optional fraction and an optional offset. -/
def splitChars? (text : List Char) : Option Parts := do
  let ((year, month, day), rest) ← datePart? text
  match rest with
  | [] => return { year, month, day }
  | c :: rest =>
    if c = 'T' || c = ' ' then do
      let (hour, rest) ← digits? 2 rest
      let rest ← char? ':' rest
      let (minute, rest) ← digits? 2 rest
      let (second, rest) := (((char? ':' rest).bind (digits? 2)).getD ([], rest))
      let (fraction, rest) :=
        match rest with
        | '.' :: more =>
          let run := more.takeWhile Text.isDigit
          if run.isEmpty then ([], '.' :: more) else (run, more.dropWhile Text.isDigit)
        | rest => ([], rest)
      let offset ← offset? rest
      return { year, month, day, clock := some (hour, minute, second), fraction, offset }
    else none

/-- The parts of a general form with blanks around it. -/
def split? (text : String) : Option Parts :=
  splitChars? (Text.trimChars Text.isBlank text.toList)

/-- The date of a general form. It must be written in ASCII digits and exist. -/
def Parts.date? (parts : Parts) : Option Date :=
  if (parts.year ++ parts.month ++ parts.day).all Text.isAsciiDigit then
    Date.of? (Text.digitsValue parts.year) (Text.digitsValue parts.month)
      (Text.digitsValue parts.day)
  else none

/-- The date that a text names, as it is written there. -/
def calendarDate? (text : String) : Option Date := (split? text).bind Parts.date?

/-- The microseconds of a fraction of a second; digits after the sixth are dropped. -/
def microseconds (fraction : List Char) : Nat :=
  let run := fraction.take 6
  Text.digitsValue run * Nat.pow 10 (6 - run.length)

/-- The instant of a general form before its offset is taken into account. -/
def Parts.local? (parts : Parts) : Option Instant := do
  let date ← parts.date?
  let (hour, minute, second) :=
    match parts.clock with
    | none => (0, 0, 0)
    | some (h, m, s) => (Text.digitsValue h, Text.digitsValue m, Text.digitsValue s)
  if hour < 24 ∧ minute < 60 ∧ second < 60 then
    return .ofDateTime date hour minute second (microseconds parts.fraction)
  else none

/-- The microseconds by which an offset is ahead of UTC. -/
def Parts.ahead (parts : Parts) : Int :=
  match parts.offset with
  | none => 0
  | some (west, hours, minutes) =>
    let n : Int := ((Text.digitsValue hours * 60 + Text.digitsValue minutes) * 60) * Instant.second
    if west then -n else n

/-- What a text says about a point in time. -/
inductive Reading
  /-- It names none. -/
  | nothing
  /-- It names this one. -/
  | instant (t : Instant)
  /-- Its offset leads out of the years 1 to 9999. -/
  | outOfRange
  deriving DecidableEq

/-- The point in time that a text names. Without an offset it is read as UTC. -/
def readInstant (text : String) : Reading :=
  match split? text with
  | none => .nothing
  | some parts =>
    match parts.local? with
    | none => .nothing
    | some t =>
      match t.shift (-parts.ahead) with
      | none => .outOfRange
      | some t => .instant t

end ContentModel.Iso
