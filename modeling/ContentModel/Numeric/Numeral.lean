import ContentModel.Numeric.Binary64
import ContentModel.Numeric.Digits
import ContentModel.Text.Blank
import ContentModel.Text.DecimalDigit

/-!
# Reading numerals

The two notations in which a text may give a number.

* `Numeral.float?` reads a floating-point numeral: white space around it, digits of any script, an
  exponent, single underscores between digits, and the words for infinity and no number;
* `Numeral.integer?` reads an integer numeral of at most `Numeral.maxDigits` digits in the same
  spirit.
-/

namespace ContentModel.Numeral

/-- The value of a run of ASCII digits. -/
def asciiValue (digits : List Char) : Nat :=
  digits.foldl (fun n c => 10 * n + (c.toNat - 0x30)) 0

/-- A sign taken off the front: whether it is a minus, and the rest. -/
def sign : List Char → Bool × List Char
  | '-' :: rest => (true, rest)
  | '+' :: rest => (false, rest)
  | text => (false, text)

/-- Digits of all scripts as ASCII digits; other characters as they are. -/
def asciiDigits (text : List Char) : List Char :=
  text.map fun c =>
    match Text.digitValue? c with
    | some value => Char.ofNat (0x30 + value)
    | none => c

/-- A text without its underscores, each of which must stand between two ASCII digits. -/
def dropUnderscores (previous : Char) : List Char → Option (List Char)
  | [] => some []
  | '_' :: rest =>
    match rest with
    | [] => none
    | next :: _ =>
      if Text.isAsciiDigit previous && Text.isAsciiDigit next then dropUnderscores '_' rest
      else none
  | c :: rest => (dropUnderscores c rest).map (c :: ·)

/-- ASCII letters in lower case. -/
def lowerAscii (text : List Char) : List Char :=
  text.map fun c => if 'A' ≤ c && c ≤ 'Z' then Char.ofNat (c.toNat + 0x20) else c

/-- A signed run of one or more ASCII digits that ends the text. -/
def exponent? (text : List Char) : Option Int :=
  let (negative, digits) := sign text
  if digits.isEmpty || !digits.all Text.isAsciiDigit then none
  else
    let n : Int := asciiValue digits
    some (if negative then -n else n)

/-- An unsigned decimal numeral with an optional fraction and exponent. -/
def decimal? (negative : Bool) (text : List Char) : Option Binary64 :=
  let whole := text.takeWhile Text.isAsciiDigit
  let afterWhole := text.dropWhile Text.isAsciiDigit
  let (fraction, rest) :=
    match afterWhole with
    | '.' :: more => (more.takeWhile Text.isAsciiDigit, more.dropWhile Text.isAsciiDigit)
    | more => ([], more)
  if whole.isEmpty && fraction.isEmpty then none
  else
    let make (power : Int) : Binary64 :=
      .ofScientific negative (asciiValue (whole ++ fraction)) (power - fraction.length)
    match rest with
    | [] => some (make 0)
    | c :: more => if c = 'e' || c = 'E' then (exponent? more).map make else none

/-- The floating-point number that a text writes. -/
def float? (text : String) : Option Binary64 :=
  match dropUnderscores ' ' (asciiDigits (Text.trimChars Text.isWhiteSpace text.toList)) with
  | none => none
  | some body =>
    let (negative, unsigned) := sign body
    let word := lowerAscii unsigned
    if word = "inf".toList || word = "infinity".toList then some (.infinite negative)
    else if word = "nan".toList then some .nan
    else decimal? negative unsigned

/-- The greatest number of digits of an integer numeral, leading zeros included. -/
def maxDigits : Nat := Digits.maxDigits

/-- The integer that a text writes. -/
def integer? (text : String) : Option Int :=
  match dropUnderscores ' ' (asciiDigits (Text.trimChars Text.isWhiteSpace text.toList)) with
  | none => none
  | some body => if maxDigits < (sign body).2.length then none else exponent? body

end ContentModel.Numeral
