import ContentModel.Numeric.Numeral

/-!
# Integers given as text

The integer that a text stands for where a number is asked for.

A text in plain form is a minus, if any, and digits without leading zeros. A text in another form
is tidied first: white space around it, a plus, leading zeros, single underscores between digits
and a fraction of zeros go.

* `IntegerText.plain` reads the plain form, `IntegerText.tidied?` brings a text into it;
* `IntegerText.read` does what is needed of the two, and agrees with `IntegerText.plain` on all
  texts in plain form (`read_of_plain`).
-/

namespace ContentModel

/-- What a text says when an integer is asked for. -/
inductive IntegerText
  | number (n : Int)
  /-- It begins as an integer with too many digits. -/
  | tooLong
  | unreadable
  deriving DecidableEq

namespace IntegerText

/-- The greatest number of characters of an integer in plain form. -/
def maxLength : Nat := 4300

/-- Whether a character is an ASCII digit other than zero. -/
def isLeadingDigit (c : Char) : Bool := '1' ≤ c && c ≤ '9'

/-- An unsigned integer in plain form that follows a minus, or none. Its digits are counted before
anything else is looked at. -/
def unsigned (negative : Bool) (text : List Char) : IntegerText :=
  if text = ['0'] then .number 0
  else if (text.head?.map isLeadingDigit).getD false then
    let digits := text.takeWhile Text.isAsciiDigit
    if maxLength < digits.length + (if negative then 1 else 0) then .tooLong
    else if digits.length < text.length then .unreadable
    else
      let n : Int := Numeral.asciiValue digits
      .number (if negative then -n else n)
  else .unreadable

/-- An integer in plain form. -/
def plain : List Char → IntegerText
  | '-' :: text => unsigned true text
  | text => unsigned false text

/-- A text without a plus at its front, after which no other sign may stand. -/
def dropPlus? : List Char → Option (List Char)
  | '+' :: '-' :: _ => none
  | '+' :: text => some text
  | text => some text

/-- A text without the zeros and underscores at its front, one more of which has been taken off
already. It is given back where a point follows it, or nothing. -/
def afterZeros? (last : Char) : List Char → Option (List Char)
  | [] => some [last]
  | c :: rest =>
    if c = '0' || c = '_' then afterZeros? c rest
    else if isLeadingDigit c || c = '-' then some (c :: rest)
    else if c = '.' then some (last :: c :: rest)
    else none

/-- A text without leading zeros, if it begins as a number. -/
def dropZeros? : List Char → Option (List Char)
  | [] => none
  | c :: rest =>
    if c = '0' then afterZeros? c rest
    else if isLeadingDigit c || c = '-' then some (c :: rest)
    else none

/-- A text without a point and one or more zeros that end it. -/
def dropZeroFraction (text : List Char) : List Char :=
  match text.dropWhile (· != '.') with
  | _ :: '0' :: more => if more.all (· == '0') then text.takeWhile (· != '.') else text
  | _ => text

/-- Whether two underscores stand side by side in a text. -/
def hasDoubleUnderscore : List Char → Bool
  | '_' :: '_' :: _ => true
  | _ :: rest => hasDoubleUnderscore rest
  | [] => false

/-- A text without its underscores, if each of them stands alone and within. -/
def dropUnderscores (text : List Char) : List Char :=
  if text.head? = some '_' || text.getLast? = some '_' || hasDoubleUnderscore text then text
  else text.filter (· != '_')

/-- A text brought into plain form, as far as that goes. -/
def tidied? (text : List Char) : Option (List Char) := do
  let text ← dropPlus? (Text.trimChars Text.isWhiteSpace text)
  let text ← dropZeros? text
  return dropUnderscores (dropZeroFraction text)

/-- The integer that a tidied text stands for. That it is too long is not told apart. -/
def readTidied (text : List Char) : IntegerText :=
  match tidied? text with
  | none => .unreadable
  | some text =>
    match plain text with
    | .number n => .number n
    | _ => .unreadable

/-- The integer that a text stands for. -/
def read (text : String) : IntegerText :=
  match plain text.toList with
  | .unreadable => readTidied text.toList
  | reading => reading

theorem read_of_plain {text : String} (h : plain text.toList ≠ .unreadable) :
    read text = plain text.toList := by
  cases hp : plain text.toList <;> simp_all [read]

end IntegerText

end ContentModel
