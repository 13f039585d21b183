import ContentModel.Json.Basic
import ContentModel.Numeric.Numeral

/-!
# Reading JSON

A reader of JSON texts over lists of characters.

* `Json.parseWith` reads a whole text, blanks around the value allowed, `Json.parse` does so with
  the limit `Numeral.maxDigits` on the digits of an integer;
* `Reader.stringBody`, `Reader.number` and `Reader.value` read one string, number or value from
  the front of a text and give back the rest;
* `ReadError` tells a malformed text from one with an integer of too many digits.

The words `NaN`, `Infinity` and `-Infinity` are read as numbers. Of several members with one
key the last value counts, in the place of the first.
-/

namespace ContentModel.Json

/-- Why a text was not read. -/
inductive ReadError
  /-- The text is not JSON. -/
  | malformed
  /-- An integer has more digits than the limit. -/
  | integerTooLong
  deriving DecidableEq, Repr

namespace Reader

/-- Whether a character may stand between the parts of a text. -/
def isSpace (c : Char) : Bool := c = ' ' || c = '\n' || c = '\r' || c = '\t'

/-- A text without the blanks at its front. -/
def skipSpaces (text : List Char) : List Char := text.dropWhile isSpace

/-- The worth of a hexadecimal digit of either case. -/
def hexValue? (c : Char) : Option Nat :=
  if '0' ≤ c && c ≤ '9' then some (c.toNat - 0x30)
  else if 'a' ≤ c && c ≤ 'f' then some (c.toNat - 0x57)
  else if 'A' ≤ c && c ≤ 'F' then some (c.toNat - 0x37)
  else none

/-- The code unit written in four hexadecimal digits. -/
def unit? (a b c d : Char) : Option Nat := do
  let a ← hexValue? a
  let b ← hexValue? b
  let c ← hexValue? c
  let d ← hexValue? d
  return ((a * 16 + b) * 16 + c) * 16 + d

/-- The character that a letter after a backslash stands for. -/
def simpleEscape? : Char → Option Char
  | '"' => some '"'
  | '\\' => some '\\'
  | '/' => some '/'
  | 'b' => some '\x08'
  | 'f' => some '\x0c'
  | 'n' => some '\n'
  | 'r' => some '\r'
  | 't' => some '\t'
  | _ => none

/-- Whether a code unit is the first half of a surrogate pair. -/
def isHigh (n : Nat) : Bool := 0xD800 ≤ n && n < 0xDC00

/-- Whether a code unit is the second half of a surrogate pair. -/
def isLow (n : Nat) : Bool := 0xDC00 ≤ n && n < 0xE000

/-- The character of a code unit, a half pair replaced. -/
def unitChar (n : Nat) : Char := if isHigh n || isLow n then '\ufffd' else Char.ofNat n

/-- The characters of a string up to its closing quotation mark, and the rest. -/
def stringBody : List Char → Option (List Char × List Char)
  | [] => none
  | '"' :: rest => some ([], rest)
  | '\\' :: 'u' :: a :: b :: c :: d :: rest =>
    match unit? a b c d with
    | none => none
    | some high =>
      match rest with
      | '\\' :: 'u' :: e :: f :: g :: h :: rest' =>
        match unit? e f g h with
        | some low =>
          if isHigh high && isLow low then
            (stringBody rest').map fun (text, after) =>
              (Char.ofNat (0x10000 + (high - 0xD800) * 0x400 + (low - 0xDC00)) :: text, after)
          else
            (stringBody ('\\' :: 'u' :: e :: f :: g :: h :: rest')).map fun (text, after) =>
              (unitChar high :: text, after)
        | none => none
      | rest => (stringBody rest).map fun (text, after) => (unitChar high :: text, after)
  | '\\' :: c :: rest =>
    match simpleEscape? c with
    | some d => (stringBody rest).map fun (text, after) => (d :: text, after)
    | none => none
  | c :: rest =>
    if c.toNat < 0x20 || c = '\\' then none
    else (stringBody rest).map fun (text, after) => (c :: text, after)

/-- A run of digits at the front of a text, and the rest. -/
def digitRun (text : List Char) : List Char × List Char :=
  (text.takeWhile Text.isAsciiDigit, text.dropWhile Text.isAsciiDigit)

/-- The whole part of a number: a zero, or digits that begin with another. -/
def wholePart : List Char → Option (List Char × List Char)
  | '0' :: rest => some (['0'], rest)
  | text =>
    let (digits, rest) := digitRun text
    if digits.isEmpty then none else some (digits, rest)

/-- The digits after a point, if a point with digits stands at the front. -/
def fractionPart : List Char → Option (List Char) × List Char
  | '.' :: rest =>
    let (digits, after) := digitRun rest
    if digits.isEmpty then (none, '.' :: rest) else (some digits, after)
  | text => (none, text)

/-- The exponent, if a complete one stands at the front. -/
def exponentPart : List Char → Option Int × List Char
  | c :: rest =>
    if c = 'e' || c = 'E' then
      let (negative, unsigned) := Numeral.sign rest
      let (digits, after) := digitRun unsigned
      let n : Int := Numeral.asciiValue digits
      if digits.isEmpty then (none, c :: rest)
      else (some (if negative then -n else n), after)
    else (none, c :: rest)
  | [] => (none, [])

/-- A minus sign taken off the front: whether there is one, and the rest. -/
def minus : List Char → Bool × List Char
  | '-' :: rest => (true, rest)
  | text => (false, text)

/-- A number and the rest of the text. The digits of integers may be limited. -/
def number (limit : Option Nat) (text : List Char) : Except ReadError (Json × List Char) :=
  let (negative, unsigned) := minus text
  match wholePart unsigned with
  | none => .error .malformed
  | some (whole, afterWhole) =>
    let (fraction, afterFraction) := fractionPart afterWhole
    let (exponent, rest) := exponentPart afterFraction
    match fraction, exponent with
    | none, none =>
      let n : Int := Numeral.asciiValue whole
      if limit.any (· < whole.length) then .error .integerTooLong
      else .ok (.int (if negative then -n else n), rest)
    | fraction, exponent =>
      let fraction := fraction.getD []
      .ok (.float (.ofScientific negative (Numeral.asciiValue (whole ++ fraction))
        (exponent.getD 0 - fraction.length)), rest)

mutual

/-- A value and the rest of the text. -/
def value (limit : Option Nat) : (fuel : Nat) → List Char → Except ReadError (Json × List Char)
  | 0, _ => .error .malformed
  | fuel + 1, text =>
    match text with
    | '"' :: rest =>
      match stringBody rest with
      | some (chars, after) => .ok (.str (String.ofList chars), after)
      | none => .error .malformed
    | '[' :: rest =>
      match skipSpaces rest with
      | ']' :: after => .ok (.arr [], after)
      | text =>
        match items limit fuel text with
        | .ok (list, after) => .ok (.arr list, after)
        | .error e => .error e
    | '\x7b' :: rest =>
      match skipSpaces rest with
      | '\x7d' :: after => .ok (.obj [], after)
      | text =>
        match members limit fuel text with
        | .ok (pairs, after) => .ok (.obj (Members.ofPairs pairs), after)
        | .error e => .error e
    | 'n' :: 'u' :: 'l' :: 'l' :: rest => .ok (.null, rest)
    | 't' :: 'r' :: 'u' :: 'e' :: rest => .ok (.bool true, rest)
    | 'f' :: 'a' :: 'l' :: 's' :: 'e' :: rest => .ok (.bool false, rest)
    | 'N' :: 'a' :: 'N' :: rest => .ok (.float .nan, rest)
    | 'I' :: 'n' :: 'f' :: 'i' :: 'n' :: 'i' :: 't' :: 'y' :: rest =>
      .ok (.float (.infinite false), rest)
    | '-' :: 'I' :: 'n' :: 'f' :: 'i' :: 'n' :: 'i' :: 't' :: 'y' :: rest =>
      .ok (.float (.infinite true), rest)
    | text => number limit text

/-- The items of a list up to its closing bracket, and the rest. -/
def items (limit : Option Nat) : (fuel : Nat) → List Char → Except ReadError (List Json × List Char)
  | 0, _ => .error .malformed
  | fuel + 1, text =>
    match value limit fuel text with
    | .error e => .error e
    | .ok (item, after) =>
      match skipSpaces after with
      | ']' :: rest => .ok ([item], rest)
      | ',' :: rest =>
        match items limit fuel (skipSpaces rest) with
        | .ok (list, rest) => .ok (item :: list, rest)
        | .error e => .error e
      | _ => .error .malformed

/-- The members of an object up to its closing brace, and the rest. -/
def members (limit : Option Nat) :
    (fuel : Nat) → List Char → Except ReadError (List (String × Json) × List Char)
  | 0, _ => .error .malformed
  | fuel + 1, text =>
    match text with
    | '"' :: rest =>
      match stringBody rest with
      | none => .error .malformed
      | some (key, afterKey) =>
        match skipSpaces afterKey with
        | ':' :: rest =>
          match value limit fuel (skipSpaces rest) with
          | .error e => .error e
          | .ok (item, after) =>
            match skipSpaces after with
            | '\x7d' :: rest => .ok ([(String.ofList key, item)], rest)
            | ',' :: rest =>
              match members limit fuel (skipSpaces rest) with
              | .ok (pairs, rest) => .ok ((String.ofList key, item) :: pairs, rest)
              | .error e => .error e
            | _ => .error .malformed
        | _ => .error .malformed
    | _ => .error .malformed

end

end Reader

/-- The value that a text writes, if its integers have no more digits than the limit. -/
def parseWith (limit : Option Nat) (text : List Char) : Except ReadError Json :=
  match Reader.value limit (2 * text.length + 2) (Reader.skipSpaces text) with
  | .error e => .error e
  | .ok (value, rest) =>
    match Reader.skipSpaces rest with
    | [] => .ok value
    | _ => .error .malformed

/-- The value that a text writes. -/
def parse (text : List Char) : Except ReadError Json := parseWith (some Numeral.maxDigits) text

end ContentModel.Json
