import ContentModel.Numeric.Numeral
import ContentModel.Text.CharName
import ContentModel.Text.Word

/-!
# Tokens of literals

The smallest parts of a written literal: numbers, quoted texts, a few words, and marks.

* `LiteralToken.read` cuts a text into tokens.

A comment goes from `#` to the end of its line. A line break ends the literal unless a bracket is
open; nothing but comments may follow it then, and before the literal stands nothing else. A line
goes on after a backslash at its end.
-/

namespace ContentModel.CommandLine

/-- A part of a written literal. -/
inductive LiteralToken
  | number (imaginary : Bool)
  /-- A quoted text, of bytes or of characters. -/
  | text (bytes : Bool)
  /-- One of the words for true, false and nothing, or three dots. -/
  | constant
  /-- The word before the brackets of an empty set. -/
  | setWord
  /-- A bracket, comma, colon or sign. -/
  | mark (c : Char)
  deriving DecidableEq, Repr

namespace LiteralToken

/-! ## Numbers -/

/-- A run of digits of a kind with single underscores before digits: the digits, and the rest. -/
def digitRun (p : Char → Bool) : List Char → List Char × List Char
  | [] => ([], [])
  | c :: rest =>
    if p c then
      let (digits, after) := digitRun p rest
      (c :: digits, after)
    else if c = '_' && (rest.head?.map p).getD false then digitRun p rest
    else ([], c :: rest)

/-- Whether a text begins with a character of a kind. -/
def begins (p : Char → Bool) (text : List Char) : Bool := (text.head?.map p).getD false

/-- Whether a character may go on a word or number, so that none ends before it. -/
def isWordChar (c : Char) : Bool := Text.isAsciiWord c || 0x80 ≤ c.toNat

/-- The digits of another base after a letter that names it. -/
def radixDigits? (letter : Char) : Option (Char → Bool) :=
  if letter = 'x' || letter = 'X' then some Text.isHexDigit
  else if letter = 'o' || letter = 'O' then some fun c => '0' ≤ c && c ≤ '7'
  else if letter = 'b' || letter = 'B' then some fun c => c = '0' || c = '1'
  else none

/-- What follows the fraction of a number, if there is one. -/
def fraction? : List Char → Option (List Char)
  | '.' :: rest =>
    some (if begins Text.isAsciiDigit rest then (digitRun Text.isAsciiDigit rest).2 else rest)
  | _ => none

/-- What follows the exponent of a number, if there is one. -/
def exponent? : List Char → Option (List Char)
  | e :: rest =>
    if e = 'e' || e = 'E' then
      let digits := (Numeral.sign rest).2
      if begins Text.isAsciiDigit digits then some (digitRun Text.isAsciiDigit digits).2
      else none
    else none
  | [] => none

/-- Whether digits are those of an integer: without leading zeros, unless they are all zeros. -/
def isInteger (digits : List Char) : Bool :=
  digits.all (· == '0') || (digits.head? != some '0' && digits.length ≤ Numeral.maxDigits)

/-- What follows a decimal number, and whether it is imaginary. -/
def decimal? (text : List Char) : Option (Bool × List Char) :=
  let (whole, rest) := digitRun Text.isAsciiDigit text
  let afterFraction := fraction? rest
  let rest := afterFraction.getD rest
  let afterExponent := exponent? rest
  match afterExponent.getD rest with
  | 'j' :: rest => some (true, rest)
  | 'J' :: rest => some (true, rest)
  | rest =>
    if afterFraction.isSome || afterExponent.isSome || isInteger whole then some (false, rest)
    else none

/-- A number at the front of a text, and what follows it. -/
def number? (text : List Char) : Option (LiteralToken × List Char) := do
  let (imaginary, rest) ←
    match text with
    | '0' :: letter :: more =>
      match radixDigits? letter with
      | some p =>
        let (digits, rest) := digitRun p more
        if digits.isEmpty then none else some (false, rest)
      | none => decimal? text
    | _ => decimal? text
  if begins isWordChar rest then none else some (.number imaginary, rest)

/-! ## Quoted texts -/

/-- What stands before the closing quote of a text, and what follows it. Between triple quotes
lines may break, and single quotes may stand. -/
def quoted? (quote : Char) (triple : Bool) : List Char → Option (List Char × List Char)
  | [] => none
  | '\\' :: c :: rest =>
    (quoted? quote triple rest).map fun (body, after) => ('\\' :: c :: body, after)
  | c :: rest =>
    if c = quote && !triple then some ([], rest)
    else if c = quote && rest.take 2 == [quote, quote] then some ([], rest.drop 2)
    else if c = '\n' && !triple then none
    else (quoted? quote triple rest).map fun (body, after) => (c :: body, after)

/-- Whether a text begins with a number of hexadecimal digits that give a code point. -/
def beginsWithCode (digits : Nat) (text : List Char) : Bool :=
  let code := text.take digits
  code.length == digits && code.all Text.isHexDigit && Text.hexNumber code ≤ 0x10FFFF

/-- Whether a text begins with the name of a character in braces. -/
def beginsWithName : List Char → Bool
  | '\x7b' :: rest =>
    rest.contains '\x7d' && (Text.charNamed? (rest.takeWhile (· != '\x7d'))).isSome
  | _ => false

/-- Whether what follows a backslash and a character makes up an escape. -/
def isEscape (bytes : Bool) (c : Char) (text : List Char) : Bool :=
  if c = 'x' then beginsWithCode 2 text
  else if bytes then true
  else if c = 'u' then beginsWithCode 4 text
  else if c = 'U' then beginsWithCode 8 text
  else if c = 'N' then beginsWithName text
  else true

/-- Whether all escapes of a text are good. -/
def escapesAreGood (bytes : Bool) : List Char → Bool
  | [] => true
  | '\\' :: c :: rest => isEscape bytes c rest && escapesAreGood bytes rest
  | _ :: rest => escapesAreGood bytes rest

/-- Whether a quoted text of bytes, or of characters, may hold a text. -/
def isBody (raw bytes : Bool) (body : List Char) : Bool :=
  (!bytes || body.all fun c => c.toNat < 0x80) && (raw || escapesAreGood bytes body)

/-- A quoted text at the front of a text, and what follows it. -/
def text? (raw bytes : Bool) (quote : Char) (text : List Char) :
    Option (LiteralToken × List Char) := do
  let triple := text.take 3 == [quote, quote, quote]
  let (body, rest) ← quoted? quote triple (text.drop (if triple then 3 else 1))
  if isBody raw bytes body then some (.text bytes, rest) else none

/-- Whether a quoted text is raw and whether it is of bytes, by the word before it. -/
def textKind? (word : String) : Option (Bool × Bool) :=
  if word = "" || word = "u" then some (false, false)
  else if word = "r" then some (true, false)
  else if word = "b" then some (false, true)
  else if word = "br" || word = "rb" then some (true, true)
  else none

/-! ## Words -/

/-- The token that a word is. -/
def ofWord? (word : String) : Option LiteralToken :=
  if ["True", "False", "None"].contains word then some .constant
  else if word = "set" then some .setWord
  else none

/-- Whether a character is a quote. -/
def isQuote (c : Char) : Bool := c = '\'' || c = '"'

/-- A word at the front of a text, or a quoted text with a word before it, and what follows it. -/
def word? (text : List Char) : Option (LiteralToken × List Char) :=
  let word := String.ofList (text.takeWhile isWordChar)
  match text.dropWhile isWordChar with
  | [] => (ofWord? word).map fun token => (token, [])
  | c :: rest =>
    if isQuote c then do
      let (raw, bytes) ← textKind? (String.ofList (Numeral.lowerAscii word.toList))
      text? raw bytes c (c :: rest)
    else (ofWord? word).map fun token => (token, c :: rest)

/-- The token at the front of a text, and what follows it. -/
def first? : List Char → Option (LiteralToken × List Char)
  | [] => none
  | '.' :: rest =>
    if begins Text.isAsciiDigit rest then number? ('.' :: rest)
    else if rest.take 2 == ['.', '.'] then some (.constant, rest.drop 2)
    else none
  | c :: rest =>
    if Text.isAsciiDigit c then number? (c :: rest)
    else if "()\x7b\x7d,:+-".toList.contains c then some (.mark c, rest)
    else if isWordChar c || isQuote c then word? (c :: rest)
    else none

/-! ## Lines -/

/-- Where in its lines a literal has been read to. -/
inductive Line
  /-- It has not begun; whether there are blanks before it in the line. -/
  | before (indented : Bool)
  | within
  /-- Its line has ended. -/
  | after
  deriving DecidableEq

/-- What blanks do to a line: blanks before a literal matter, and a form feed undoes them. -/
def Line.indent (line : Line) (c : Char) : Line :=
  match line with
  | .before _ => .before (c != '\x0c')
  | line => line

/-- What a line break outside of brackets does. -/
def Line.break : Line → Line
  | .before _ => .before false
  | _ => .after

/-- Whether a token may come. -/
def Line.admits : Line → Bool
  | .before indented => !indented
  | .within => true
  | .after => false

/-- The greatest number of brackets in one another. -/
def maxDepth : Nat := 200

/-- The number of open brackets after a token. -/
def depthAfter? (depth : Nat) : LiteralToken → Option Nat
  | .mark c =>
    if c = '(' || c = '\x7b' then if depth < maxDepth then some (depth + 1) else none
    else if c = ')' || c = '\x7d' then if depth = 0 then none else some (depth - 1)
    else some depth
  | _ => some depth

/-- The tokens of a text, given the number of open brackets and the place in the lines. -/
def readFrom : (fuel depth : Nat) → Line → List Char → Option (List LiteralToken)
  | 0, _, _, _ => none
  | _ + 1, _, _, [] => some []
  | fuel + 1, depth, line, c :: rest =>
    if c = '\n' then readFrom fuel depth (if depth = 0 then line.break else line) rest
    else if c = ' ' || c = '\t' || c = '\x0c' then readFrom fuel depth (line.indent c) rest
    else if c = '#' then readFrom fuel depth line (rest.dropWhile (· != '\n'))
    else if c = '\\' then
      match rest with
      | '\n' :: more => readFrom fuel depth line more
      | _ => none
    else if !line.admits then none
    else do
      let (token, more) ← first? (c :: rest)
      let tokens ← readFrom fuel (← depthAfter? depth token) .within more
      return token :: tokens

/-- A text in which every line break is a line feed. -/
def withLineFeeds : List Char → List Char
  | [] => []
  | '\r' :: '\n' :: rest => '\n' :: withLineFeeds rest
  | c :: rest => (if c = '\r' then '\n' else c) :: withLineFeeds rest

/-- The tokens of a text. -/
def read (text : List Char) : Option (List LiteralToken) :=
  if text.contains '\x00' then none
  else readFrom (text.length + 1) 0 (.before false) (withLineFeeds text)

end LiteralToken

end ContentModel.CommandLine
