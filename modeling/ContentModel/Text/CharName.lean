import ContentModel.Text.CharName.Aliases
import ContentModel.Text.CharName.Alphabets
import ContentModel.Text.CharName.Ancient
import ContentModel.Text.CharName.Basic
import ContentModel.Text.CharName.EastAsian
import ContentModel.Text.CharName.Notations
import ContentModel.Text.CharName.Pictographs
import ContentModel.Text.CharName.Symbols
import ContentModel.Text.Basic
import ContentModel.Text.Ranges

/-!
# Names of characters

The character that a name stands for.

* `Text.charNamed?` looks a name up: by rule where names follow one, else in the tables, which do
  not tell small from capital letters;
* `CharName.syllable?` reads the name of a Hangul syllable, `CharName.ideograph?` that of a unified
  ideograph.
-/

namespace ContentModel.Text

namespace CharName

/-! ## Names by rule -/

/-- The consonants that a Hangul syllable begins with, in order. -/
def initials : List String :=
  ["G", "GG", "N", "D", "DD", "R", "M", "B", "BB", "S", "SS", "", "J", "JJ", "C", "K", "T", "P",
    "H"]

/-- The vowels of Hangul syllables, in order. -/
def vowels : List String :=
  ["A", "AE", "YA", "YAE", "EO", "E", "YEO", "YE", "O", "WA", "WAE", "OE", "YO", "U", "WEO", "WE",
    "WI", "YU", "EU", "YI", "I"]

/-- The consonants that a Hangul syllable ends with, in order. -/
def finals : List String :=
  ["", "G", "GG", "GS", "N", "NJ", "NH", "D", "L", "LG", "LM", "LB", "LS", "LT", "LP", "LH", "M",
    "B", "BS", "S", "SS", "NG", "J", "C", "K", "T", "P", "H"]

/-- The longest of some sounds, counted from a number on, that a text begins with: its number and
the rest of the text. -/
def longest (text : List Char) : (number : Nat) → List String → Option (Nat × List Char)
  | _, [] => none
  | number, sound :: others =>
    match dropPrefix? sound.toList text, longest text (number + 1) others with
    | none, found => found
    | some rest, none => some (number, rest)
    | some rest, some (other, shorter) =>
      if rest.length ≤ shorter.length then some (number, rest) else some (other, shorter)

/-- The Hangul syllable that sounds make up. -/
def syllable? (sounds : List Char) : Option Nat := do
  let (initial, sounds) ← longest sounds 0 initials
  let (vowel, sounds) ← longest sounds 0 vowels
  let (final, rest) ← longest sounds 0 finals
  if rest.isEmpty then some (0xAC00 + (initial * vowels.length + vowel) * finals.length + final)
  else none

/-- The unified ideographs. -/
def ideographRanges : Ranges := [
  (0x3400, 0x4DBF), (0x4E00, 0x9FFF), (0x20000, 0x2A6DF), (0x2A700, 0x2B738), (0x2B740, 0x2B81D),
  (0x2B820, 0x2CEA1), (0x2CEB0, 0x2EBE0), (0x30000, 0x3134A)]

/-- The unified ideograph with a code point in four or five hexadecimal digits. -/
def ideograph? (digits : List Char) : Option Nat :=
  let code := hexNumber digits
  if (digits.length = 4 || digits.length = 5)
      && digits.all (fun c => ('0' ≤ c && c ≤ '9') || ('A' ≤ c && c ≤ 'F'))
      && ideographRanges.has code then some code
  else none

/-! ## Names in tables -/

/-- The tables of names. -/
def tables : List (List String) :=
  [alphabets, symbols, eastAsian, ancient, notations, pictographs, aliases]

/-- ASCII letters in upper case. -/
def upperAscii (text : List Char) : List Char :=
  text.map fun c => if 'a' ≤ c && c ≤ 'z' then Char.ofNat (c.toNat - 0x20) else c

/-- The character that a name in a table stands for. -/
def tabulated? (name : List Char) : Option Nat :=
  tables.findSome? fun table => find? table (upperAscii name)

end CharName

/-- The code point of the character with a name. -/
def charNamed? (name : List Char) : Option Nat :=
  match dropPrefix? "HANGUL SYLLABLE ".toList name,
      dropPrefix? "CJK UNIFIED IDEOGRAPH-".toList name with
  | some sounds, _ => CharName.syllable? sounds
  | none, some digits => CharName.ideograph? digits
  | none, none => CharName.tabulated? name

end ContentModel.Text
