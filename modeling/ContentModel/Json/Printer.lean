import ContentModel.Json.Basic
import ContentModel.Numeric.Shortest
import ContentModel.Text.Basic
import ContentModel.Text.Quoted

/-!
# Writing JSON

The two written forms of a value, and the choice between raw and escaped characters.

* `Json.quotedChars` writes a string: the quotation mark, the backslash and the control
  characters are escaped, and with `Charset.ascii` every character outside ASCII too, beyond
  `U+FFFF` as two surrogates;
* `Json.compact` writes a value on one line without blanks;
* `Json.indented` puts every item on a line of its own, two columns further in per level.
-/

namespace ContentModel.Json

/-- The characters that a written string may hold. -/
inductive Charset
  /-- Characters outside ASCII are escaped. -/
  | ascii
  /-- Characters outside ASCII stand as they are. -/
  | unicode
  deriving DecidableEq

/-- A code unit of sixteen bits as an escape. -/
def unitEscape (n : Nat) : List Char := '\\' :: 'u' :: Text.hexDigits 4 n

/-- A character as an escape, in two surrogates when it does not fit into one unit. -/
def charEscape (n : Nat) : List Char :=
  if n < 0x10000 then unitEscape n
  else
    unitEscape (0xD800 + (n - 0x10000) / 0x400) ++ unitEscape (0xDC00 + (n - 0x10000) % 0x400)

/-- A character inside a written string. -/
def quotedChar (charset : Charset) (c : Char) : List Char :=
  if c = '"' || c = '\\' then ['\\', c]
  else if c = '\n' then ['\\', 'n']
  else if c = '\r' then ['\\', 'r']
  else if c = '\t' then ['\\', 't']
  else if c = '\x08' then ['\\', 'b']
  else if c = '\x0c' then ['\\', 'f']
  else if c.toNat < 0x20 then unitEscape c.toNat
  else if charset = .ascii && 0x7F ≤ c.toNat then charEscape c.toNat
  else [c]

/-- A string between quotation marks. -/
def quotedChars (charset : Charset) (text : List Char) : List Char :=
  '"' :: (text.flatMap (quotedChar charset) ++ ['"'])

/-- A string between quotation marks, as a string. -/
def quotedString (charset : Charset) (s : String) : String :=
  String.ofList (quotedChars charset s.toList)

/-- A floating-point number in a written value. -/
def floatText : Binary64 → String
  | .nan => "NaN"
  | .infinite negative => if negative then "-Infinity" else "Infinity"
  | x => x.text

/-- A value that holds no others. -/
def scalarText (charset : Charset) : Json → String
  | .null => "null"
  | .bool b => if b then "true" else "false"
  | .int n => Digits.intText n
  | .float x => floatText x
  | .str s => quotedString charset s
  | .arr _ => "[]"
  | .obj _ => "\x7b\x7d"

mutual

/-- A value on one line without blanks. -/
def compact : Json → String
  | .arr items => "[" ++ (Text.joinWith "," (compactItems items) ++ "]")
  | .obj members => "\x7b" ++ (Text.joinWith "," (compactMembers members) ++ "\x7d")
  | scalar => scalarText .unicode scalar

/-- The items of a list in compact form. -/
def compactItems : List Json → List String
  | [] => []
  | item :: rest => compact item :: compactItems rest

/-- The members of an object in compact form. -/
def compactMembers : List (String × Json) → List String
  | [] => []
  | (key, value) :: rest =>
    (quotedString .unicode key ++ (":" ++ compact value)) :: compactMembers rest

end

/-- The line break before a line of the given level. -/
def lineBreak (level : Nat) : String := String.ofList ('\n' :: List.replicate (2 * level) ' ')

mutual

/-- A value over several lines, given the level of the line it begins on. -/
def indentedAt (charset : Charset) (level : Nat) : Json → String
  | .arr [] => "[]"
  | .arr (item :: rest) =>
    "[" ++ (lineBreak (level + 1)
      ++ (Text.joinWith ("," ++ lineBreak (level + 1))
            (indentedAt charset (level + 1) item :: indentedItems charset (level + 1) rest)
        ++ (lineBreak level ++ "]")))
  | .obj [] => "\x7b\x7d"
  | .obj ((key, value) :: rest) =>
    "\x7b" ++ (lineBreak (level + 1)
      ++ (Text.joinWith ("," ++ lineBreak (level + 1))
            ((quotedString charset key ++ (": " ++ indentedAt charset (level + 1) value))
              :: indentedMembers charset (level + 1) rest)
        ++ (lineBreak level ++ "\x7d")))
  | scalar => scalarText charset scalar

/-- The items of a list, each as it begins on its own line. -/
def indentedItems (charset : Charset) (level : Nat) : List Json → List String
  | [] => []
  | item :: rest => indentedAt charset level item :: indentedItems charset level rest

/-- The members of an object, each as it begins on its own line. -/
def indentedMembers (charset : Charset) (level : Nat) : List (String × Json) → List String
  | [] => []
  | (key, value) :: rest =>
    (quotedString charset key ++ (": " ++ indentedAt charset level value))
      :: indentedMembers charset level rest

end

/-- A value over several lines. -/
def indented (charset : Charset) (value : Json) : String := indentedAt charset 0 value

end ContentModel.Json
