import ContentModel.Numeric.Numeral
import ContentModel.Text.Basic
import ContentModel.Text.LetterCase

/-!
# Styles

The styles of marked-up text, as words: effects, a colour, `on` with the colour of the ground,
and `link` with an address. `not` before an effect switches it off.

* `Color.read` reads the name of a colour: one of the named ones, or a number, or its parts;
* `Style.read` reads a style, `Style.text` writes it with effects in a fixed order;
* `Style.normal` is the form under which styles are compared: that of `Style.text` for a style,
  and small letters for anything else.
-/

namespace ContentModel.CommandLine

/-- Why a text is no style. -/
inductive StyleError
  /-- It breaks a rule of the notation. -/
  | malformed
  /-- One of the three parts of a colour is no number. -/
  | badColorPart
  deriving DecidableEq, Repr

/-- What may be switched on and off in a style, in the order written. -/
inductive Effect
  | bold
  | dim
  | italic
  | underline
  | blink
  | blink2
  | reverse
  | conceal
  | strike
  | underline2
  | frame
  | encircle
  | overline
  deriving DecidableEq, Repr

namespace Effect

/-- All effects. -/
def all : List Effect :=
  [bold, dim, italic, underline, blink, blink2, reverse, conceal, strike, underline2, frame,
    encircle, overline]

/-- The name of an effect. -/
def name : Effect → String
  | .bold => "bold"
  | .dim => "dim"
  | .italic => "italic"
  | .underline => "underline"
  | .blink => "blink"
  | .blink2 => "blink2"
  | .reverse => "reverse"
  | .conceal => "conceal"
  | .strike => "strike"
  | .underline2 => "underline2"
  | .frame => "frame"
  | .encircle => "encircle"
  | .overline => "overline"

/-- The short name of an effect, if it has one. -/
def shortName? : Effect → Option String
  | .bold => some "b"
  | .dim => some "d"
  | .italic => some "i"
  | .underline => some "u"
  | .reverse => some "r"
  | .conceal => some "c"
  | .strike => some "s"
  | .underline2 => some "uu"
  | .overline => some "o"
  | _ => none

/-- The effect with a name or short name. -/
def ofName? (word : String) : Option Effect :=
  all.find? fun effect => effect.name == word || effect.shortName? == some word

theorem ofName?_name (effect : Effect) : ofName? effect.name = some effect := by
  cases effect <;> decide

end Effect

/-! ## Small letters -/

/-- The small letters that a character becomes: one, except for the capital I with a dot. -/
def smallLetters (c : Char) : List Char :=
  if c.toNat = 0x130 then ['i', '\u0307'] else [Char.ofNat (Text.lower c.toNat)]

/-- A text in small letters. -/
def inSmallLetters (text : String) : String :=
  String.ofList (text.toList.flatMap smallLetters)

/-! ## Colours -/

namespace Color

/-- The colours that have a name. -/
def names : List String := [
  "black", "red", "green", "yellow", "blue", "magenta", "cyan", "white", "bright_black",
  "bright_red", "bright_green", "bright_yellow", "bright_blue", "bright_magenta", "bright_cyan",
  "bright_white", "grey0", "gray0", "navy_blue", "dark_blue", "blue3", "blue1", "dark_green",
  "deep_sky_blue4", "dodger_blue3", "dodger_blue2", "green4", "spring_green4", "turquoise4",
  "deep_sky_blue3", "dodger_blue1", "green3", "spring_green3", "dark_cyan", "light_sea_green",
  "deep_sky_blue2", "deep_sky_blue1", "spring_green2", "cyan3", "dark_turquoise", "turquoise2",
  "green1", "spring_green1", "medium_spring_green", "cyan2", "cyan1", "dark_red", "deep_pink4",
  "purple4", "purple3", "blue_violet", "orange4", "grey37", "gray37", "medium_purple4",
  "slate_blue3", "royal_blue1", "chartreuse4", "dark_sea_green4", "pale_turquoise4", "steel_blue",
  "steel_blue3", "cornflower_blue", "chartreuse3", "cadet_blue", "sky_blue3", "steel_blue1",
  "pale_green3", "sea_green3", "aquamarine3", "medium_turquoise", "chartreuse2", "sea_green2",
  "sea_green1", "aquamarine1", "dark_slate_gray2", "dark_magenta", "dark_violet", "purple",
  "light_pink4", "plum4", "medium_purple3", "slate_blue1", "yellow4", "wheat4", "grey53",
  "gray53", "light_slate_grey", "light_slate_gray", "medium_purple", "light_slate_blue",
  "dark_olive_green3", "dark_sea_green", "light_sky_blue3", "sky_blue2", "dark_sea_green3",
  "dark_slate_gray3", "sky_blue1", "chartreuse1", "light_green", "pale_green1",
  "dark_slate_gray1", "red3", "medium_violet_red", "magenta3", "dark_orange3", "indian_red",
  "hot_pink3", "medium_orchid3", "medium_orchid", "medium_purple2", "dark_goldenrod",
  "light_salmon3", "rosy_brown", "grey63", "gray63", "medium_purple1", "gold3", "dark_khaki",
  "navajo_white3", "grey69", "gray69", "light_steel_blue3", "light_steel_blue", "yellow3",
  "dark_sea_green2", "light_cyan3", "light_sky_blue1", "green_yellow", "dark_olive_green2",
  "dark_sea_green1", "pale_turquoise1", "deep_pink3", "magenta2", "hot_pink2", "orchid",
  "medium_orchid1", "orange3", "light_pink3", "pink3", "plum3", "violet", "light_goldenrod3",
  "tan", "misty_rose3", "thistle3", "plum2", "khaki3", "light_goldenrod2", "light_yellow3",
  "grey84", "gray84", "light_steel_blue1", "yellow2", "dark_olive_green1", "honeydew2",
  "light_cyan1", "red1", "deep_pink2", "deep_pink1", "magenta1", "orange_red1", "indian_red1",
  "hot_pink", "dark_orange", "salmon1", "light_coral", "pale_violet_red1", "orchid2", "orchid1",
  "orange1", "sandy_brown", "light_salmon1", "light_pink1", "pink1", "plum1", "gold1",
  "navajo_white1", "misty_rose1", "thistle1", "yellow1", "light_goldenrod1", "khaki1", "wheat1",
  "cornsilk1", "grey100", "gray100", "grey3", "gray3", "grey7", "gray7", "grey11", "gray11",
  "grey15", "gray15", "grey19", "gray19", "grey23", "gray23", "grey27", "gray27", "grey30",
  "gray30", "grey35", "gray35", "grey39", "gray39", "grey42", "gray42", "grey46", "gray46",
  "grey50", "gray50", "grey54", "gray54", "grey58", "gray58", "grey62", "gray62", "grey66",
  "gray66", "grey70", "gray70", "grey74", "gray74", "grey78", "gray78", "grey82", "gray82",
  "grey85", "gray85", "grey89", "gray89", "grey93", "gray93"]

/-- The number of a part of a colour. -/
def part (text : List Char) : Except StyleError Int :=
  match Numeral.integer? (String.ofList text) with
  | some n => .ok n
  | none => .error .badColorPart

/-- Whether a text gives a colour by its parts: three numbers of at most 255. -/
def readParts (text : List Char) : Except StyleError Bool :=
  match Text.splitChars ',' text with
  | [red, green, blue] => do
    let red ← part red
    let green ← part green
    let blue ← part blue
    return red ≤ 255 && green ≤ 255 && blue ≤ 255
  | _ => .ok false

/-- Whether a text is six hexadecimal digits with small letters. -/
def isHexTriple (text : List Char) : Bool :=
  text.length == 6
    && text.all fun c => Text.isAsciiDigit c || ('a' ≤ c && c ≤ 'f')

/-- Whether a text is a number of at most three ASCII digits and at most 255. -/
def isNumber (text : List Char) : Bool :=
  1 ≤ text.length && text.length ≤ 3 && text.all Text.isAsciiDigit
    && Numeral.asciiValue text ≤ 255

/-- What stands in parentheses after a word, if a text is made so. -/
def argument? (word : String) (text : List Char) : Option (List Char) :=
  match Text.dropPrefix? (word ++ "(").toList text with
  | some rest => if rest.getLast? = some ')' then some rest.dropLast else none
  | none => none

/-- Whether a text in small letters gives a colour by numbers. -/
def isNumeric (text : List Char) : Except StyleError Bool :=
  match text, argument? "color" text, argument? "rgb" text with
  | '#' :: digits, _, _ => .ok (isHexTriple digits)
  | _, some number, _ => .ok (isNumber number)
  | _, none, some parts =>
    if !parts.isEmpty && parts.all fun c => Text.isDigit c || c = ',' then readParts parts
    else .ok false
  | _, none, none => .ok false

/-- The colour that a word names, in small letters. -/
def read (word : String) : Except StyleError String :=
  let color := inSmallLetters word
  if color = "default" || names.contains color then .ok color
  else
    match isNumeric color.toList with
    | .ok true => .ok color
    | .ok false => .error .malformed
    | .error error => .error error

end Color

/-! ## Styles -/

/-- A style. -/
structure Style where
  /-- The effects that are switched on or off, the last ones first. -/
  effects : List (Effect × Bool) := []
  color? : Option String := none
  ground? : Option String := none
  link? : Option String := none
  deriving DecidableEq, Repr

namespace Style

/-- A style with an effect switched on or off. -/
def switch (style : Style) (effect : Effect) (on : Bool) : Style :=
  { style with effects := (effect, on) :: style.effects }

/-- The word for an effect in a style, if it is switched on or off. -/
def effectText? (style : Style) (effect : Effect) : Option String :=
  (style.effects.lookup effect).map fun on =>
    if on then effect.name else "not " ++ effect.name

/-- A style in words. -/
def text (style : Style) : String :=
  let words := Effect.all.filterMap style.effectText? ++ style.color?.toList
    ++ (style.ground?.map ("on " ++ ·)).toList ++ (style.link?.map ("link " ++ ·)).toList
  if words.isEmpty then "none" else Text.joinWith " " words

/-- Adds words to a style. -/
def addWords (style : Style) : List String → Except StyleError Style
  | [] => .ok style
  | word :: rest =>
    match inSmallLetters word, rest with
    | "on", [] => .error .malformed
    | "on", color :: rest => do addWords { style with ground? := some (← Color.read color) } rest
    | "not", [] => .error .malformed
    | "not", name :: rest =>
      match Effect.ofName? name with
      | some effect => addWords (style.switch effect false) rest
      | none => .error .malformed
    | "link", [] => .error .malformed
    | "link", address :: rest => addWords { style with link? := some address } rest
    | word, rest =>
      match Effect.ofName? word with
      | some effect => addWords (style.switch effect true) rest
      | none => do addWords { style with color? := some (← Color.read word) } rest

/-- The style that a text describes; the word `none` alone stands for no style. -/
def read (text : String) : Except StyleError Style :=
  match (Text.blankWords text.toList).map String.ofList with
  | ["none"] => .ok {}
  | words => addWords {} words

/-- The form under which a text is compared with others as a style. -/
def normal (text : String) : Except StyleError String :=
  match read text with
  | .ok style => .ok style.text
  | .error .malformed => .ok (inSmallLetters (Text.strip text))
  | .error .badColorPart => .error .badColorPart

end Style

end ContentModel.CommandLine
