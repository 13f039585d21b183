import ContentModel.Pattern.Syntax
import ContentModel.Text.Blank
import ContentModel.Text.DecimalDigit
import ContentModel.Text.LetterCase
import ContentModel.Text.Word

/-!
# Characters against patterns

Which characters the one-character patterns match, with and without regard to letter case.

* `CharClass.has` decides the named classes;
* `SetItem.has` and `SetItem.hasFolded` decide a part of a set, the latter for a lower-case
  character when case is ignored;
* `matchesChar` and `matchesSet` decide whole patterns.

When case is ignored, characters are compared by their lower-case forms and the kin of those.
Beyond `U+FFFF` the parts of a set are compared with the lower-case form itself.
-/

namespace ContentModel

/-- The last code point of the first plane. -/
def lastOfPlane : Nat := 0xFFFF

/-- Whether a code point belongs to a class. -/
def CharClass.has (ascii : Bool) : CharClass → Nat → Bool
  | .digit, n =>
    if ascii then 0x30 ≤ n && n ≤ 0x39 else (Text.digitValueIn Text.digitZeros n).isSome
  | .space, n => if ascii then n == 0x20 || (0x9 ≤ n && n ≤ 0xD) else Text.blankRanges.has n
  | .word, n => if ascii then Text.isAsciiWordCode n else Text.wordRanges.has n

namespace CharFold

/-- The lower-case form of a code point, of all scripts or of ASCII. -/
def lower (ascii : Bool) (n : Nat) : Nat := if ascii then Text.asciiLower n else Text.lower n

/-- Whether a code point has another case. -/
def isCased (ascii : Bool) (n : Nat) : Bool :=
  if ascii then Text.isAsciiCased n else Text.isCased n

/-- A lower-case code point and its kin. -/
def variants (ascii : Bool) (n : Nat) : List Nat := if ascii then [n] else n :: Text.kin n

/-- Whether a run of letters has a member from `first` to `last`. -/
def runMeets (run : Text.CaseRun) (first last : Nat) : Bool :=
  let low := max first run.first
  let past := (low - run.first) % run.step
  let member := if past = 0 then low else low + (run.step - past)
  member ≤ min last run.last

/-- Whether a range holds a code point that has another case. -/
def rangeIsCased (ascii : Bool) (first last : Nat) : Bool :=
  if ascii then
    max first 0x41 ≤ min last 0x5A || max first 0x61 ≤ min last 0x7A
  else
    Text.lowerRuns.any (runMeets · first last) || Text.upperRuns.any (runMeets · first last)

/-- The code points whose lower-case form is the given one. -/
def origins (ascii : Bool) (n : Nat) : List Nat :=
  let moved :=
    if ascii then (if 0x61 ≤ n && n ≤ 0x7A then [n - 0x20] else [])
    else
      Text.lowerRuns.filterMap fun run =>
        if run.image ≤ n && run.first + (n - run.image) ≤ run.last
            && (n - run.image) % run.step == 0 then
          some (run.first + (n - run.image))
        else none
  if lower ascii n = n then n :: moved else moved

end CharFold

namespace SetItem

/-- Whether a part of a set holds a code point. -/
def has (ascii : Bool) : SetItem → Nat → Bool
  | .single code, n => n == code
  | .range first last, n => first ≤ n && n ≤ last
  | .member negated charClass, n => charClass.has ascii n != negated

/-- Whether a part of a set holds a character of two cases. -/
def isCased (ascii : Bool) : SetItem → Bool
  | .single code => CharFold.isCased ascii code || lastOfPlane < code
  | .range first last => CharFold.rangeIsCased ascii first last || lastOfPlane < last
  | .member _ _ => false

/-- Whether a part of a set holds a lower-case code point, case ignored. -/
def hasFolded (ascii : Bool) : SetItem → Nat → Bool
  | .single code, n =>
    let low := CharFold.lower ascii code
    if lastOfPlane < low then n == code else (CharFold.variants ascii low).contains n
  | .range first last, n =>
    let nearby := (CharFold.variants ascii n).any fun v =>
      (CharFold.origins ascii v).any fun origin =>
        first ≤ origin && origin ≤ min last lastOfPlane
    let far :=
      lastOfPlane < last
        && ((first ≤ n && n ≤ last) || (first ≤ Text.upper n && Text.upper n ≤ last))
    nearby || far
  | .member negated charClass, n => charClass.has ascii n != negated

end SetItem

/-- Whether a character matches a single one. -/
def matchesChar (flags : Flags) (code : Nat) (c : Char) : Bool :=
  if flags.ignoreCase && CharFold.isCased flags.ascii code then
    (CharFold.variants flags.ascii (CharFold.lower flags.ascii code)).contains
      (CharFold.lower flags.ascii c.toNat)
  else c.toNat == code

/-- Whether a character matches a set. -/
def matchesSet (flags : Flags) (negated : Bool) (items : List SetItem) (c : Char) : Bool :=
  let found :=
    if flags.ignoreCase && items.any (SetItem.isCased flags.ascii) then
      items.any fun item => item.hasFolded flags.ascii (CharFold.lower flags.ascii c.toNat)
    else items.any fun item => item.has flags.ascii c.toNat
  found != negated

/-- Whether two characters are the same, case ignored if the flags say so. -/
def sameChar (flags : Flags) (c d : Char) : Bool :=
  if flags.ignoreCase then
    CharFold.lower flags.ascii c.toNat == CharFold.lower flags.ascii d.toNat
  else c == d

end ContentModel
