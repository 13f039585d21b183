/-!
# Patterns

The syntax trees of regular expressions with captures, look-around and backreferences.

* `Pattern` is the tree, characters being code points;
* `Flags` are the settings a part of a pattern is matched under, `FlagChange` changes them for
  a part;
* `Pattern.width` bounds the number of characters that a pattern can match;
* `Pattern.wellFormed` asks that every look-behind has a fixed width;
* `Pattern.ofItems` puts items one after another.
-/

namespace ContentModel

/-- The settings under which a part of a pattern is matched. -/
structure Flags where
  ignoreCase : Bool := false
  /-- The line anchors also match at the line feeds within a text. -/
  multiline : Bool := false
  /-- The dot also matches a line feed. -/
  dotAll : Bool := false
  /-- The character classes and letter case know ASCII only. -/
  ascii : Bool := false
  deriving DecidableEq

/-- Settings that a part of a pattern sets for itself; the others it inherits. -/
structure FlagChange where
  ignoreCase : Option Bool := none
  multiline : Option Bool := none
  dotAll : Option Bool := none
  ascii : Option Bool := none
  verbose : Option Bool := none
  deriving DecidableEq

/-- The settings after a change. -/
def Flags.change (flags : Flags) (change : FlagChange) : Flags where
  ignoreCase := change.ignoreCase.getD flags.ignoreCase
  multiline := change.multiline.getD flags.multiline
  dotAll := change.dotAll.getD flags.dotAll
  ascii := change.ascii.getD flags.ascii

/-- A named class of characters. -/
inductive CharClass
  | digit
  | space
  | word
  deriving DecidableEq

/-- A part of a character set. -/
inductive SetItem
  | single (code : Nat)
  /-- The code points from the first to the last. -/
  | range (first last : Nat)
  /-- The characters of a class, or all others. -/
  | member (negated : Bool) (charClass : CharClass)
  deriving DecidableEq

/-- A condition on a place between characters. -/
inductive Anchor
  /-- `^` -/
  | lineStart
  /-- `$`: at the end, or before a line feed that ends the text. -/
  | lineEnd
  | textStart
  | textEnd
  | wordBoundary
  | noWordBoundary
  deriving DecidableEq

/-- How a repetition chooses the number of its turns. -/
inductive Repetition
  /-- As many turns as possible first. -/
  | greedy
  /-- As few turns as possible first. -/
  | reluctant
  /-- As many turns as possible, and no others. -/
  | possessive
  deriving DecidableEq

/-- The least and the greatest number of characters of a match. -/
structure Width where
  least : Nat
  /-- `none` when there is no bound. -/
  greatest : Option Nat
  deriving DecidableEq

namespace Width

/-- The width of an empty match. -/
def zero : Width := ⟨0, some 0⟩

/-- The width of one character. -/
def one : Width := ⟨1, some 1⟩

/-- The width of two matches in a row. -/
def add (a b : Width) : Width :=
  ⟨a.least + b.least, do return (← a.greatest) + (← b.greatest)⟩

/-- The width of one of two matches. -/
def join (a b : Width) : Width :=
  ⟨min a.least b.least, do return max (← a.greatest) (← b.greatest)⟩

/-- The width of a number of matches in a row. -/
def times (a : Width) (least : Nat) (most : Option Nat) : Width :=
  ⟨a.least * least,
    if a.greatest = some 0 ∨ most = some 0 then some 0
    else do return (← a.greatest) * (← most)⟩

end Width

/-- A regular expression. -/
inductive Pattern
  /-- Matches without taking a character. -/
  | empty
  | char (code : Nat)
  | notChar (code : Nat)
  | set (negated : Bool) (items : List SetItem)
  /-- The dot. -/
  | anyChar
  | anchor (a : Anchor)
  | seq (first second : Pattern)
  | alt (first second : Pattern)
  /-- Keeps what its body matched under a number. -/
  | group (number : Nat) (body : Pattern)
  /-- Changes settings for its body. -/
  | scoped (change : FlagChange) (body : Pattern)
  /-- Keeps to the first match of its body. -/
  | atomic (body : Pattern)
  | repeated (kind : Repetition) (least : Nat) (most : Option Nat) (body : Pattern)
  | lookAhead (negated : Bool) (body : Pattern)
  | lookBehind (negated : Bool) (body : Pattern)
  /-- What a group of known width matched, once more. -/
  | backref (number : Nat) (width : Width)
  /-- One of two patterns, by whether a group has matched. -/
  | conditional (number : Nat) (yes no : Pattern)
  deriving DecidableEq

namespace Pattern

/-- The bounds on the number of characters of a match. -/
def width : Pattern → Width
  | .empty => .zero
  | .char _ => .one
  | .notChar _ => .one
  | .set _ _ => .one
  | .anyChar => .one
  | .anchor _ => .zero
  | .seq first second => first.width.add second.width
  | .alt first second => first.width.join second.width
  | .group _ body => body.width
  | .scoped _ body => body.width
  | .atomic body => body.width
  | .repeated _ least most body => body.width.times least most
  | .lookAhead _ _ => .zero
  | .lookBehind _ _ => .zero
  | .backref _ width => width
  | .conditional _ yes no => yes.width.join no.width

/-- The greatest width of a look-behind that counts as fixed. -/
def maxLookBehind : Nat := Nat.pow 2 32 - 2

/-- Whether every look-behind has a fixed width within bounds. -/
def wellFormed : Pattern → Bool
  | .seq first second => first.wellFormed && second.wellFormed
  | .alt first second => first.wellFormed && second.wellFormed
  | .group _ body => body.wellFormed
  | .scoped _ body => body.wellFormed
  | .atomic body => body.wellFormed
  | .repeated _ _ _ body => body.wellFormed
  | .lookAhead _ body => body.wellFormed
  | .lookBehind _ body =>
    body.wellFormed && body.width.least ≤ maxLookBehind
      && body.width.greatest == some body.width.least
  | .conditional _ yes no => yes.wellFormed && no.wellFormed
  | _ => true

/-- Whether a pattern has a look-behind of a width that a matcher cannot hold in 31 bits. -/
def looksFarBehind : Pattern → Bool
  | .seq first second => first.looksFarBehind || second.looksFarBehind
  | .alt first second => first.looksFarBehind || second.looksFarBehind
  | .group _ body => body.looksFarBehind
  | .scoped _ body => body.looksFarBehind
  | .atomic body => body.looksFarBehind
  | .repeated _ _ _ body => body.looksFarBehind
  | .lookAhead _ body => body.looksFarBehind
  | .lookBehind _ body => body.looksFarBehind || Nat.pow 2 31 ≤ body.width.least
  | .conditional _ yes no => yes.looksFarBehind || no.looksFarBehind
  | _ => false

/-- Whether a pattern repeats anything. -/
def repeats : Pattern → Bool
  | .seq first second => first.repeats || second.repeats
  | .alt first second => first.repeats || second.repeats
  | .group _ body => body.repeats
  | .scoped _ body => body.repeats
  | .atomic body => body.repeats
  | .repeated .. => true
  | .lookAhead _ body => body.repeats
  | .lookBehind _ body => body.repeats
  | .conditional _ yes no => yes.repeats || no.repeats
  | _ => false

/-- Items one after another. -/
def ofItems : List Pattern → Pattern
  | [] => .empty
  | [item] => item
  | item :: next :: rest => .seq item (ofItems (next :: rest))

/-- One of several alternatives, the first ones first. -/
def ofAlternatives : Pattern → List Pattern → Pattern
  | first, [] => first
  | first, next :: rest => .alt first (ofAlternatives next rest)

end Pattern

end ContentModel
