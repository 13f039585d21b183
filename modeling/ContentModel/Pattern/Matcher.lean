import ContentModel.Pattern.CharSet

/-!
# Matching

A backtracking matcher: each pattern tries its ways to match in order, and hands the state
after each of them to what comes next.

* `Matching.State` is a place in a text with the groups captured so far;
* `Pattern.run` matches a pattern, given what comes next;
* `Matching.greedy`, `reluctant` and `possessive` repeat a body; a turn that takes no
  character is the last one;
* `Pattern.found` tells whether a pattern matches anywhere in a text.
-/

namespace ContentModel

namespace Matching

/-- A place in a text, and the texts that groups have captured. -/
structure State where
  /-- The characters before the place, the nearest first. -/
  before : List Char
  after : List Char
  /-- The number of characters before the place. -/
  position : Nat
  /-- The last text captured by each group. -/
  captures : List (Nat × List Char)

/-- The state at the beginning of a text. -/
def State.start (text : List Char) : State := ⟨[], text, 0, []⟩

/-- The state one character further on. -/
def State.advance (s : State) : Option (Char × State) :=
  match s.after with
  | [] => none
  | c :: rest =>
    some (c, { s with before := c :: s.before, after := rest, position := s.position + 1 })

/-- The state a number of characters back. -/
def State.back (s : State) : Nat → Option State
  | 0 => some s
  | n + 1 =>
    match s.before with
    | [] => none
    | c :: rest =>
      State.back { s with before := rest, after := c :: s.after, position := s.position - 1 } n

/-- The text captured by a group. -/
def State.captured (s : State) (number : Nat) : Option (List Char) :=
  (s.captures.find? fun capture => capture.1 == number).map (·.2)

/-- The state with the text since an earlier one captured by a group. -/
def State.capture (s earlier : State) (number : Nat) : State :=
  { s with
    captures :=
      (number, earlier.after.take (s.position - earlier.position))
        :: s.captures.filter fun capture => capture.1 != number }

/-- What comes after a part of a pattern. -/
abbrev Next := State → Option State

/-- Takes one character of a kind. -/
def one (p : Char → Bool) (s : State) (next : Next) : Option State :=
  match s.advance with
  | some (c, s') => if p c then next s' else none
  | none => none

/-- Takes the characters of a text. -/
def literally (flags : Flags) : List Char → State → Next → Option State
  | [], s, next => next s
  | d :: rest, s, next => one (sameChar flags d) s fun s' => literally flags rest s' next

/-- Whether a place satisfies an anchor. -/
def holds (flags : Flags) (a : Anchor) (s : State) : Bool :=
  let isWord (c : Char) : Bool := CharClass.word.has flags.ascii c.toNat
  let wordBefore := (s.before.head?.map isWord).getD false
  let wordAfter := (s.after.head?.map isWord).getD false
  let textEmpty := s.before.isEmpty && s.after.isEmpty
  match a with
  | .lineStart => s.before.isEmpty || (flags.multiline && s.before.head? == some '\n')
  | .lineEnd =>
    s.after.isEmpty || s.after == ['\n'] || (flags.multiline && s.after.head? == some '\n')
  | .textStart => s.before.isEmpty
  | .textEnd => s.after.isEmpty
  | .wordBoundary => !textEmpty && wordBefore != wordAfter
  | .noWordBoundary => !textEmpty && wordBefore == wordAfter

/-- Whether a number of turns leaves room for another one. -/
def underLimit (count : Nat) (most : Option Nat) : Bool :=
  match most with
  | none => true
  | some n => count < n

/-- A body repeated as often as possible first. `last` is where the turn before began. -/
def greedy (body : State → Next → Option State) (least : Nat) (most : Option Nat) (next : Next) :
    (fuel count : Nat) → (last : Option Nat) → State → Option State
  | 0, _, _, _ => none
  | fuel + 1, count, last, s =>
    if count < least then body s (greedy body least most next fuel (count + 1) last)
    else if underLimit count most && last != some s.position then
      match body s (greedy body least most next fuel (count + 1) (some s.position)) with
      | some result => some result
      | none => next s
    else next s

/-- A body repeated as seldom as possible first. -/
def reluctant (body : State → Next → Option State) (least : Nat) (most : Option Nat)
    (next : Next) : (fuel count : Nat) → (last : Option Nat) → State → Option State
  | 0, _, _, _ => none
  | fuel + 1, count, last, s =>
    if count < least then body s (reluctant body least most next fuel (count + 1) last)
    else
      match next s with
      | some result => some result
      | none =>
        if underLimit count most && last != some s.position then
          body s (reluctant body least most next fuel (count + 1) (some s.position))
        else none

/-- The state after a body was repeated as often as possible, each turn keeping to its first
match. -/
def possessive (body : State → Next → Option State) (least : Nat) (most : Option Nat) :
    (fuel count : Nat) → (last : Option Nat) → State → Option State
  | 0, _, _, _ => none
  | fuel + 1, count, last, s =>
    if count < least then
      (body s some).bind (possessive body least most fuel (count + 1) last)
    else if underLimit count most && last != some s.position then
      match body s some with
      | some s' => possessive body least most fuel (count + 1) (some s.position) s'
      | none => some s
    else some s

/-- More turns than a repetition can take from a state: each turn beyond the least number takes
a character, but for the last one. -/
def turns (least : Nat) (s : State) : Nat := least + s.after.length + 2

end Matching

open Matching in
/-- Matches a pattern at a state; `next` decides whether a way to match is accepted. -/
def Pattern.run (flags : Flags) : Pattern → State → Next → Option State
  | .empty, s, next => next s
  | .char code, s, next => one (matchesChar flags code) s next
  | .notChar code, s, next => one (fun c => !matchesChar flags code c) s next
  | .set negated items, s, next => one (matchesSet flags negated items) s next
  | .anyChar, s, next => one (fun c => flags.dotAll || c != '\n') s next
  | .anchor a, s, next => if holds flags a s then next s else none
  | .seq first second, s, next => first.run flags s fun s' => second.run flags s' next
  | .alt first second, s, next =>
    match first.run flags s next with
    | some result => some result
    | none => second.run flags s next
  | .group number body, s, next => body.run flags s fun s' => next (s'.capture s number)
  | .scoped change body, s, next => body.run (flags.change change) s next
  | .atomic body, s, next => (body.run flags s some).bind next
  | .repeated .greedy least most body, s, next =>
    greedy (body.run flags) least most next (turns least s) 0 none s
  | .repeated .reluctant least most body, s, next =>
    reluctant (body.run flags) least most next (turns least s) 0 none s
  | .repeated .possessive least most body, s, next =>
    (possessive (body.run flags) least most (turns least s) 0 none s).bind next
  | .lookAhead negated body, s, next =>
    match body.run flags s some with
    | some s' => if negated then none else next { s with captures := s'.captures }
    | none => if negated then next s else none
  | .lookBehind negated body, s, next =>
    match (s.back body.width.least).bind fun s' => body.run flags s' some with
    | some s' => if negated then none else next { s with captures := s'.captures }
    | none => if negated then next s else none
  | .backref number _, s, next =>
    match s.captured number with
    | some text => literally flags text s next
    | none => none
  | .conditional number yes no, s, next =>
    match s.captured number with
    | some _ => yes.run flags s next
    | none => no.run flags s next

namespace Matching

/-- Whether a pattern matches at the state or further on. -/
def foundFrom (flags : Flags) (pattern : Pattern) (before : List Char) (position : Nat) :
    List Char → Bool
  | [] => (pattern.run flags ⟨before, [], position, []⟩ some).isSome
  | c :: rest =>
    (pattern.run flags ⟨before, c :: rest, position, []⟩ some).isSome
      || foundFrom flags pattern (c :: before) (position + 1) rest

end Matching

/-- Whether a pattern matches anywhere in a text. -/
def Pattern.found (pattern : Pattern) (flags : Flags) (text : String) : Bool :=
  Matching.foundFrom flags pattern [] 0 text.toList

end ContentModel
