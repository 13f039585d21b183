import ContentModel.Numeric.Numeral
import ContentModel.Pattern.Syntax
import ContentModel.Text.CharName
import ContentModel.Text.HexDigit
import ContentModel.Text.Name
import ContentModel.Text.Word

/-!
# Reading patterns

The reader of the written form of regular expressions.

* `PatternToken` is a character or an escape, `PatternToken.split` cuts a text into tokens;
* `PatternError` lists why a text is no pattern;
* `Pattern.parse` reads a whole pattern with its global settings.

A setting for the whole pattern may stand only at its beginning. A group must be closed before it is
referred to, and inside a look-behind only groups from before it may be referred to. Groups within
each other are read as far as the stack has room for them.
-/

namespace ContentModel

/-- Why a text is refused although it may keep to the notation. -/
inductive PatternRefusal
  /-- It repeats something 4294967295 times or more. -/
  | repetitionTooLarge
  /-- It gives the number of repetitions in more than 4300 digits. -/
  | repetitionTooLong (digits : Nat)
  /-- It asks for both the ASCII and the Unicode classes. -/
  | contradictoryFlags
  /-- It looks back over 2147483648 characters or more. -/
  | lookBehindTooWide
  /-- Its groups stand within each other too deeply to be read. -/
  | nestedTooDeep
  deriving DecidableEq, Repr

/-- Why a text is no pattern. -/
inductive PatternError
  /-- It breaks a rule of the notation. -/
  | invalid
  | refused (reason : PatternRefusal)
  deriving DecidableEq, Repr

/-- A character of a written pattern, or one with a backslash before it. -/
inductive PatternToken
  | plain (c : Char)
  | escaped (c : Char)
  /-- A backslash at the end. -/
  | dangling
  deriving DecidableEq

/-- The tokens of a text. -/
def PatternToken.split : List Char → List PatternToken
  | [] => []
  | ['\\'] => [.dangling]
  | '\\' :: c :: rest => .escaped c :: split rest
  | c :: rest => .plain c :: split rest

namespace PatternReader

/-- A piece of a sequence. Groups that neither capture nor change settings are remembered as
such, since they may be repeated whatever they hold. -/
inductive Piece
  | node (p : Pattern)
  | bracketed (items : List Pattern)

/-- What has been read so far of a pattern. -/
structure Progress where
  rest : List PatternToken
  /-- The widths of the capturing groups in order; `none` while a group is open. -/
  groups : List (Option Width) := []
  names : List (List Char × Nat) := []
  /-- Inside a look-behind, the number of the first group that opened there. -/
  barrier : Option Nat := none
  flags : Flags := {}
  verbose : Bool := false
  unicode : Bool := false
  /-- The setting under which nothing may be repeated. -/
  template : Bool := false
  /-- The groups that conditions ask for by number. -/
  conditions : List Nat := []
  /-- The calls on the stack for the groups around the place. -/
  calls : Nat := 0

/-- A step of reading. -/
abbrev Reader := StateT Progress (Except PatternError)

/-- Gives up. -/
def invalid {α : Type} : Reader α := throw .invalid

/-- Refuses the pattern. -/
def refuse {α : Type} (reason : PatternRefusal) : Reader α := throw (.refused reason)

/-- The next token, which stays. -/
def peek : Reader (Option PatternToken) := do
  match (← get).rest with
  | [] => return none
  | .dangling :: _ => invalid
  | token :: _ => return some token

/-- The next token, which is taken. -/
def take : Reader (Option PatternToken) := do
  let token ← peek
  modify fun p => { p with rest := p.rest.drop 1 }
  discard peek
  return token

/-- Takes a character if it comes next. -/
def accept (c : Char) : Reader Bool := do
  if (← peek) == some (.plain c) then
    discard take
    return true
  else return false

/-- Takes a character that must come next. -/
def expect (c : Char) : Reader Unit := do
  unless ← accept c do invalid

/-- Takes at most `n` characters of a kind. -/
def takeWhile (p : Char → Bool) : (n : Nat) → Reader (List Char)
  | 0 => return []
  | n + 1 => do
    match ← peek with
    | some (.plain c) =>
      if p c then
        discard take
        return c :: (← takeWhile p n)
      else return []
    | _ => return []

/-- Takes the characters up to another one, which is taken too. There must be some, and no
escapes among them. -/
def takeUntil (stop : Char) : (fuel : Nat) → Reader (List Char)
  | 0 => invalid
  | fuel + 1 => do
    match ← take with
    | some (.plain c) => if c = stop then return [] else return c :: (← takeUntil stop fuel)
    | _ => invalid

/-- A nonempty text up to a character. -/
def nameUntil (stop : Char) : Reader (List Char) := do
  let name ← takeUntil stop ((← get).rest.length + 1)
  if name.isEmpty then invalid else return name

/-- The number of the next group. -/
def nextGroup (p : Progress) : Nat := p.groups.length + 1

/-- The width of a group that is closed. -/
def closedWidth? (p : Progress) (number : Nat) : Option Width :=
  if number = 0 then none else (p.groups[number - 1]?).join

/-- Refuses a group that a look-behind may not refer to. -/
def checkBarrier (number : Nat) : Reader Unit := do
  let p ← get
  match p.barrier with
  | none => return
  | some barrier =>
    if (closedWidth? p number).isNone || barrier ≤ number then invalid

/-- A reference to a group that is closed. -/
def backreference (number : Nat) : Reader Pattern := do
  match closedWidth? (← get) number with
  | none => invalid
  | some width =>
    checkBarrier number
    return .backref number width

/-- Whether a character is an octal digit. -/
def isOctalDigit (c : Char) : Bool := '0' ≤ c && c ≤ '7'

/-- Whether a character is an ASCII letter. -/
def isAsciiLetter (c : Char) : Bool := ('a' ≤ c && c ≤ 'z') || ('A' ≤ c && c ≤ 'Z')

/-- The number that octal digits write. -/
def octalValue (digits : List Char) : Nat :=
  digits.foldl (fun n c => 8 * n + (c.toNat - 0x30)) 0

/-- A code point in exactly `n` hexadecimal digits. -/
def hexEscape (n : Nat) : Reader Nat := do
  let digits ← takeWhile Text.isHexDigit n
  let code := Text.hexNumber digits
  if digits.length = n && code ≤ 0x10FFFF then return code else invalid

/-- The class that a letter after a backslash names. -/
def classEscape? : Char → Option SetItem
  | 'd' => some (.member false .digit)
  | 'D' => some (.member true .digit)
  | 's' => some (.member false .space)
  | 'S' => some (.member true .space)
  | 'w' => some (.member false .word)
  | 'W' => some (.member true .word)
  | _ => none

/-- The control character that a letter after a backslash names. -/
def controlEscape? : Char → Option Nat
  | 'a' => some 7
  | 'b' => some 8
  | 'f' => some 12
  | 'n' => some 10
  | 'r' => some 13
  | 't' => some 9
  | 'v' => some 11
  | _ => none

/-- The anchor that a letter after a backslash names. -/
def anchorEscape? : Char → Option Anchor
  | 'A' => some .textStart
  | 'Z' => some .textEnd
  | 'b' => some .wordBoundary
  | 'B' => some .noWordBoundary
  | _ => none

/-- The character whose name stands between braces. -/
def namedEscape : Reader Nat := do
  expect '\x7b'
  match Text.charNamed? (← nameUntil '\x7d') with
  | some code => return code
  | none => invalid

/-- A character that an escape of digits or of any other sign stands for. -/
def codeEscape (c : Char) : Reader Nat := do
  match controlEscape? c with
  | some code => return code
  | none =>
    if c = 'x' then hexEscape 2
    else if c = 'u' then hexEscape 4
    else if c = 'U' then hexEscape 8
    else if c = 'N' then namedEscape
    else if isAsciiLetter c then invalid
    else return c.toNat

/-- An escape inside a character set. -/
def setEscape (c : Char) : Reader SetItem := do
  match classEscape? c with
  | some item => return item
  | none =>
    if isOctalDigit c then
      let code := octalValue (c :: (← takeWhile isOctalDigit 2))
      if code ≤ 0o377 then return .single code else invalid
    else if Text.isAsciiDigit c then invalid
    else return .single (← codeEscape c)

/-- An escape outside of character sets. -/
def escape (c : Char) : Reader Pattern := do
  match anchorEscape? c, classEscape? c with
  | some a, _ => return .anchor a
  | none, some item => return .set false [item]
  | none, none =>
    if c = '0' then return .char (octalValue (← takeWhile isOctalDigit 2))
    else if Text.isAsciiDigit c then
      let second ← takeWhile Text.isAsciiDigit 1
      let third ←
        if isOctalDigit c && !second.isEmpty && second.all isOctalDigit then
          takeWhile isOctalDigit 1
        else pure []
      if third.isEmpty then backreference (Numeral.asciiValue (c :: second))
      else
        let code := octalValue (c :: (second ++ third))
        if code ≤ 0o377 then return .char code else invalid
    else return .char (← codeEscape c)

/-- One end of a range, or a single part of a set. -/
def setPart (token : PatternToken) : Reader SetItem :=
  match token with
  | .plain c => return .single c.toNat
  | .escaped c => setEscape c
  | .dangling => invalid

/-- The parts of a character set up to its closing bracket, which is not one when it comes
first. -/
def setItems : (fuel : Nat) → (parts : List SetItem) → Reader (List SetItem)
  | 0, _ => invalid
  | fuel + 1, parts => do
    match ← take with
    | none => invalid
    | some token =>
      if token = .plain ']' && !parts.isEmpty then return parts
      else
        let part ← setPart token
        if ← accept '-' then
          match ← take with
          | none => invalid
          | some (.plain ']') => return parts ++ [part, .single '-'.toNat]
          | some token =>
            match part, ← setPart token with
            | .single first, .single last =>
              if first ≤ last then setItems fuel (parts ++ [.range first last]) else invalid
            | _, _ => invalid
        else setItems fuel (parts ++ [part])

/-- A character set after its opening bracket. A set of one character is that character. -/
def charSet : Reader Pattern := do
  let negated ← accept '^'
  let parts ← setItems ((← get).rest.length + 1) []
  match parts.eraseDups with
  | [.single code] => return if negated then .notChar code else .char code
  | parts => return .set negated parts

/-- The number from which on a repetition is too large. -/
def repetitionLimit : Nat := 4294967295

/-- The number of repetitions that digits give. -/
def repetitionCount (digits : List Char) : Reader Nat := do
  if Numeral.maxDigits < digits.length then refuse (.repetitionTooLong digits.length)
  let count := Numeral.asciiValue digits
  if repetitionLimit ≤ count then refuse .repetitionTooLarge
  return count

/-- The bounds of a repetition after its opening brace, if it is one. -/
def braces : Reader (Option (Nat × Option Nat)) := do
  let start := (← get).rest
  if (← peek) == some (.plain '\x7d') then return none
  let least ← takeWhile Text.isAsciiDigit start.length
  let most ←
    if ← accept ',' then
      takeWhile Text.isAsciiDigit start.length
    else pure least
  unless ← accept '\x7d' do
    modify fun p => { p with rest := start }
    return none
  let low ← repetitionCount least
  let high ← repetitionCount most
  if most.isEmpty then return some (low, none)
  if high < low then invalid
  return some (low, some high)

/-- The kind of a repetition, from the sign after it. -/
def repetitionKind : Reader Repetition := do
  if ← accept '?' then return .reluctant
  else if ← accept '+' then return .possessive
  else return .greedy

/-- The pieces with the last one repeated. The pieces are in reverse order. -/
def repeatLast (least : Nat) (most : Option Nat) : List Piece → Reader (List Piece)
  | [] => invalid
  | .node (.anchor _) :: _ => invalid
  | .node (.repeated ..) :: _ => invalid
  | .node body :: rest => return .node (.repeated (← repetitionKind) least most body) :: rest
  | .bracketed items :: rest =>
    return .node (.repeated (← repetitionKind) least most (.ofItems items)) :: rest

/-- Whether two patterns are the same part without parts of its own. -/
def sameAtom : Pattern → Pattern → Bool
  | .char a, .char b => a == b
  | .notChar a, .notChar b => a == b
  | .set n a, .set m b => n == m && a == b
  | .anyChar, .anyChar => true
  | .anchor a, .anchor b => a == b
  | .backref a _, .backref b _ => a == b
  | _, _ => false

/-- The items that all alternatives begin with, and the alternatives without them. -/
def commonItems : List Pattern → List (List Pattern) → List Pattern × List (List Pattern)
  | [], others => ([], [] :: others)
  | item :: rest, others =>
    if others.all fun other => (other.head?.map (sameAtom item)).getD false then
      let (shared, remaining) := commonItems rest (others.map (·.drop 1))
      (item :: shared, remaining)
    else ([], (item :: rest) :: others)

/-- The parts of a set for an alternative that is a single character or a plain set. -/
def setPartsOf? : List Pattern → Option (List SetItem)
  | [.char code] => some [.single code]
  | [.set false items] => some items
  | _ => none

/-- Alternatives as items: what they have in common comes first, and alternatives of single
characters are a set. -/
def alternatives (all : List (List Pattern)) : List Pattern :=
  match all with
  | [] => []
  | [items] => items
  | first :: others =>
    let (shared, remaining) := commonItems first others
    match remaining.mapM setPartsOf? with
    | some parts => shared ++ [.set false parts.flatten.eraseDups]
    | none =>
      match remaining.map Pattern.ofItems with
      | [] => shared
      | first :: rest => shared ++ [.ofAlternatives first rest]

/-- The pieces, in reverse order, as items. -/
def itemsOf (pieces : List Piece) : List Pattern :=
  pieces.reverse.flatMap fun
    | .node p => [p]
    | .bracketed items => items

/-- Whether a character is skipped in a pattern with comments. -/
def isLayout (c : Char) : Bool := c = ' ' || ('\t' ≤ c && c ≤ '\r')

/-- Skips the rest of a line. -/
def skipLine : (fuel : Nat) → Reader Unit
  | 0 => return
  | fuel + 1 => do
    match ← take with
    | none => return
    | some (.plain '\n') => return
    | some _ => skipLine fuel

/-- Skips a comment up to its closing parenthesis. -/
def skipComment : (fuel : Nat) → Reader Unit
  | 0 => invalid
  | fuel + 1 => do
    match ← take with
    | none => invalid
    | some (.plain ')') => return
    | some _ => skipComment fuel

/-- Whether a character is the letter of a setting. -/
def isFlagLetter (c : Char) : Bool := "ismxatu".toList.contains c

/-- Settings switched on or off, as letters up to a character that ends them. -/
def flagLetters (stops : List Char) : (fuel : Nat) → Char → Reader (List Char × Char)
  | 0, _ => invalid
  | fuel + 1, c => do
    unless isFlagLetter c do invalid
    match ← take with
    | some (.plain d) =>
      if stops.contains d then return ([c], d)
      else
        let (letters, stop) ← flagLetters stops fuel d
        return (c :: letters, stop)
    | _ => invalid

/-- The change that letters switched on and letters switched off make. -/
def flagChange (on off : List Char) : FlagChange :=
  let switch (letter : Char) : Option Bool :=
    if off.contains letter then some false else if on.contains letter then some true else none
  { ignoreCase := switch 'i'
    multiline := switch 'm'
    dotAll := switch 's'
    verbose := switch 'x'
    ascii := if on.contains 'a' then some true else if on.contains 'u' then some false else none }

/-- Sets settings for the whole pattern. -/
def setGlobal (letters : List Char) : Reader Unit :=
  modify fun p =>
    { p with
      flags :=
        { ignoreCase := p.flags.ignoreCase || letters.contains 'i'
          multiline := p.flags.multiline || letters.contains 'm'
          dotAll := p.flags.dotAll || letters.contains 's'
          ascii := p.flags.ascii || letters.contains 'a' }
      verbose := p.verbose || letters.contains 'x'
      unicode := p.unicode || letters.contains 'u'
      template := p.template || letters.contains 't' }

/-- Settings after the question mark of a group, beginning with a character: settings for the
whole pattern, or a change for a part of it. -/
def groupFlags (c : Char) : Reader (Option FlagChange) := do
  let fuel := (← get).rest.length + 1
  let (on, stop) ← if c = '-' then pure ([], '-') else flagLetters [')', '-', ':'] fuel c
  if on.contains 'a' && on.contains 'u' then invalid
  if stop = ')' then
    setGlobal on
    return none
  if on.contains 't' then invalid
  let off ←
    if stop = '-' then
      match ← take with
      | some (.plain d) => pure (← flagLetters [':'] fuel d).1
      | _ => invalid
    else pure []
  if off.any "atu".toList.contains || on.any off.contains then invalid
  return some (flagChange on off)

/-- The number of a new capturing group. -/
def openGroup (name : Option (List Char)) : Reader Nat := do
  let p ← get
  let number := nextGroup p
  match name with
  | none => pure ()
  | some name =>
    if (p.names.find? fun entry => entry.1 == name).isSome then invalid
    modify fun p => { p with names := (name, number) :: p.names }
  modify fun p => { p with groups := p.groups ++ [none] }
  return number

/-- Records that a group is closed. -/
def closeGroup (number : Nat) (width : Width) : Reader Unit :=
  modify fun p => { p with groups := p.groups.set (number - 1) (some width) }

/-- The number of a group with a name. -/
def namedGroup (name : List Char) : Reader Nat := do
  unless Text.isName name do invalid
  match (← get).names.find? fun entry => entry.1 == name with
  | some (_, number) => return number
  | none => invalid

/-- The number from which on there are no groups. -/
def groupLimit : Int := 1073741823

/-- The group that a condition asks for, by name or by number. -/
def conditionGroup (text : List Char) : Reader Nat := do
  if Text.isName text then namedGroup text
  else
    match Numeral.integer? (String.ofList text) with
    | none => invalid
    | some n =>
      if n ≤ 0 || groupLimit ≤ n then invalid
      modify fun p => { p with conditions := n.toNat :: p.conditions }
      return n.toNat

/-- The calls that an empty stack has room for. -/
def maxCalls : Nat := 984

/-- Reads what stands in a group, which takes so many calls. -/
def within {α : Type} (calls : Nat) (body : Reader α) : Reader α := do
  if maxCalls < (← get).calls + calls then refuse .nestedTooDeep
  modify fun p => { p with calls := p.calls + calls }
  let result ← body
  modify fun p => { p with calls := p.calls - calls }
  return result

/-- What is told apart by the characters after an opening parenthesis. -/
inductive GroupKind
  | capturing (name : Option (List Char))
  | plain
  | scoped (change : FlagChange)
  | atomic
  | look (behind negated : Bool)
  | condition (number : Nat)
  /-- A reference, a comment or a global setting, already complete. -/
  | done (items : List Pattern)

/-- The kind of a group, read after its opening parenthesis. `atStart` tells that nothing
stands before the group. -/
def groupKind (atStart : Bool) : Reader GroupKind := do
  unless ← accept '?' do return .capturing none
  match ← take with
  | some (.plain 'P') =>
    if ← accept '<' then
      let name ← nameUntil '>'
      if Text.isName name then return .capturing (some name) else invalid
    else if ← accept '=' then
      let number ← namedGroup (← nameUntil ')')
      return .done [← backreference number]
    else invalid
  | some (.plain ':') => return .plain
  | some (.plain '#') =>
    skipComment ((← get).rest.length + 1)
    return .done []
  | some (.plain '=') => return .look false false
  | some (.plain '!') => return .look false true
  | some (.plain '<') =>
    match ← take with
    | some (.plain '=') => return .look true false
    | some (.plain '!') => return .look true true
    | _ => invalid
  | some (.plain '(') =>
    let number ← conditionGroup (← nameUntil ')')
    checkBarrier number
    return .condition number
  | some (.plain '>') => return .atomic
  | some (.plain c) =>
    match ← groupFlags c with
    | some change => if change = {} then return .plain else return .scoped change
    | none => if atStart then return .done [] else invalid
  | _ => invalid

mutual

/-- The alternatives up to a closing parenthesis or the end, as items. -/
def alternation (verbose outermost : Bool) : (fuel : Nat) → Reader (List (List Pattern))
  | 0 => invalid
  | fuel + 1 => do
    let first ← sequence verbose outermost fuel []
    if ← accept '|' then
      let global := (← get).verbose
      let verbose := if outermost then global else verbose
      return first :: (← moreAlternatives verbose outermost fuel)
    else return [first]

/-- The alternatives after the first one. -/
def moreAlternatives (verbose outermost : Bool) : (fuel : Nat) → Reader (List (List Pattern))
  | 0 => invalid
  | fuel + 1 => do
    let next ← sequence verbose false fuel []
    if ← accept '|' then
      let global := (← get).verbose
      let verbose := if outermost then global else verbose
      return next :: (← moreAlternatives verbose outermost fuel)
    else return [next]

/-- A sequence up to a bar, a closing parenthesis or the end, after the given pieces. `first`
tells that the sequence begins the whole pattern. -/
def sequence (verbose first : Bool) :
    (fuel : Nat) → (pieces : List Piece) → Reader (List Pattern)
  | 0, _ => invalid
  | fuel + 1, pieces => do
    match ← peek with
    | none => return itemsOf pieces
    | some (.plain '|') => return itemsOf pieces
    | some (.plain ')') => return itemsOf pieces
    | some token =>
      discard take
      match token with
      | .dangling => invalid
      | .escaped c => sequence verbose first fuel (.node (← escape c) :: pieces)
      | .plain c =>
        if verbose && isLayout c then sequence verbose first fuel pieces
        else if verbose && c = '#' then
          skipLine ((← get).rest.length + 1)
          sequence verbose first fuel pieces
        else
          match c with
          | '[' => sequence verbose first fuel (.node (← charSet) :: pieces)
          | '?' => sequence verbose first fuel (← repeatLast 0 (some 1) pieces)
          | '*' => sequence verbose first fuel (← repeatLast 0 none pieces)
          | '+' => sequence verbose first fuel (← repeatLast 1 none pieces)
          | '\x7b' =>
            match ← braces with
            | some (least, most) =>
              sequence verbose first fuel (← repeatLast least most pieces)
            | none => sequence verbose first fuel (.node (.char c.toNat) :: pieces)
          | '.' => sequence verbose first fuel (.node .anyChar :: pieces)
          | '^' => sequence verbose first fuel (.node (.anchor .lineStart) :: pieces)
          | '$' => sequence verbose first fuel (.node (.anchor .lineEnd) :: pieces)
          | '(' =>
            let atStart := first && pieces.isEmpty
            match ← groupKind atStart with
            | .done items =>
              let global := (← get).verbose
              let verbose := verbose || (atStart && global)
              sequence verbose first fuel ((items.map .node).reverse ++ pieces)
            | kind =>
              let piece ← groupBody verbose fuel kind
              sequence verbose first fuel (piece :: pieces)
          | c => sequence verbose first fuel (.node (.char c.toNat) :: pieces)

/-- The rest of a group of a kind, its closing parenthesis included. -/
def groupBody (verbose : Bool) : (fuel : Nat) → GroupKind → Reader Piece
  | 0, _ => invalid
  | fuel + 1, kind => do
    match kind with
    | .done items => return .bracketed items
    | .capturing name =>
      let number ← openGroup name
      let body := Pattern.ofItems (alternatives (← within 2 (alternation verbose false fuel)))
      expect ')'
      closeGroup number body.width
      return .node (.group number body)
    | .plain =>
      let items := alternatives (← within 2 (alternation verbose false fuel))
      expect ')'
      return .bracketed items
    | .scoped change =>
      let verbose := change.verbose.getD verbose
      let body := Pattern.ofItems (alternatives (← within 2 (alternation verbose false fuel)))
      expect ')'
      return .node (.scoped change body)
    | .atomic =>
      let body := Pattern.ofItems (alternatives (← within 2 (alternation verbose false fuel)))
      expect ')'
      return .node (.atomic body)
    | .look behind negated =>
      let outer := (← get).barrier
      if behind && outer.isNone then
        modify fun p => { p with barrier := some (nextGroup p) }
      let body := Pattern.ofItems (alternatives (← within 2 (alternation verbose false fuel)))
      if behind && outer.isNone then modify fun p => { p with barrier := none }
      expect ')'
      return .node (if behind then .lookBehind negated body else .lookAhead negated body)
    | .condition number =>
      let yes := Pattern.ofItems (← within 1 (sequence verbose false fuel []))
      let no ←
        if ← accept '|' then
          let no ← within 1 (sequence verbose false fuel [])
          if (← peek) == some (.plain '|') then invalid
          pure (Pattern.ofItems no)
        else pure .empty
      expect ')'
      return .node (.conditional number yes no)

end

/-- A whole pattern. -/
def whole (fuel : Nat) : Reader Pattern := do
  let body := Pattern.ofItems (alternatives (← alternation false true fuel))
  let p ← get
  if p.flags.ascii && p.unicode then refuse .contradictoryFlags
  if (← peek).isSome then invalid
  if p.conditions.any fun number => nextGroup p ≤ number then invalid
  if !body.wellFormed || (p.template && body.repeats) then invalid
  if body.looksFarBehind then refuse .lookBehindTooWide
  return body

end PatternReader

/-- The pattern that a text writes, with the settings for the whole of it. -/
def Pattern.parse (text : List Char) : Except PatternError (Pattern × Flags) :=
  let tokens := PatternToken.split text
  match (PatternReader.whole (4 * tokens.length + 8)).run { rest := tokens } with
  | .ok (pattern, progress) => .ok (pattern, progress.flags)
  | .error e => .error e

end ContentModel
