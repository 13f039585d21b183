import ContentModel.CommandLine.Literal.Token

/-!
# Literals

The written values that a tag may have as parameters: numbers, quoted texts, truth values,
nothing, and tuples, sets and dictionaries of such values. A number may have a sign, and a real
number an imaginary one added or taken off. Sets and dictionaries are no members of sets and no
keys.

* `Literal.isLiteral` tells whether a text is a literal.

The functions from `Literal.sum` on read a form at the front of some tokens and give back the
tokens after it.
-/

namespace ContentModel.CommandLine

/-- What a part of a literal is. -/
inductive LiteralForm
  | number (imaginary : Bool)
  | signed (imaginary : Bool)
  /-- Any other value that can be a key. -/
  | fixed
  /-- A value that cannot be a key, such as a set or what holds one. -/
  | changing
  /-- The word before the brackets of an empty set, which is no value. -/
  | setWord
  deriving DecidableEq, Repr

namespace LiteralForm

/-- Whether a form is a value. -/
def isValue (form : LiteralForm) : Bool := form != .setWord

/-- Whether a form is a value that can be a key. -/
def isKey (form : LiteralForm) : Bool := form.isValue && form != .changing

/-- Whether a form is a number to which an imaginary one may be added. -/
def isReal (form : LiteralForm) : Bool := form == .number false || form == .signed false

end LiteralForm

namespace Literal

/-- Whether a token is a plus or minus. -/
def isSign (token : LiteralToken) : Bool := token == .mark '+' || token == .mark '-'

/-- Whether a token is a quoted text. -/
def isText (token : LiteralToken) : Bool := token == .text false || token == .text true

/-- A set word with brackets after it, if they are there. -/
def called (form : LiteralForm) : List LiteralToken → LiteralForm × List LiteralToken
  | .mark '(' :: .mark ')' :: rest =>
    if form = .setWord then (.changing, rest) else (form, .mark '(' :: .mark ')' :: rest)
  | rest => (form, rest)

/-- A tuple of values, all of which can be keys or not. -/
def tuple (keys : Bool) : LiteralForm := if keys then .fixed else .changing

mutual

/-- A value, or a set word without its brackets. -/
def sum : (fuel : Nat) → List LiteralToken → Option (LiteralForm × List LiteralToken)
  | 0, _ => none
  | fuel + 1, tokens => do
    let (form, rest) ← unary fuel tokens
    sumFrom fuel form rest

/-- A value with the imaginary numbers that are added to it, of which there may be one. -/
def sumFrom : (fuel : Nat) → LiteralForm → List LiteralToken →
    Option (LiteralForm × List LiteralToken)
  | 0, _, _ => none
  | _ + 1, form, [] => some (form, [])
  | fuel + 1, form, token :: rest =>
    if isSign token then do
      let (next, rest) ← unary fuel rest
      if form.isReal && next = .number true then sumFrom fuel .fixed rest else none
    else some (form, token :: rest)

/-- A value that is no sum. -/
def unary : (fuel : Nat) → List LiteralToken → Option (LiteralForm × List LiteralToken)
  | 0, _ => none
  | _ + 1, [] => none
  | fuel + 1, token :: rest =>
    if isSign token then
      match unary fuel rest with
      | some (.number imaginary, rest) => some (.signed imaginary, rest)
      | _ => none
    else atom fuel token rest

/-- A value without a sign that begins with a token. -/
def atom : (fuel : Nat) → LiteralToken → List LiteralToken →
    Option (LiteralForm × List LiteralToken)
  | 0, _, _ => none
  | _ + 1, .number imaginary, rest => some (.number imaginary, rest)
  | _ + 1, .text bytes, rest =>
    if (rest.takeWhile isText).all (· == .text bytes) then some (.fixed, rest.dropWhile isText)
    else none
  | _ + 1, .constant, rest => some (.fixed, rest)
  | _ + 1, .setWord, rest => some (called .setWord rest)
  | fuel + 1, .mark '(', rest =>
    match rest with
    | .mark ')' :: rest => some (.fixed, rest)
    | rest => do
      let (form, rest) ← sum fuel rest
      match rest with
      | .mark ')' :: rest => some (called form rest)
      | .mark ',' :: rest => do
        let (keys, rest) ← items fuel (some (.mark ')')) rest
        if form.isValue then some (tuple (keys && form.isKey), rest) else none
      | _ => none
  | fuel + 1, .mark '\x7b', rest =>
    match rest with
    | .mark '\x7d' :: rest => some (.changing, rest)
    | rest => do
      let (form, rest) ← sum fuel rest
      if !form.isKey then none
      else
        match rest with
        | .mark '\x7d' :: rest => some (.changing, rest)
        | .mark ',' :: rest => do
          let (keys, rest) ← items fuel (some (.mark '\x7d')) rest
          if keys then some (.changing, rest) else none
        | .mark ':' :: rest => (pairsFrom fuel rest).map fun rest => (.changing, rest)
        | _ => none
  | _ + 1, .mark _, _ => none

/-- Values with commas between them up to a token that ends them, or to the end of all: whether
all of them can be keys. -/
def items : (fuel : Nat) → (close : Option LiteralToken) → List LiteralToken →
    Option (Bool × List LiteralToken)
  | 0, _, _ => none
  | fuel + 1, close, tokens =>
    if tokens.head? = close then some (true, tokens.drop 1)
    else do
      let (form, rest) ← sum fuel tokens
      if !form.isValue then none
      else if rest.head? = close then some (form.isKey, rest.drop 1)
      else
        match rest with
        | .mark ',' :: rest => do
          let (keys, rest) ← items fuel close rest
          some (form.isKey && keys, rest)
        | _ => none

/-- The rest of a dictionary after a key and its colon. -/
def pairsFrom : (fuel : Nat) → List LiteralToken → Option (List LiteralToken)
  | 0, _ => none
  | fuel + 1, tokens => do
    let (value, rest) ← sum fuel tokens
    if !value.isValue then none
    else
      match rest with
      | .mark '\x7d' :: rest => some rest
      | .mark ',' :: .mark '\x7d' :: rest => some rest
      | .mark ',' :: rest => do
        let (key, rest) ← sum fuel rest
        match key.isKey, rest with
        | true, .mark ':' :: rest => pairsFrom fuel rest
        | _, _ => none
      | _ => none

end

/-- Whether tokens make up one value, or several with commas between them. -/
def isValue (tokens : List LiteralToken) : Bool :=
  !tokens.isEmpty && (items (8 * tokens.length + 8) none tokens).isSome

/-- Whether a text is a literal. -/
def isLiteral (text : List Char) : Bool :=
  match LiteralToken.read text with
  | some tokens => isValue tokens
  | none => false

end Literal

end ContentModel.CommandLine
