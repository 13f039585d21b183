import ContentModel.CommandLine.Literal
import ContentModel.CommandLine.Style

/-!
# Marked-up text

Text for the console, in which tags in brackets set the style: `[bold]word[/bold]`. A tag begins
with a small ASCII letter or one of `#`, `/` and `@`, and one that begins with `/` ends the style
it names, or the last one if it names none. A backslash before a bracket keeps it from being a
tag. A tag may have parameters after an equals sign. Those of a tag that begins with `@` are the
name of a handler and arguments for it, and have to be a literal in the end; those of other tags
belong to the style.

* `Markup.read` sorts a text into characters and the styles of their spans;
* `Markup.plain` is the text without its tags;
* `Markup.styled` puts a text between tags;
* `MarkupError` lists what can be wrong.
-/

namespace ContentModel.CommandLine

/-- What is wrong with a marked-up text. -/
inductive MarkupError
  /-- A tag ends a style which was not begun. -/
  | unmatched (name : String)
  /-- The parameters for a handler are no literal. -/
  | badParameters (text : String)
  /-- A style has a colour one of whose parts is no number. -/
  | badColorPart
  deriving DecidableEq, Repr

namespace Markup

/-! ## Tags -/

/-- A part of a marked-up text. -/
inductive Part
  | chars (text : List Char)
  /-- The text between a bracket and the next. -/
  | tag (body : List Char)
  deriving DecidableEq, Repr

/-- Whether a tag may begin with a character. -/
def beginsTag (c : Char) : Bool := ('a' ≤ c && c ≤ 'z') || c = '#' || c = '/' || c = '@'

/-- The parts that a finished tag gives, from the text before it in reverse and its own text.
Of the backslashes before it every second one stays, and an odd one takes its meaning. -/
def finished (before body : List Char) : List Part :=
  let slashes := (before.takeWhile (· == '\\')).length
  let text := (before.dropWhile (· == '\\')).reverse
  [.chars text, .chars (List.replicate (slashes / 2) '\\'),
    if slashes % 2 = 0 then .tag body else .chars ('[' :: (body ++ [']']))]

/-- The parts of a text, given the text since the last tag in reverse, and what has been read of
a tag in reverse, if one is open. -/
def parts (before : List Char) : (body? : Option (List Char)) → List Char → List Part
  | none, [] => [.chars before.reverse]
  | some body, [] => [.chars (body ++ '[' :: before).reverse]
  | none, c :: rest =>
    if c = '[' then parts before (some []) rest else parts (c :: before) none rest
  | some body, c :: rest =>
    if c = '[' then parts (body ++ '[' :: before) (some []) rest
    else if body.isEmpty && !beginsTag c then parts (c :: '[' :: before) none rest
    else if c = ']' then finished before body.reverse ++ parts [] none rest
    else parts before (some (c :: body)) rest

/-! ## Handlers -/

/-- Whether a character may stand in the name of a handler. -/
def isHandlerChar (c : Char) : Bool := Text.isWord c || c = '.'

/-- The arguments for a handler: those in parentheses after its name, none after a bare name, or
all of a text that is neither. -/
def handlerArguments (parameters : List Char) : List Char :=
  match parameters.dropWhile isHandlerChar with
  | [] => ['(', ')']
  | '(' :: rest =>
    if rest.getLast? = some ')' && !rest.contains '\n' then '(' :: rest else parameters
  | _ => parameters

/-- Whether a handler can be called with parameters. -/
def isHandler (parameters : String) : Bool :=
  parameters.isEmpty
    || Literal.isLiteral (handlerArguments (Text.trimChars Text.isBlank parameters.toList))

/-! ## Spans -/

/-- A style that was begun, with the number of characters before it. -/
structure OpenTag where
  start : Nat
  /-- The name in the form under which names are compared. -/
  name : String
  parameters? : Option String
  deriving DecidableEq, Repr

/-- The style of a span of characters from a number to another. -/
structure Span where
  start : Nat
  stop : Nat
  style : String
  deriving DecidableEq, Repr

/-- A text with the styles of its spans. -/
structure Marked where
  text : List Char
  spans : List Span
  deriving DecidableEq, Repr

/-- The name of a style in the form under which names are compared. -/
def styleName (name : List Char) : Except MarkupError String :=
  match Style.normal (String.ofList name) with
  | .ok name => .ok name
  | .error _ => .error .badColorPart

/-- Whether a tag names a handler. -/
def OpenTag.isHandled (opened : OpenTag) : Bool := opened.name.toList.head? = some '@'

/-- The style of a tag in words. -/
def OpenTag.style (opened : OpenTag) : String :=
  match opened.parameters? with
  | none => opened.name
  | some parameters => opened.name ++ (" " ++ parameters)

/-- The span of a tag that ends before a number of characters. Handlers have no style. -/
def OpenTag.close (stop : Nat) (opened : OpenTag) : Except MarkupError (List Span) :=
  if opened.isHandled then
    if isHandler (opened.parameters?.getD "") then .ok []
    else .error (.badParameters (opened.parameters?.getD ""))
  else .ok [⟨opened.start, stop, opened.style⟩]

/-- The last tag of a name among open tags, the last ones first, and the others. -/
def takeNamed (name : String) : List OpenTag → Option (OpenTag × List OpenTag)
  | [] => none
  | opened :: rest =>
    if opened.name = name then some (opened, rest)
    else (takeNamed name rest).map fun (found, others) => (found, opened :: others)

/-- The tag that a closing tag ends, and the other open tags. -/
def takeClosed (body : List Char) (open_ : List OpenTag) :
    Except MarkupError (OpenTag × List OpenTag) :=
  match Text.trimChars Text.isBlank (body.takeWhile (· != '=')), open_ with
  | [], [] => .error (.unmatched "")
  | [], opened :: others => .ok (opened, others)
  | name, open_ =>
    match styleName name with
    | .error error => .error error
    | .ok name =>
      match takeNamed name open_ with
      | some found => .ok found
      | none => .error (.unmatched name)

/-- The parameters of a tag, if it has any. -/
def parameters? (body : List Char) : Option String :=
  match body.dropWhile (· != '=') with
  | [] => none
  | _ :: parameters => some (String.ofList parameters)

/-- Whether a character is shown; a few control characters are left out. -/
def isShown (c : Char) : Bool :=
  c.toNat != 7 && c.toNat != 8 && c.toNat != 11 && c.toNat != 12 && c.toNat != 13

/-- A text between tags as it is shown: a backslash goes before a bracket. -/
def shown : List Char → List Char
  | [] => []
  | '\\' :: '[' :: rest => '[' :: shown rest
  | c :: rest => if isShown c then c :: shown rest else shown rest

/-- Parts as text and spans, given the number of characters before them and the open tags, the
last ones first. -/
def readParts (count : Nat) (open_ : List OpenTag) : List Part → Except MarkupError Marked
  | [] => .ok ⟨[], open_.map fun opened => ⟨opened.start, count, opened.style⟩⟩
  | .chars text :: rest => do
    let text := shown text
    let marked ← readParts (count + text.length) open_ rest
    return { marked with text := text ++ marked.text }
  | .tag ('/' :: body) :: rest => do
    let (opened, others) ← takeClosed body open_
    let spans ← opened.close count
    let marked ← readParts count others rest
    return { marked with spans := spans ++ marked.spans }
  | .tag body :: rest => do
    let name ← styleName (body.takeWhile (· != '='))
    readParts count (⟨count, name, parameters? body⟩ :: open_) rest

/-- Sorts a marked-up text into characters and styles. -/
def read (text : String) : Except MarkupError Marked := readParts 0 [] (parts [] none text.toList)

/-- Whether the style of a span of a text is looked up. In a text of several lines it has to cover
something in a line. -/
def Span.isUsed (text : List Char) (span : Span) : Bool :=
  !text.contains '\n' || ((text.take span.stop).drop span.start).any (· != '\n')

/-- Whether the style of a span has a colour one of whose parts is no number. -/
def Span.isBroken (span : Span) : Bool :=
  match Style.read span.style with
  | .error .badColorPart => true
  | _ => false

/-- A text whose styles have been looked up. What is no style is passed over. -/
def Marked.plain (marked : Marked) : Except MarkupError String :=
  let used := marked.spans.filter (Span.isUsed marked.text)
  if used.any Span.isBroken then .error .badColorPart else .ok (String.ofList marked.text)

/-- A marked-up text without its tags. -/
def plain (text : String) : Except MarkupError String := do (← read text).plain

/-- A text in a style, marked up. -/
def styled (style text : String) : String :=
  "[" ++ (style ++ ("]" ++ (text ++ ("[/" ++ (style ++ "]")))))

end Markup

end ContentModel.CommandLine
