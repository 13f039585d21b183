import ContentModel.CommandLine.Arguments
import ContentModel.Numeric.Numeral
import ContentModel.Rendering.Options
import ContentModel.Validation.Build

/-!
# Commands

What can be asked for on the command line.

* `Command` is a command with its settings, `Request` a command or a text about the program;
* `Request.read` reads a request from the words of a command line.
-/

namespace ContentModel.CommandLine

/-- A command with its settings; what it works on is given by paths. -/
inductive Command
  /-- Checks an entry against a content type. -/
  | validate (contentType entry : String) (mode : Mode) (isDraft asJson : Bool)
  /-- Renders an entry as Markdown, into a file if one is named. -/
  | render (contentType entry : String) (options : RenderOptions) (output? : Option String)
  /-- Renders a rich-text document as Markdown. -/
  | richText (document : String)
  /-- Tells what the program is. -/
  | about

/-- What a command line asks for. -/
inductive Request
  | help
  | version
  | command (command : Command)

/-- The paths of the files that a command reads, in the order read. -/
def Command.inputs : Command → List String
  | .validate contentType entry .. => [contentType, entry]
  | .render contentType entry .. => [contentType, entry]
  | .richText document => [document]
  | .about => []

namespace Request

/-- The option that asks for help. -/
def helpOption : OptionRule := { name := "help" }

/-- The options before the name of a command. -/
def globalRules : List OptionRule :=
  [{ name := "version" }, { name := "verbose", letter? := some 'v' }, helpOption]

/-- The options of `validate`. -/
def validateRules : List OptionRule :=
  [{ name := "mode", takesValue := true }, { name := "draft" }, { name := "json-output" },
    helpOption]

/-- The options of `render`. -/
def renderRules : List OptionRule :=
  [{ name := "heading-level", takesValue := true }, { name := "include-system-fields" },
    { name := "no-tables" }, { name := "keep-empty" },
    { name := "title-field", takesValue := true },
    { name := "description-field", takesValue := true },
    { name := "output", letter? := some 'o', takesValue := true }, helpOption]

/-- The mode that the options of `validate` choose. -/
def readMode (arguments : Arguments) : Except UsageError Mode :=
  match arguments.value? "mode" with
  | none => .ok .read
  | some name =>
    match Mode.ofName? name with
    | some mode => .ok mode
    | none => .error (.badValue "mode" name)

/-- The heading level that the options of `render` choose. -/
def readHeadingLevel (arguments : Arguments) : Except UsageError Int :=
  match arguments.value? "heading-level" with
  | none => .ok 1
  | some text =>
    match Numeral.integer? text with
    | none => .error (.badValue "heading-level" text)
    | some n =>
      if 1 ≤ n && n ≤ 6 then .ok n else .error (.badValue "heading-level" text)

/-- The settings of a rendering that the options of `render` choose. -/
def readRenderOptions (arguments : Arguments) : Except UsageError RenderOptions :=
  (readHeadingLevel arguments).map fun headingLevel =>
    { headingLevel
      includeSystemFields := arguments.flag "include-system-fields"
      useTables := !arguments.flag "no-tables"
      skipEmpty := !arguments.flag "keep-empty"
      titleField := (arguments.value? "title-field").getD "title"
      descriptionField := (arguments.value? "description-field").getD "meta_description" }

/-- No operands. -/
def readNone : List String → Except UsageError Unit
  | [] => .ok ()
  | word :: _ => .error (.extraOperand word)

/-- One operand. -/
def readOne (name : String) : List String → Except UsageError String
  | [] => .error (.missingOperand name)
  | word :: rest => (readNone rest).map fun _ => word

/-- Two operands. -/
def readTwo (first second : String) : List String → Except UsageError (String × String)
  | [] => .error (.missingOperand first)
  | word :: rest => (readOne second rest).map fun next => (word, next)

/-- The command that arguments give, unless they ask for help. -/
def orHelp (rules : List OptionRule) (words : List String)
    (read : Arguments → Except UsageError Command) : Except UsageError Request :=
  match Arguments.read rules true words with
  | .error error => .error error
  | .ok arguments =>
    if arguments.flag "help" then .ok .help else (read arguments).map command

/-- Reads the command `validate`. -/
def readValidate (arguments : Arguments) : Except UsageError Command := do
  let (contentType, entry) ← readTwo "CONTENT_TYPE" "ENTRY" arguments.operands
  let mode ← readMode arguments
  return .validate contentType entry mode (arguments.flag "draft") (arguments.flag "json-output")

/-- Reads the command `render`. -/
def readRender (arguments : Arguments) : Except UsageError Command := do
  let (contentType, entry) ← readTwo "CONTENT_TYPE" "ENTRY" arguments.operands
  let options ← readRenderOptions arguments
  return .render contentType entry options (arguments.value? "output")

/-- Reads the command `richtext`. -/
def readRichText (arguments : Arguments) : Except UsageError Command :=
  (readOne "DOCUMENT" arguments.operands).map .richText

/-- Reads the command `version`. -/
def readAbout (arguments : Arguments) : Except UsageError Command :=
  (readNone arguments.operands).map fun _ => .about

/-- The request for a text about the program among options, the first of several. -/
def aboutProgram? (options : List GivenOption) : Option Request :=
  options.findSome? fun given =>
    if given.name = "version" then some .version
    else if given.name = "help" then some .help
    else none

/-- Why a word is no command. A word that looks like an option is read as one first, with those
after it, and may still ask for a text about the program. -/
def readUnknown (name : String) (rest : List String) : Except UsageError Request :=
  match Arguments.read globalRules false (name :: rest) with
  | .error error => .error error
  | .ok arguments =>
    match aboutProgram? arguments.options with
    | some request => .ok request
    | none => .error (.unknownCommand name)

/-- Reads the command with a name from the words after it. -/
def readCommand (name : String) (words : List String) : Except UsageError Request :=
  match name with
  | "validate" => orHelp validateRules words readValidate
  | "render" => orHelp renderRules words readRender
  | "richtext" => orHelp [helpOption] words readRichText
  | "version" => orHelp [helpOption] words readAbout
  | name => readUnknown name words

/-- Reads the words of a command line. -/
def read (words : List String) : Except UsageError Request :=
  match Arguments.read globalRules false words with
  | .error error => .error error
  | .ok arguments =>
    match aboutProgram? arguments.options, arguments.operands with
    | some request, _ => .ok request
    | none, [] => .error .noCommand
    | none, name :: rest => readCommand name rest

end Request

end ContentModel.CommandLine
