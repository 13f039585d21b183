import ContentModel.CommandLine.Command
import ContentModel.CommandLine.Report
import ContentModel.Json.Parser
import ContentModel.Rendering.Limits
import ContentModel.RichText.Markdown
import ContentModel.Schema.Diagnosis

/-!
# Running commands

What the program does with the words of a command line, over any access to files.

* `Ending` lists the ways in which a run ends, `Ending.exitCode` says what each returns to the
  caller: zero when all is well, one for an entry that fails validation, two for a command line
  or a file that is no use;
* `run` carries out a command line.
-/

namespace ContentModel.CommandLine

/-- Why a file gives no JSON value. -/
inductive LoadError
  | directory
  /-- It is not text in UTF-8. -/
  | notText
  | notJson
  deriving DecidableEq, Repr

/-- The clause that reports an error of the file at a path. -/
def LoadError.message (path : String) : LoadError → String
  | .directory => "[Errno 21] Is a directory: " ++ Text.quoted path
  | .notText => "not text in UTF-8"
  | .notJson => "not JSON"

/-- What breaks a run off. -/
inductive Failure
  /-- A file holds an integer with too many digits. -/
  | integerTooLong
  | build (error : BuildError)
  | render (error : RenderError)
  /-- A name or message spoils the marked-up text that it stands in. -/
  | markup (error : MarkupError)
  | write (error : WriteError)
  deriving DecidableEq

/-- The ways in which a run ends. -/
inductive Ending
  | done
  /-- The entry failed validation. -/
  | refused
  | misused (error : UsageError)
  /-- A file that should hold something is of no use. -/
  | unreadable (what path : String) (error : LoadError)
  /-- A value is no content type. -/
  | malformed (contentType : Json) (error : ContentTypeError)
  | failed (failure : Failure)
  deriving DecidableEq

namespace Ending

/-- The number that is returned to the caller. -/
def exitCode : Ending → Nat
  | .done => 0
  | .refused => 1
  | .misused _ => 2
  | .unreadable .. => 2
  | .malformed .. => 2
  | .failed _ => 1

/-- The marked-up text that reports an ending, if there is one. Paths and values go into it as
they are. -/
def notice? : Ending → Option String
  | .unreadable what path error =>
    some (Markup.styled "red" ("Could not read " ++ (what ++ (" from " ++ (FilePath.text path
      ++ (": " ++ error.message (FilePath.text path)))))))
  | .malformed contentType error => some (Markup.styled "red" (error.report contentType))
  | _ => none

/-- An ending after its report: a failure if the report is no marked-up text. -/
def reported (ending : Ending) : Ending :=
  match Markup.plain (ending.notice?.getD "") with
  | .ok _ => ending
  | .error error => .failed (.markup error)

/-- The text that reports an ending, if there is something to report. -/
def message? : Ending → Option String
  | .done => none
  | .refused => none
  | .misused error => some ("Error: " ++ error.message)
  | .failed _ => some "Error: the command failed"
  | ending => ending.notice?.bind fun text => (Markup.plain text).toOption

end Ending

/-- What a run leaves behind, apart from files. -/
structure Outcome where
  /-- The text on standard output. -/
  output : String
  /-- The lines of the log. -/
  log : List String
  ending : Ending
  deriving DecidableEq

namespace Outcome

/-- A run that only shows a text. -/
def shown (output : String) : Outcome := { output, log := [], ending := .done }

/-- A run that shows nothing. -/
def silent (ending : Ending) : Outcome := { output := "", log := [], ending }

end Outcome

/-! ## The texts about the program -/

/-- The name of the program. -/
def programName : String := "contentstack-tools"

/-- The version of the program. -/
def programVersion : String := "0.1.0"

/-- The version in a line. -/
def versionText : String := programName ++ (", version " ++ (programVersion ++ "\n"))

/-- How the program is called. -/
def helpText : String := Text.joinWith "\n" [
  "Usage: contentstack-tools [--version] [--verbose] COMMAND ...",
  "",
  "  validate CONTENT_TYPE ENTRY [--mode read|upsert] [--draft] [--json-output]",
  "      Validate an entry against a content type.",
  "  render CONTENT_TYPE ENTRY [--heading-level N] [--include-system-fields] [--no-tables]",
  "      [--keep-empty] [--title-field UID] [--description-field UID] [--output FILE]",
  "      Render an entry as Markdown.",
  "  richtext DOCUMENT",
  "      Render a JSON RTE document as Markdown.",
  "  version",
  "      Show version information.",
  ""]

/-- What the program is. -/
def aboutText : String :=
  programName ++ (" v" ++ (programVersion ++
    "\nContentstack content type → entry validator and Markdown renderer\n"))

/-! ## Commands -/

/-- The value in a file that should hold something. -/
def readJson (what path : String) (content : ByteArray) : Except Ending Json :=
  match String.fromUTF8? content with
  | none => .error (.unreadable what path .notText)
  | some text =>
    match Json.parse text.toList with
    | .ok value => .ok value
    | .error .malformed => .error (.unreadable what path .notJson)
    | .error .integerTooLong => .error (.failed .integerTooLong)

/-- The report on an entry. -/
def report (file : String) (asJson : Bool) (contentType : Json) (built : Build Validator)
    (entry : Json) : Except Ending Outcome :=
  match built.result with
  | .error (.contentType error) => .error (.malformed contentType error)
  | .error error => .error (.failed (.build error))
  | .ok validator =>
    let verdict := validator.check entry
    let report : Report := { file, validator, verdict }
    let ending := if verdict.ok then .done else .refused
    let log := built.warnings.map Warning.message
    if asJson then .ok { output := report.document.indented .ascii ++ "\n", log, ending }
    else
      match report.text with
      | .ok output => .ok { output, log, ending }
      | .error error => .error (.failed (.markup error))

/-- The Markdown of an entry. -/
def markdown (options : RenderOptions) (contentType entry : Json) : Except Ending String :=
  match ContentType.read contentType with
  | .error error => .error (.malformed contentType error)
  | .ok contentType =>
    match contentType.renderWithin defaultRoom options entry with
    | .error error => .error (.failed (.render error))
    | .ok text => .ok text

section

variable {m : Type → Type} [Monad m] (files : Files m)

/-- A result as a step of a run. -/
def settle {α : Type} (result : Except Ending α) : ExceptT Ending m α := ExceptT.mk (pure result)

/-- Requires that something stands at a path. -/
def require (path : String) : ExceptT Ending m Unit := do
  match ← files.look path with
  | .missing => throw (.misused (.noSuchPath path))
  | _ => return ()

/-- The value in the file at a path that should hold something. -/
def load (what path : String) : ExceptT Ending m Json := do
  match ← files.look path with
  | .missing => throw (.misused (.noSuchPath path))
  | .directory => throw (.unreadable what path .directory)
  | .file content => settle (readJson what path content)

/-- The marked-up text that reports a file that was written. -/
def writtenText (path : String) : String :=
  Markup.styled "green" "✓"
    ++ (" Markdown written to " ++ Markup.styled "bold" (FilePath.text path))

/-- Writes a text into a file. -/
def writeText (path text : String) : ExceptT Ending m Outcome := do
  match ← files.write path text.toUTF8 with
  | .error error => throw (.failed (.write error))
  | .ok () =>
    match Markup.plain (writtenText path) with
    | .error error => throw (.failed (.markup error))
    | .ok output => return .shown (output ++ "\n")

/-- Carries out a command whose files are there. -/
def Command.perform : Command → ExceptT Ending m Outcome
  | .validate contentTypePath entryPath mode isDraft asJson => do
    let contentType ← load files "content type" contentTypePath
    let entry ← load files "entry" entryPath
    settle
      (report entryPath asJson contentType (Validator.ofJson contentType mode isDraft) entry)
  | .render contentTypePath entryPath options output? => do
    let contentType ← load files "content type" contentTypePath
    let entry ← load files "entry" entryPath
    let text ← settle (markdown options contentType entry)
    match output? with
    | none => return .shown (text ++ "\n")
    | some path => writeText files path (text ++ "\n")
  | .richText path => do
    let document ← load files "rich text document" path
    return .shown (RichText.markdown document ++ "\n")
  | .about => return .shown aboutText

/-- Carries out a request. -/
def Request.perform : Request → ExceptT Ending m Outcome
  | .help => return .shown helpText
  | .version => return .shown versionText
  | .command task => do
    task.inputs.forM (require files)
    task.perform files

/-- Carries out a command line. -/
def run (words : List String) : m Outcome := do
  match Request.read words with
  | .error error => return .silent (.misused error)
  | .ok request =>
    match ← (request.perform files).run with
    | .ok outcome => return outcome
    | .error ending => return .silent ending.reported

end

end ContentModel.CommandLine
