import ContentModel.CommandLine.Files
import ContentModel.CommandLine.Markup
import ContentModel.Json.Printer
import ContentModel.Validation.Validator

/-!
# Reports on entries

What is shown of the verdict on the entry of a file.

* `Report.document` is the report as a JSON document, for programs;
* `Report.text` is the report for readers. It is written as marked-up text, into which names and
  messages go as they are, so that a tag in one of them may spoil it.
-/

namespace ContentModel

/-- The sentence that reports a warning. -/
def Warning.message : Warning → String
  | .format raw field =>
    "Ignoring invalid format " ++ (Text.quoted raw ++ (" on field " ++ Text.quoted field))
  | .bound raw field =>
    "Ignoring unparseable date bound " ++ (Text.quoted raw ++ (" on field " ++ Text.quoted field))

namespace CommandLine

/-- A verdict with the file and the validator that it belongs to. -/
structure Report where
  file : String
  validator : Validator
  verdict : Verdict

namespace Report

/-- An issue as a JSON document. -/
def issueDocument (finding : Finding) : Json :=
  .obj [("path", .str finding.path), ("kind", .str finding.kind.name),
    ("message", .str finding.problem.message)]

/-- The report as a JSON document. -/
def document (report : Report) : Json :=
  .obj [("file", .str (FilePath.text report.file)),
    ("content_type", (report.validator.contentType.uid.map Json.str).getD .null),
    ("mode", .str report.validator.mode.name),
    ("draft", .bool report.validator.isDraft),
    ("passed", .bool report.verdict.ok),
    ("missing_fields", .arr (report.verdict.missingFields.map .str)),
    ("issues", .arr (report.verdict.issues.map issueDocument))]

/-- The head of the report, marked up: the file, the outcome and the settings. -/
def head (report : Report) : String :=
  let status :=
    if report.verdict.ok then Markup.styled "bold green" "PASS" else Markup.styled "bold red" "FAIL"
  let uid := report.validator.contentType.uid.getD ""
  Markup.styled "bold" (FilePath.lastName report.file)
    ++ ("\nStatus: " ++ (status
    ++ ("  |  Content type: " ++ ((if uid.isEmpty then "—" else uid)
    ++ ("  |  Mode: " ++ (report.validator.mode.name
    ++ (if report.validator.isDraft then " (draft)" else "")))))))

/-- The sort of an issue, marked up. -/
def kindCell (finding : Finding) : String :=
  Markup.styled (if finding.kind == .missingRequired then "yellow" else "red") finding.kind.name

/-- The columns of the table of issues, marked up. -/
def columns : List (Finding → String) :=
  [Finding.shownPath, kindCell, fun finding => finding.problem.message]

/-- Reads all cells of the table of issues, column by column. -/
def checkColumns (issues : List Finding) : Except MarkupError Unit :=
  columns.forM fun column => issues.forM fun finding => discard (Markup.read (column finding))

/-- The rows of issues from a number on. -/
def rows (number : Nat) : List Finding → Except MarkupError (List String)
  | [] => .ok []
  | finding :: rest => do
    let row ← columns.mapM fun column => Markup.plain (column finding)
    let more ← rows (number + 1) rest
    return Text.joinWith "  " (Digits.intText number :: row) :: more

/-- The lines for the missing members, marked up. -/
def missingText (missing : List String) : String :=
  if missing.isEmpty then ""
  else
    "\n" ++ (Markup.styled "bold" "Missing fields:"
      ++ (" " ++ (Text.joinWith ", " missing ++ "\n")))

/-- The report for readers. -/
def text (report : Report) : Except MarkupError String := do
  let head ← Markup.plain report.head
  checkColumns report.verdict.issues
  let rows ← rows 1 report.verdict.issues
  let missing ← Markup.plain (missingText report.verdict.missingFields)
  let issues := if rows.isEmpty then [] else "" :: "Issues" :: rows
  return Text.joinWith "\n" (head :: issues) ++ ("\n" ++ missing)

end Report

end CommandLine

end ContentModel
