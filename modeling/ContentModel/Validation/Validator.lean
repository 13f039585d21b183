import ContentModel.Schema.Display
import ContentModel.Schema.Reader
import ContentModel.Validation.Fields

/-!
# Validators

Validators of entries, built from content types.

* `Verdict` is the outcome for one entry, with the views `issues`, `missingFields` and
  `ofKind`;
* `Validator.build` makes a validator, `Validator.check` judges an entry, `Validator.draft` is
  the validator under which fields may be absent;
* `ValidatorPlan` gathers the settings of a validator before it is built.
-/

namespace ContentModel

/-! ## Findings as issues -/

namespace Finding

/-- The location in writing. -/
def path (finding : Finding) : String := Location.path finding.location

/-- The sort of the problem. -/
def kind (finding : Finding) : IssueKind := finding.problem.kind

/-- The location in writing, with a word for the entry itself. -/
def shownPath (finding : Finding) : String :=
  if finding.path.isEmpty then "<entry>" else finding.path

/-- The finding in one line. -/
def text (finding : Finding) : String :=
  finding.shownPath
    ++ (": [" ++ (finding.kind.name ++ ("] " ++ finding.problem.message)))

/-- The paths of the required members that are absent, in order. -/
def missingPaths (findings : List Finding) : List String :=
  (findings.filter fun finding => finding.kind == .missingRequired).map path

/-- Findings in one line: their number, and the paths and sorts of the first five. -/
def failureMessage (findings : List Finding) : String :=
  let count := findings.length
  "Entry failed validation with " ++ (Digits.intText count ++ (" issue(s): "
    ++ (Text.joinWith "; "
          ((findings.take 5).map fun finding => finding.shownPath ++ (": " ++ finding.kind.name))
      ++ (if 5 < count then " (+" ++ (Digits.intText (count - 5 : Nat) ++ " more)") else ""))))

end Finding

/-! ## Verdicts -/

/-- The outcome for one entry. -/
inductive Verdict
  /-- Nothing was found; the value that came out. -/
  | accepted (value : Json)
  | refused (issues : List Finding)
  deriving DecidableEq

namespace Verdict

/-- Whether the entry was accepted. -/
def ok : Verdict → Bool
  | .accepted _ => true
  | .refused _ => false

/-- The value of an accepted entry. -/
def value? : Verdict → Option Json
  | .accepted value => some value
  | .refused _ => none

/-- What was found. -/
def issues : Verdict → List Finding
  | .accepted _ => []
  | .refused issues => issues

/-- The paths of the required members that are absent. -/
def missingFields (verdict : Verdict) : List String := Finding.missingPaths verdict.issues

/-- The issues of one sort. -/
def ofKind (verdict : Verdict) (kind : IssueKind) : List Finding :=
  verdict.issues.filter fun finding => finding.kind == kind

/-- The verdict in one line. -/
def summary (verdict : Verdict) : String :=
  (if verdict.ok then "[PASS] " else "[FAIL] ")
    ++ (Digits.intText verdict.issues.length ++ (" issue(s), "
    ++ (Digits.intText verdict.missingFields.length ++ " missing field(s)")))

end Verdict

/-- The verdict of a checker. -/
def Checker.verdict (checker : Checker) (value : Json) : Verdict :=
  match checker.findings value with
  | [] => .accepted (checker.value value)
  | issues => .refused issues

theorem Checker.issues_verdict (checker : Checker) (value : Json) :
    (checker.verdict value).issues = checker.findings value := by
  cases h : checker.findings value <;> simp [verdict, h, Verdict.issues]

theorem Checker.ok_verdict (checker : Checker) (value : Json) :
    (checker.verdict value).ok = checker.accepts value := by
  cases h : checker.findings value <;> simp [verdict, h, Verdict.ok, accepts]

/-! ## Validators -/

/-- The check of the entries of a content type, with what it was built from. -/
structure Validator where
  contentType : ContentType
  mode : Mode
  isDraft : Bool
  checker : Checker

namespace Validator

/-- Builds the validator of a content type. -/
def build (contentType : ContentType) (mode : Mode := .read) (isDraft : Bool := false) :
    Build Validator := do
  let checker ← contentType.checker mode isDraft
  return { contentType, mode, isDraft, checker }

/-- Reads a content type and builds its validator. -/
def ofJson (value : Json) (mode : Mode := .read) (isDraft : Bool := false) : Build Validator :=
  match ContentType.read value with
  | .ok contentType => build contentType mode isDraft
  | .error error => .fail (.contentType error)

/-- Judges an entry. -/
def check (validator : Validator) (entry : Json) : Verdict := validator.checker.verdict entry

/-- Judges entries one by one. -/
def checkBatch (validator : Validator) (entries : List Json) : List Verdict :=
  entries.map validator.check

/-- The value of an entry, or what was found in it. -/
def parse (validator : Validator) (entry : Json) : Except (List Finding) Json :=
  match validator.check entry with
  | .accepted value => .ok value
  | .refused issues => .error issues

/-- The validator under which every field may be absent. -/
def draft (validator : Validator) : Build Validator :=
  if validator.isDraft then .done validator
  else build validator.contentType validator.mode true

/-- The name of the record of entries. -/
def modelName (validator : Validator) : String := recordName "Entry" validator.contentType.uid

/-- The validator in short, given the text of its draft setting. -/
def summaryWith (validator : Validator) (draft : String) : String :=
  "EntryValidator(content_type=" ++ (quotedOption validator.contentType.uid
    ++ (", mode=" ++ (validator.mode.name ++ (", draft=" ++ (draft ++ ")")))))

/-- The validator in short. -/
def summary (validator : Validator) : String :=
  validator.summaryWith (Json.display (.bool validator.isDraft))

end Validator

/-- The settings of a validator that is yet to be built. -/
structure ValidatorPlan where
  contentType : ContentType
  mode : Mode := .read
  isDraft : Bool := false

namespace ValidatorPlan

/-- The plan of a validator for a mode. -/
def withMode (plan : ValidatorPlan) (mode : Mode) : ValidatorPlan := { plan with mode }

/-- The plan of a validator under which fields may be absent, or not. -/
def withDraft (plan : ValidatorPlan) (isDraft : Bool) : ValidatorPlan := { plan with isDraft }

/-- Builds the validator. -/
def build (plan : ValidatorPlan) : Build Validator :=
  Validator.build plan.contentType plan.mode plan.isDraft

end ValidatorPlan

/-! ## Names given as values -/

/-- A value that is the name of nothing of a sort. -/
structure UnknownName where
  value : Json
  sort : String

/-- The sentence that reports an unknown name. -/
def UnknownName.message (name : UnknownName) : String :=
  name.value.inspected ++ (" is not a valid " ++ name.sort)

/-- The mode that a value names. -/
def Mode.read? (value : Json) : Except UnknownName Mode :=
  match value with
  | .str name =>
    match Mode.ofName? name with
    | some mode => .ok mode
    | none => .error ⟨value, "ValidatorMode"⟩
  | _ => .error ⟨value, "ValidatorMode"⟩

/-- The sort of issues that a value names. -/
def IssueKind.read? (value : Json) : Except UnknownName IssueKind :=
  match value with
  | .str name =>
    match IssueKind.ofName? name with
    | some kind => .ok kind
    | none => .error ⟨value, "IssueKind"⟩
  | _ => .error ⟨value, "IssueKind"⟩

end ContentModel
