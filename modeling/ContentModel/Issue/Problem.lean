import ContentModel.Json.Display

/-!
# Problems

What can be wrong with a value, as causes.

* `Problem` lists the causes; `code`, `message` and `kind` are how each is reported;
* `IssueKind` sorts the causes for callers.
-/

namespace ContentModel

/-- What is wrong with a value. -/
inductive Problem
  /-- A required member is absent. -/
  | missing
  | notAString
  | emptyString
  | notABoolean
  /-- A number or a text that stands for no truth value. -/
  | unreadableBoolean
  | notAnInteger
  /-- A text that writes no integer. -/
  | unreadableInteger
  | integerTooLong
  | fractionalInteger
  | infiniteInteger
  | belowLeast (least : Int)
  | aboveGreatest (greatest : Int)
  | notAList
  | tooLong (limit actual : Nat)
  | notAMapping
  /-- No object where a record of the given name belongs. -/
  | notARecord (name : String)
  | notCallable
  | notANumber
  | patternMismatch (pattern : String)
  | notAChoice (choices : List Json)
  | notADate
  | notATimestamp
  | dateOutOfRange
  /-- A block item whose tag, if it has one, is not declared. -/
  | unknownVariant (tag : Option String)
  | notADocument
  deriving DecidableEq

/-- The sorts of problems with an entry. -/
inductive IssueKind
  | typeMismatch
  | missingRequired
  | patternMismatch
  | rangeViolation
  | noMatchingVariant
  | invalidChoice
  deriving DecidableEq, Repr

namespace IssueKind

/-- All sorts. -/
def all : List IssueKind :=
  [typeMismatch, missingRequired, patternMismatch, rangeViolation, noMatchingVariant,
    invalidChoice]

/-- The name of a sort. -/
def name : IssueKind → String
  | .typeMismatch => "type_mismatch"
  | .missingRequired => "missing_required"
  | .patternMismatch => "pattern_mismatch"
  | .rangeViolation => "range_violation"
  | .noMatchingVariant => "no_matching_variant"
  | .invalidChoice => "invalid_choice"

/-- The sort with a name. -/
def ofName? (name : String) : Option IssueKind := all.find? fun kind => kind.name == name

theorem ofName?_name (kind : IssueKind) : ofName? kind.name = some kind := by
  cases kind <;> decide

end IssueKind

namespace Problem

/-- The short name of a cause. -/
def code : Problem → String
  | .missing => "missing"
  | .notAString => "string_type"
  | .emptyString => "string_too_short"
  | .notABoolean => "bool_type"
  | .unreadableBoolean => "bool_parsing"
  | .notAnInteger => "int_type"
  | .unreadableInteger => "int_parsing"
  | .integerTooLong => "int_parsing_size"
  | .fractionalInteger => "int_from_float"
  | .infiniteInteger => "finite_number"
  | .belowLeast _ => "greater_than_equal"
  | .aboveGreatest _ => "less_than_equal"
  | .notAList => "list_type"
  | .tooLong .. => "too_long"
  | .notAMapping => "dict_type"
  | .notARecord _ => "model_type"
  | .notCallable => "callable_type"
  | .notANumber => "number_type"
  | .patternMismatch _ => "string_pattern_mismatch"
  | .notAChoice _ => "literal_error"
  | .notADate => "iso_date_format"
  | .notATimestamp => "iso_date_format"
  | .dateOutOfRange => "date_out_of_range"
  | .unknownVariant _ => "no_matching_variant"
  | .notADocument => "rich_text_root"

/-- The sentence that reports a cause. -/
def message : Problem → String
  | .missing => "Field required"
  | .notAString => "Input should be a valid string"
  | .emptyString => "String should have at least 1 character"
  | .notABoolean => "Input should be a valid boolean"
  | .unreadableBoolean => "Input should be a valid boolean, unable to interpret input"
  | .notAnInteger => "Input should be a valid integer"
  | .unreadableInteger =>
    "Input should be a valid integer, unable to parse string as an integer"
  | .integerTooLong =>
    "Unable to parse input string as an integer, exceeded maximum size"
  | .fractionalInteger =>
    "Input should be a valid integer, got a number with a fractional part"
  | .infiniteInteger => "Input should be a finite number"
  | .belowLeast least =>
    "Input should be greater than or equal to " ++ Digits.intText least
  | .aboveGreatest greatest =>
    "Input should be less than or equal to " ++ Digits.intText greatest
  | .notAList => "Input should be a valid list"
  | .tooLong limit actual =>
    "List should have at most " ++ (Digits.intText limit
      ++ ((if limit = 1 then " item" else " items")
      ++ (" after validation, not " ++ Digits.intText actual)))
  | .notAMapping => "Input should be a valid dictionary"
  | .notARecord name => "Input should be a valid dictionary or instance of " ++ name
  | .notCallable => "Input should be callable"
  | .notANumber => "Input should be a number"
  | .patternMismatch pattern => "String should match pattern '" ++ (pattern ++ "'")
  | .notAChoice choices =>
    "Input should be one of " ++ Text.joinWith ", " (choices.map Json.inspected)
  | .notADate => "Invalid ISO date/datetime format"
  | .notATimestamp => "Expected a UTC timestamp such as 2024-01-31T00:00:00.000Z"
  | .dateOutOfRange => "Date out of allowed range"
  | .unknownVariant tag =>
    "Block item " ++ ((match tag with
      | some key => Text.quoted key
      | none => "None") ++ " matches none of the declared block variants")
  | .notADocument => "Rich text document root must have type 'doc'"

/-- The sort that a cause belongs to. -/
def kind : Problem → IssueKind
  | .missing => .missingRequired
  | .patternMismatch _ => .patternMismatch
  | .notADate => .patternMismatch
  | .notATimestamp => .patternMismatch
  | .dateOutOfRange => .rangeViolation
  | .tooLong .. => .rangeViolation
  | .notAChoice _ => .invalidChoice
  | .unknownVariant _ => .noMatchingVariant
  | _ => .typeMismatch

theorem kind_eq_missingRequired_iff (problem : Problem) :
    problem.kind = .missingRequired ↔ problem = .missing := by
  cases problem <;> simp [kind]

end Problem

end ContentModel
