/-!
# Command-line arguments

The words of a command line sorted into options and operands.

* `OptionRule` describes an option: its names, and whether it takes a value;
* `Arguments.read` sorts words by a list of rules;
* `Arguments.flag` and `Arguments.value?` look up what was given;
* `UsageError` lists what can be wrong with a command line.

Options have long names (`--output`) and short ones (`-o`). The value of an option is the next
word, or follows a long name after `=` and a short name at once. Short names of options without
a value may share a dash. After the word `--` all words are operands.
-/

namespace ContentModel.CommandLine

/-- What is wrong with a command line. -/
inductive UsageError
  /-- No command is named. -/
  | noCommand
  | unknownCommand (name : String)
  | unknownOption (name : String)
  /-- An option lacks its value. -/
  | missingValue (name : String)
  /-- An option that takes no value has one. -/
  | unexpectedValue (name : String)
  /-- An operand is absent. -/
  | missingOperand (name : String)
  /-- An operand is one too many. -/
  | extraOperand (word : String)
  /-- An option has a value outside its range. -/
  | badValue (name value : String)
  /-- An operand names no file. -/
  | noSuchPath (path : String)
  deriving DecidableEq, Repr

/-- The sentence that reports an error. -/
def UsageError.message : UsageError → String
  | .noCommand => "Missing command."
  | .unknownCommand name => "No such command '" ++ (name ++ "'.")
  | .unknownOption name => "No such option: " ++ name
  | .missingValue name => "Option '" ++ (name ++ "' requires an argument.")
  | .unexpectedValue name => "Option '" ++ (name ++ "' does not take a value.")
  | .missingOperand name => "Missing argument '" ++ (name ++ "'.")
  | .extraOperand word => "Got unexpected extra argument (" ++ (word ++ ")")
  | .badValue name value => "Invalid value for '" ++ (name ++ ("': '" ++ (value ++ "'.")))
  | .noSuchPath path => "Path '" ++ (path ++ "' does not exist.")

/-- An option that a command knows. -/
structure OptionRule where
  /-- The name under which the option is looked up, without dashes. -/
  name : String
  /-- The short name, if there is one. -/
  letter? : Option Char := none
  takesValue : Bool := false
  deriving DecidableEq, Repr

/-- An option as given, with an empty value if it takes none. -/
structure GivenOption where
  name : String
  value : String
  deriving DecidableEq, Repr

/-- Words sorted into options and operands, each in the order given. -/
structure Arguments where
  options : List GivenOption
  operands : List String
  deriving DecidableEq, Repr

namespace Arguments

/-- No words. -/
def none : Arguments := ⟨[], []⟩

/-- Arguments with more options in front. -/
def withOptions (given : List GivenOption) (arguments : Arguments) : Arguments :=
  { arguments with options := given ++ arguments.options }

/-- Arguments with one more operand in front. -/
def withOperand (word : String) (arguments : Arguments) : Arguments :=
  { arguments with operands := word :: arguments.operands }

/-- Whether an option was given. -/
def flag (arguments : Arguments) (name : String) : Bool :=
  arguments.options.any fun given => given.name = name

/-- The value given to an option last. -/
def value? (arguments : Arguments) (name : String) : Option String :=
  (arguments.options.reverse.find? fun given => given.name = name).map fun given => given.value

/-- What a word with options says: the options, and the name of one whose value is the next
word. -/
structure OptionWord where
  given : List GivenOption
  awaits? : Option String

/-- The options that letters after a dash name. -/
def readLetters (rules : List OptionRule) : List Char → Except UsageError OptionWord
  | [] => .ok ⟨[], .none⟩
  | letter :: rest =>
    match rules.find? fun rule => rule.letter? = some letter with
    | .none => .error (.unknownOption (String.ofList ['-', letter]))
    | some rule =>
      if rule.takesValue then
        if rest.isEmpty then .ok ⟨[], some rule.name⟩
        else .ok ⟨[⟨rule.name, String.ofList rest⟩], .none⟩
      else
        (readLetters rules rest).map fun word =>
          { word with given := ⟨rule.name, ""⟩ :: word.given }

/-- The option that a name after two dashes gives, with the value after `=`. -/
def readLong (rules : List OptionRule) (text : List Char) : Except UsageError OptionWord :=
  let name := String.ofList (text.takeWhile (· != '='))
  match rules.find? fun rule => rule.name = name with
  | .none => .error (.unknownOption name)
  | some rule =>
    match text.dropWhile (· != '='), rule.takesValue with
    | [], false => .ok ⟨[⟨rule.name, ""⟩], .none⟩
    | [], true => .ok ⟨[], some rule.name⟩
    | _ :: _, false => .error (.unexpectedValue rule.name)
    | _ :: value, true => .ok ⟨[⟨rule.name, String.ofList value⟩], .none⟩

/-- The reading of a word as options, unless it is an operand. -/
def readWord? (rules : List OptionRule) (word : String) : Option (Except UsageError OptionWord) :=
  match word.toList with
  | '-' :: '-' :: text => some (readLong rules text)
  | '-' :: letter :: rest => some (readLetters rules (letter :: rest))
  | _ => .none

/-- Sorts words into options and operands. Unless they are interspersed, no options follow the
first operand. -/
def read (rules : List OptionRule) (interspersed : Bool) :
    List String → Except UsageError Arguments
  | [] => .ok none
  | word :: rest =>
    if word = "--" then .ok ⟨[], rest⟩
    else
      match readWord? rules word with
      | .none =>
        if interspersed then (read rules interspersed rest).map (withOperand word)
        else .ok ⟨[], word :: rest⟩
      | some (.error error) => .error error
      | some (.ok ⟨given, .none⟩) => (read rules interspersed rest).map (withOptions given)
      | some (.ok ⟨given, some name⟩) =>
        match rest with
        | [] => .error (.missingValue name)
        | value :: rest =>
          (read rules interspersed rest).map (withOptions (given ++ [⟨name, value⟩]))

end Arguments

end ContentModel.CommandLine
