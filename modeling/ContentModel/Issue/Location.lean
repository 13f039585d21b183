import ContentModel.Numeric.Digits

/-!
# Locations

Where in a value something was found: the keys and indexes that lead there.

* `Step` is one of them, `Location` a list of them from the outside in;
* `Location.path` writes a location with dots and brackets.
-/

namespace ContentModel

/-- A step from a value to a part of it. -/
inductive Step
  | key (name : String)
  | index (n : Int)
  /-- A truth value, written like an index. -/
  | flag (b : Bool)
  /-- One of the ways in which a value may be read, written like a key. It leads nowhere else. -/
  | reading (name : String)
  deriving DecidableEq, Repr

/-- The steps from a value to a part of it. -/
abbrev Location := List Step

namespace Step

/-- A step as it is written after the steps before it. -/
def written (before : String) : Step → String
  | .key name => if before.isEmpty then name else before ++ ("." ++ name)
  | .index n => before ++ ("[" ++ (Digits.intText n ++ "]"))
  | .flag b => before ++ (if b then "[True]" else "[False]")
  | .reading name => if before.isEmpty then name else before ++ ("." ++ name)

end Step

/-- A location in writing: names with dots between them, indexes in brackets. -/
def Location.path (location : Location) : String := location.foldl Step.written ""

theorem Location.path_nil : Location.path [] = "" := rfl

theorem Location.path_append_singleton (location : Location) (step : Step) :
    Location.path (location ++ [step]) = step.written (Location.path location) := by
  simp [Location.path]

end ContentModel
