import ContentModel.Calendar.Iso
import ContentModel.Pattern.Format
import ContentModel.Schema.Error

/-!
# Building checks

What building the checks of a content type gives: warnings about attributes that had to be
ignored, and the result or an error.

* `Mode` says which form of entries is checked;
* `Build` is the monad: the warnings of all steps in order, up to the first error.
-/

namespace ContentModel

/-- Which form of entries is checked. -/
inductive Mode
  /-- Entries as they are delivered, assets being objects. -/
  | read
  /-- Entries as they are submitted, assets being named by their uid. -/
  | upsert
  deriving DecidableEq, Repr

namespace Mode

/-- The name of a mode. -/
def name : Mode → String
  | .read => "read"
  | .upsert => "upsert"

/-- The mode with a name. -/
def ofName? (name : String) : Option Mode :=
  if name = "read" then some .read else if name = "upsert" then some .upsert else none

theorem ofName?_name (mode : Mode) : ofName? mode.name = some mode := by
  cases mode <;> decide

end Mode

/-- An attribute of a field that was ignored. -/
inductive Warning
  /-- A format that is no pattern. -/
  | format (raw field : String)
  /-- A date bound that names no date. -/
  | bound (raw field : String)
  deriving DecidableEq, Repr

/-- Why checks could not be built. -/
inductive BuildError
  | contentType (error : ContentTypeError)
  /-- The offset of a date bound leads out of the years 1 to 9999. -/
  | boundOutOfRange
  /-- A format is refused as a pattern. -/
  | format (reason : PatternRefusal)
  /-- The record of a block would have a null character in its name. -/
  | nullInName
  /-- The number of instances of a group is limited to a number beyond 64 bits. -/
  | limitTooLarge
  deriving DecidableEq

/-- Warnings in order, and a result or an error. -/
structure Build (α : Type) where
  warnings : List Warning
  result : Except BuildError α

namespace Build

variable {α β : Type}

/-- A result without warnings. -/
def done (value : α) : Build α := ⟨[], .ok value⟩

/-- An error. -/
def fail (error : BuildError) : Build α := ⟨[], .error error⟩

/-- A result after a warning. -/
def warned (warning : Warning) (value : α) : Build α := ⟨[warning], .ok value⟩

/-- One step after another. -/
def andThen (first : Build α) (second : α → Build β) : Build β :=
  match first.result with
  | .ok value => ⟨first.warnings ++ (second value).warnings, (second value).result⟩
  | .error error => ⟨first.warnings, .error error⟩

instance : Monad Build where
  pure := done
  bind := andThen

theorem result_andThen (first : Build α) (second : α → Build β) :
    (first.andThen second).result = first.result.bind fun value => (second value).result := by
  cases h : first.result <;> simp [andThen, h, Except.bind]

end Build

end ContentModel
