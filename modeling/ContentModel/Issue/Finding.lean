import ContentModel.Issue.Location
import ContentModel.Issue.Problem

/-!
# Findings

Problems with the places where they were found, and results that may have findings.

* `Finding` is a problem at a location, `Finding.under` moves it below a step;
* `Checked` is a value or the findings that speak against it; its `Applicative` structure
  collects the findings of all parts in order.
-/

namespace ContentModel

/-- A problem and where it was found. -/
structure Finding where
  location : Location
  problem : Problem
  deriving DecidableEq

namespace Finding

/-- A problem with the value itself. -/
def here (problem : Problem) : Finding := ⟨[], problem⟩

/-- A problem with a part of a value, seen from the value. -/
def under (step : Step) (finding : Finding) : Finding :=
  ⟨step :: finding.location, finding.problem⟩

@[simp] theorem location_under (step : Step) (finding : Finding) :
    (finding.under step).location = step :: finding.location := rfl

@[simp] theorem problem_under (step : Step) (finding : Finding) :
    (finding.under step).problem = finding.problem := rfl

end Finding

/-- A value, or the findings that speak against it. -/
inductive Checked (α : Type)
  | valid (value : α)
  | invalid (findings : List Finding)

namespace Checked

variable {α β : Type}

/-- A problem with the value itself. -/
def problem (p : Problem) : Checked α := .invalid [.here p]

/-- The value of a function, or the findings of function and argument in this order. -/
def apply : Checked (α → β) → Checked α → Checked β
  | .valid f, .valid x => .valid (f x)
  | .valid _, .invalid findings => .invalid findings
  | .invalid findings, .valid _ => .invalid findings
  | .invalid findings, .invalid more => .invalid (findings ++ more)

instance : Applicative Checked where
  pure := .valid
  seq f x := apply f (x ())

/-- The findings moved below a step. -/
def under (step : Step) : Checked α → Checked α
  | .valid value => .valid value
  | .invalid findings => .invalid (findings.map (Finding.under step))

end Checked

end ContentModel
