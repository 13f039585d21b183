import ContentModel.Issue.Finding

/-!
# Places in values

Where a location leads in a value.

* `Json.part?` takes one step and `Json.at?` all steps of a location;
* `Json.LacksAt` says that a location leads to an object and then to a key that it lacks;
* `Finding.PointsInto` says that a finding names a place of a value: one where a key is lacking if
  something is missing, else one where something is.
-/

namespace ContentModel

namespace Json

/-- The part of a value that a step leads to: the member under a key, the item at an index. -/
def part? : Json → Step → Option Json
  | .obj members, .key name => Members.get? members name
  | .arr items, .index (.ofNat n) => items[n]?
  | _, _ => none

/-- The part of a value at a location. -/
def at? (value : Json) : Location → Option Json
  | [] => some value
  | step :: rest => (value.part? step).bind fun part => part.at? rest

@[simp] theorem at?_nil (value : Json) : value.at? [] = some value := rfl

theorem at?_cons {value part : Json} {step : Step} (h : value.part? step = some part)
    (rest : Location) : value.at? (step :: rest) = part.at? rest := by
  rw [at?, h, Option.bind_some]

/-- A location leads to an object and then to a key that it lacks. -/
def LacksAt (value : Json) (location : Location) : Prop :=
  ∃ (front : Location) (key : String) (members : Members), location = front ++ [.key key] ∧
    value.at? front = some (.obj members) ∧ members.get? key = none

end Json

namespace Finding

/-- A finding names a place of a value: a key that an object lacks if something is missing, else a
part of the value. -/
def PointsInto (finding : Finding) (value : Json) : Prop :=
  (finding.problem = .missing → value.LacksAt finding.location) ∧
    (finding.problem ≠ .missing → ∃ part, value.at? finding.location = some part)

theorem pointsInto_here {problem : Problem} (h : problem ≠ .missing) (value : Json) :
    (here problem).PointsInto value :=
  ⟨fun hmissing => absurd hmissing h, fun _ => ⟨value, rfl⟩⟩

theorem pointsInto_missing {members : Members} {key : String} (h : members.get? key = none) :
    PointsInto ⟨[.key key], .missing⟩ (.obj members) :=
  ⟨fun _ => ⟨[], key, members, rfl, rfl, h⟩, fun hother => absurd rfl hother⟩

/-- What names a place of a part names a place of the whole. -/
theorem PointsInto.under {finding : Finding} {value part : Json} {step : Step}
    (h : finding.PointsInto part) (hpart : value.part? step = some part) :
    (finding.under step).PointsInto value := by
  refine ⟨fun hmissing => ?_, fun hother => ?_⟩
  · obtain ⟨front, key, members, hlocation, hobject, hnone⟩ := h.1 hmissing
    refine ⟨step :: front, key, members, ?_, (Json.at?_cons hpart front).trans hobject, hnone⟩
    rw [location_under, hlocation, List.cons_append]
  · rw [location_under, Json.at?_cons hpart]
    exact h.2 hother

end Finding

end ContentModel
