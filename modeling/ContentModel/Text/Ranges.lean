/-!
# Ranges of code points

Sets of characters given as ascending inclusive ranges of code points, the form in which the
tables of this folder are written.

* `Ranges.has` decides membership, stopping at the first range that begins above the code point;
* `Ranges.has_cons` and `Ranges.not_has_of_lt` are its two equations.
-/

namespace ContentModel.Text

/-- Ascending inclusive ranges of code points. -/
abbrev Ranges := List (Nat × Nat)

namespace Ranges

/-- Whether a code point lies in one of the ranges. -/
def has : Ranges → Nat → Bool
  | [], _ => false
  | (low, high) :: rest, n => if n < low then false else n ≤ high || has rest n

theorem not_has_nil (n : Nat) : has [] n = false := rfl

theorem not_has_of_lt {low high n : Nat} (rest : Ranges) (h : n < low) :
    has ((low, high) :: rest) n = false := by
  simp [has, h]

theorem has_cons {low high n : Nat} (rest : Ranges) (h : low ≤ n) :
    has ((low, high) :: rest) n = (n ≤ high || has rest n) := by
  simp [has, Nat.not_lt.2 h]

end Ranges

end ContentModel.Text
