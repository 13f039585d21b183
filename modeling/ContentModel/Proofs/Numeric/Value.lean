import Mathlib.Algebra.Field.Rat
import Mathlib.Tactic.FieldSimp
import Mathlib.Tactic.NormNum
import Mathlib.Tactic.Ring
import ContentModel.Numeric.Binary64

/-!
# Values of numbers

What the numbers of the binary format stand for.

* `NumericValue` are the rational numbers and what lies beyond them on either side;
* `Binary64.value?` is the value of a number of the format;
* `Binary64.sameValue_iff` and `Binary64.equalsInt_iff` say that the comparisons, which work on
  integers alone, compare values.
-/

namespace ContentModel

/-- The value of a number: a rational number, or beyond all of them. -/
inductive NumericValue
  | rational (q : ℚ)
  | infinite (negative : Bool)
  deriving DecidableEq

namespace Binary64

/-- The value of a number of the format. What is no number has none. -/
def value? : Binary64 → Option NumericValue
  | .finite negative significand exponent =>
    some (.rational ((if negative then -1 else 1) * significand * 2 ^ exponent))
  | .infinite negative => some (.infinite negative)
  | .nan => none

/-- A power of two is the quotient of two powers with natural exponents. -/
theorem two_zpow_eq (exponent : Int) :
    (2 : ℚ) ^ exponent = (2 ^ exponent.toNat : ℕ) / (2 ^ (-exponent).toNat : ℕ) := by
  obtain ⟨n, rfl | rfl⟩ := exponent.eq_nat_or_neg
  · simp
  · simp

theorem value?_finite (negative : Bool) (significand : Nat) (exponent : Int) :
    (finite negative significand exponent).value? =
      some (.rational ((finite negative significand exponent).signedNumerator /
        (finite negative significand exponent).denominator)) := by
  rw [value?, two_zpow_eq]
  congr 2
  cases negative
  · simp only [signedNumerator, denominator, Nat.pow_eq, Bool.false_eq_true, if_false]
    push_cast
    ring
  · simp only [signedNumerator, denominator, Nat.pow_eq, if_true]
    push_cast
    ring

/-- Finite numbers have the value of a quotient when their terms, multiplied crosswise, agree. -/
theorem signedNumerator_div_eq_iff {x : Binary64} {n : Int} {den : Nat} (hden : 0 < den) :
    (x.signedNumerator / x.denominator : ℚ) = n / den ↔
      x.signedNumerator * den = n * x.denominator := by
  have hx : (x.denominator : ℚ) ≠ 0 := Nat.cast_ne_zero.2 x.denominator_pos.ne'
  have hd : (den : ℚ) ≠ 0 := Nat.cast_ne_zero.2 hden.ne'
  rw [div_eq_div_iff hx hd]
  norm_cast

theorem sameValue_iff {x y : Binary64} :
    x.sameValue y = true ↔ ∃ value, x.value? = some value ∧ y.value? = some value := by
  cases x with
  | nan => simp [sameValue, value?]
  | infinite negative =>
    cases y with
    | finite => simp [sameValue, value?]
    | infinite negative' => simp [sameValue, value?, eq_comm (a := negative')]
    | nan => simp [sameValue, value?]
  | finite negative significand exponent =>
    cases y with
    | finite negative' significand' exponent' =>
      rw [value?_finite, value?_finite]
      simp only [Option.some.injEq, exists_eq_left', NumericValue.rational.injEq]
      rw [signedNumerator_div_eq_iff (denominator_pos _), sameValue, beq_iff_eq]
      exact eq_comm
    | infinite => simp [sameValue, value?]
    | nan => simp [sameValue, value?]

theorem equalsInt_iff {x : Binary64} {n : Int} :
    x.equalsInt n = true ↔ x.value? = some (.rational n) := by
  cases x with
  | finite negative significand exponent =>
    rw [value?_finite, Option.some.injEq, NumericValue.rational.injEq]
    have hone := signedNumerator_div_eq_iff (x := finite negative significand exponent) (n := n)
      Nat.one_pos
    rw [Nat.cast_one, div_one] at hone
    simp [hone, equalsInt]
  | infinite => simp [equalsInt, value?]
  | nan => simp [equalsInt, value?]

end Binary64

end ContentModel
