/-!
# Rounding quotients

The integer nearest to a quotient of natural numbers, a tie going to the even one.

* `roundQuotient` is that integer;
* `le_roundQuotient` and `roundQuotient_le` say that it is the quotient rounded down or up.
-/

namespace ContentModel

/-- The integer nearest to `num / den`; of two equally near, the even one. -/
def roundQuotient (num den : Nat) : Nat :=
  let quotient := num / den
  let rest := num % den
  if 2 * rest < den then quotient
  else if den < 2 * rest then quotient + 1
  else if quotient % 2 = 0 then quotient
  else quotient + 1

theorem le_roundQuotient (num den : Nat) : num / den ≤ roundQuotient num den := by
  simp only [roundQuotient]
  repeat' split
  all_goals omega

theorem roundQuotient_le (num den : Nat) : roundQuotient num den ≤ num / den + 1 := by
  simp only [roundQuotient]
  repeat' split
  all_goals omega

/-- A quotient without remainder is not moved. -/
theorem roundQuotient_mul (n : Nat) {den : Nat} (h : 0 < den) :
    roundQuotient (n * den) den = n := by
  simp [roundQuotient, Nat.mul_div_cancel n h, h]

end ContentModel
