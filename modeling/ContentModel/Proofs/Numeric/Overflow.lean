import Mathlib.Algebra.Group.Nat.Defs
import ContentModel.Numeric.Abbreviated

/-!
# Numbers beyond the format

When a quotient of natural numbers is rounded to an infinity, and which integers have no abbreviated
form for that reason.

* `le_roundQuotient_iff` says when a quotient is rounded to at least an even number;
* `Binary64.le_exponentOf_iff` reads the exponent of a quotient as a bound on it;
* `Binary64.ofRatio_eq_infinite_iff` and `Abbreviated.ofInt_eq_none_iff` give the bounds.
-/

namespace ContentModel

/-! ## Rounding -/

/-- A quotient is rounded to at least an even number from halfway below it on. -/
theorem le_roundQuotient_iff {n num den : Nat} (heven : n % 2 = 0) (hn : 0 < n) (hden : 0 < den) :
    n ≤ roundQuotient num den ↔ (2 * n - 1) * den ≤ 2 * num := by
  have hnum : num = den * (num / den) + num % den := (Nat.div_add_mod num den).symm
  have hrest : num % den < den := Nat.mod_lt num hden
  simp only [roundQuotient]
  generalize num / den = quotient at *
  generalize num % den = rest at *
  have hscale : (2 * n - 1) * den + den = 2 * (den * n) := by
    have h : (2 * n - 1) * den + den = (2 * n - 1 + 1) * den := (Nat.succ_mul _ _).symm
    rw [h, Nat.sub_add_cancel (by omega), Nat.mul_assoc, Nat.mul_comm n den]
  -- the quotient is at least `n`, one less, or less still
  rcases (by omega : n ≤ quotient ∨ n = quotient + 1 ∨ quotient + 2 ≤ n) with h | h | h
  · have hle : den * n ≤ den * quotient := Nat.mul_le_mul_left den h
    refine ⟨fun _ => by omega, fun _ => ?_⟩
    repeat' split
    all_goals omega
  · have heq : den * n = den * quotient + den := by rw [h, Nat.mul_succ]
    repeat' split
    all_goals omega
  · have hle : den * (quotient + 2) ≤ den * n := Nat.mul_le_mul_left den h
    have heq : den * (quotient + 2) = den * quotient + 2 * den := by
      rw [Nat.mul_add, Nat.mul_comm den 2]
    refine ⟨fun hround => ?_, fun _ => by omega⟩
    exfalso
    repeat' split at hround
    all_goals omega

namespace Binary64

variable {num den : Nat}

/-- Powers of two on either side of a quotient, by the binary logarithms of its terms. -/
theorem mul_two_pow_le (hnum : num ≠ 0) {j : Nat} (h : j + den.log2 + 1 ≤ num.log2) :
    den * 2 ^ j ≤ num := by
  calc den * 2 ^ j ≤ 2 ^ (den.log2 + 1) * 2 ^ j :=
        Nat.mul_le_mul_right _ (Nat.le_of_lt Nat.lt_log2_self)
    _ = 2 ^ (den.log2 + 1 + j) := (Nat.pow_add 2 _ _).symm
    _ ≤ 2 ^ num.log2 := Nat.pow_le_pow_right Nat.two_pos (by omega)
    _ ≤ num := Nat.log2_self_le hnum

theorem log2_le_of_mul_two_pow_le (hden : den ≠ 0) {j : Nat} (h : den * 2 ^ j ≤ num) :
    j + den.log2 ≤ num.log2 := by
  have hlt : 2 ^ (j + den.log2) < 2 ^ (num.log2 + 1) := by
    calc 2 ^ (j + den.log2) = 2 ^ den.log2 * 2 ^ j := by rw [Nat.pow_add, Nat.mul_comm]
      _ ≤ den * 2 ^ j := Nat.mul_le_mul_right _ (Nat.log2_self_le hden)
      _ ≤ num := h
      _ < 2 ^ (num.log2 + 1) := Nat.lt_log2_self
  have := (Nat.pow_lt_pow_iff_right (by decide : 1 < 2)).1 hlt
  omega

/-- The exponent of a quotient is at least a natural number just when the quotient has 53 binary
digits from there on. -/
theorem le_exponentOf_iff (hnum : num ≠ 0) (hden : den ≠ 0) (m : Nat) :
    (m : Int) ≤ exponentOf num den ↔ den * 2 ^ (m + 52) ≤ num := by
  have hreaches (k : Nat) : reaches num den k = true ↔ den * 2 ^ k ≤ num := by
    simp [reaches, Nat.pow_eq]
  unfold exponentOf
  simp only [minExponent]
  constructor
  · intro h
    rcases (by omega : m + 52 + den.log2 + 1 ≤ num.log2 ∨ num.log2 ≤ m + 52 + den.log2)
      with hlog | hlog
    · exact mul_two_pow_le hnum hlog
    · split at h
      · next hk =>
        have hlog : (num.log2 : Int) - den.log2 = (m + 52 : Nat) := by omega
        rw [hlog] at hk
        exact (hreaches _).1 hk
      · omega
  · intro h
    have hlog := log2_le_of_mul_two_pow_le hden h
    split
    · omega
    · next hk =>
      -- a quotient that does not reach its power of two is below it
      have hne : num.log2 ≠ m + 52 + den.log2 := by
        intro hlog
        have hlog : (num.log2 : Int) - den.log2 = (m + 52 : Nat) := by omega
        rw [hlog] at hk
        exact hk ((hreaches _).2 h)
      omega

/-- Halfway from the greatest significand to the next power of two, scaled by a power of two. -/
def halfway (k : Nat) : Nat := (2 * 2 ^ 53 - 1) * 2 ^ k

theorem two_pow_le_halfway (k : Nat) : 2 ^ (k + 1 + 52) ≤ halfway k := by
  rw [show k + 1 + 52 = 53 + k by omega, Nat.pow_add]
  exact Nat.mul_le_mul_right _ (by decide)

theorem halfway_le_two_pow (k : Nat) : halfway k ≤ 2 ^ (k + 2 + 52) := by
  rw [show k + 2 + 52 = 54 + k by omega, Nat.pow_add]
  exact Nat.mul_le_mul_right _ (by decide)

theorem halfway_pos (k : Nat) : 0 < halfway k := Nat.mul_pos (by decide) (Nat.two_pow_pos k)

/-- A quotient reaches the greatest significand after rounding from halfway on. -/
theorem le_roundQuotient_halfway (hden : den ≠ 0) (k : Nat) :
    2 ^ 53 ≤ roundQuotient num (den * 2 ^ (k + 1)) ↔ den * halfway k ≤ num := by
  have heven : 2 ^ 53 % 2 = 0 := by decide
  have hn : 0 < 2 ^ 53 := Nat.two_pow_pos 53
  have hpos : 0 < den * 2 ^ (k + 1) := Nat.mul_pos (Nat.pos_of_ne_zero hden) (Nat.two_pow_pos _)
  unfold halfway
  generalize 2 ^ 53 = n at *
  have hscale : (2 * n - 1) * (den * 2 ^ (k + 1)) = 2 * (den * ((2 * n - 1) * 2 ^ k)) := by
    rw [Nat.pow_succ, Nat.mul_left_comm _ den, ← Nat.mul_assoc (2 * n - 1), ← Nat.mul_assoc den,
      Nat.mul_comm _ 2]
  rw [le_roundQuotient_iff heven hn hpos, hscale]
  omega

/-- The least number that is rounded to an infinity. -/
def overflow : Nat := halfway 970

theorem overflow_pos : 0 < overflow := by
  rw [overflow]
  exact halfway_pos 970

theorem ofRounded_eq_infinite_iff {negative sign : Bool} {significand : Nat} {exponent : Int} :
    ofRounded negative significand exponent = .infinite sign ↔ sign = negative ∧
      (972 ≤ exponent ∨ exponent = 971 ∧ 2 ^ 53 ≤ significand) := by
  unfold ofRounded
  simp only [maxExponent, Nat.pow_eq]
  by_cases h : significand < 2 ^ 53
  · rw [if_pos h]
    by_cases he : 971 < exponent
    · simp [he, eq_comm, show (972 : Int) ≤ exponent from he]
    · simp [he]
      omega
  · rw [if_neg h]
    by_cases he : 971 < exponent + 1
    · simp [he, eq_comm]
      omega
    · simp [he]
      omega

/-- A quotient is rounded to an infinity from `overflow` on. -/
theorem ofRatio_eq_infinite_iff {negative sign : Bool} (hden : den ≠ 0) :
    ofRatio negative num den = .infinite sign ↔ sign = negative ∧ den * overflow ≤ num := by
  obtain ⟨k, hk⟩ : ∃ k, k = 970 := ⟨970, rfl⟩
  have hoverflow : overflow = halfway k := by rw [hk, overflow]
  have hscale : 0 < den * halfway k := Nat.mul_pos (Nat.pos_of_ne_zero hden) (halfway_pos k)
  rw [hoverflow, ofRatio]
  simp only [Nat.pow_eq]
  by_cases hnum : num = 0
  · rw [if_pos hnum, hnum]
    simp [zero, Nat.ne_of_gt hscale]
  · rw [if_neg hnum, ofRounded_eq_infinite_iff]
    refine and_congr_right fun _ => ?_
    have hleast := le_exponentOf_iff hnum hden (k + 1)
    have hnext := le_exponentOf_iff hnum hden (k + 2)
    generalize exponentOf num den = exponent at *
    rcases (by omega : 972 ≤ exponent ∨ exponent = (k + 1 : Nat) ∨ exponent < 971)
      with he | he | he
    · refine ⟨fun _ => ?_, fun _ => Or.inl he⟩
      exact Nat.le_trans (Nat.mul_le_mul_left den (halfway_le_two_pow k)) (hnext.1 (by omega))
    · rw [show (-exponent).toNat = 0 by omega, show exponent.toNat = k + 1 by omega, Nat.pow_zero,
        Nat.mul_one, le_roundQuotient_halfway hden]
      exact ⟨fun h => by omega, fun h => Or.inr ⟨by omega, h⟩⟩
    · refine ⟨fun h => by omega, fun h => ?_⟩
      have := hleast.2 (Nat.le_trans (Nat.mul_le_mul_left den (two_pow_le_halfway k)) h)
      omega

end Binary64

/-- An integer has no abbreviated form from `overflow` billions on. -/
theorem Abbreviated.ofInt_eq_none_iff {n : Int} :
    ofInt n = none ↔ ((billion * Binary64.overflow : Nat) : Int) ≤ n := by
  have hleast : billion ≤ billion * Binary64.overflow :=
    Nat.le_mul_of_pos_right _ Binary64.overflow_pos
  have hinfinite (sign : Bool) : Binary64.ofRatio false n.natAbs billion = .infinite sign ↔
      sign = false ∧ billion * Binary64.overflow ≤ n.natAbs :=
    Binary64.ofRatio_eq_infinite_iff (by decide)
  generalize billion * Binary64.overflow = bound at *
  unfold ofInt
  by_cases hbillion : (billion : Int) ≤ n
  · rw [if_pos hbillion]
    cases hratio : Binary64.ofRatio false n.natAbs billion with
    | infinite sign =>
      have := ((hinfinite sign).1 hratio).2
      exact ⟨fun _ => by omega, fun _ => rfl⟩
    | _ =>
      have hfinite : ¬ bound ≤ n.natAbs := fun hle => by
        simp [(hinfinite false).2 ⟨rfl, hle⟩] at hratio
      exact ⟨fun h => by simp at h, fun h => by omega⟩
  · rw [if_neg hbillion]
    refine ⟨fun h => ?_, fun h => by omega⟩
    split at h <;> cases h

end ContentModel
