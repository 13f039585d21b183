import Mathlib.Tactic.IntervalCases
import Mathlib.Tactic.Linarith
import ContentModel.Proofs.Numeric.Overflow
import ContentModel.Rendering.Formatter

/-!
# Mantissas of abbreviated numbers

What stands before the unit of an integer from a million on.

* `roundQuotient_half` bounds the error of a rounded quotient by a half;
* `Binary64.exists_ofRatio_eq` says where a quotient of at least one is rounded to, and
  `Binary64.denominator_le_numerator` that the number stays at least one;
* `Abbreviated.WritesTenths` is the form of a mantissa, `Abbreviated.mantissa_writesTenths` finds it
  in the mantissa of every number;
* `Formatter.integer_abbreviated` puts these together: the mantissa of a count of millions is the
  nearest tenth, also where that is a thousand.
-/

namespace ContentModel

/-! ## Rounding -/

/-- A rounded quotient is within a half of the quotient. -/
theorem roundQuotient_half (num : Nat) {den : Nat} (hden : 0 < den) :
    2 * (den * roundQuotient num den) ≤ 2 * num + den ∧
      2 * num ≤ 2 * (den * roundQuotient num den) + den := by
  have hnum : num = den * (num / den) + num % den := (Nat.div_add_mod num den).symm
  have hrest : num % den < den := Nat.mod_lt num hden
  simp only [roundQuotient]
  generalize num / den = quotient at *
  generalize num % den = rest at *
  have hnext : den * (quotient + 1) = den * quotient + den := Nat.mul_succ den quotient
  repeat' split
  all_goals omega

/-- A quotient more than a half below a number is rounded to less. -/
theorem roundQuotient_lt {num den n : Nat} (hden : 0 < den) (h : 2 * num + den < 2 * (den * n)) :
    roundQuotient num den < n := by
  have hrounded := (roundQuotient_half num hden).1
  by_contra hnot
  have hle := Nat.mul_le_mul_left den (Nat.le_of_not_lt hnot)
  omega

/-- A quotient that is rounded to parts finer than its denominator first is still rounded to within
a half of a tenth. -/
theorem roundQuotient_twice (num : Nat) {tenth scale : Nat} (hpos : 0 < tenth)
    (hfine : 10 * tenth < scale) :
    let tenths := roundQuotient (roundQuotient (num * scale) (10 * tenth) * 10) scale
    2 * (tenth * tenths) ≤ 2 * num + tenth ∧ 2 * num ≤ 2 * (tenth * tenths) + tenth := by
  intro tenths
  obtain ⟨hfirst, hfirst'⟩ := roundQuotient_half (num * scale) (show 0 < 10 * tenth by omega)
  obtain ⟨hsecond, hsecond'⟩ := roundQuotient_half
    (roundQuotient (num * scale) (10 * tenth) * 10) (show 0 < scale by omega)
  change 2 * (scale * tenths) ≤ _ at hsecond
  change _ ≤ 2 * (scale * tenths) + scale at hsecond'
  generalize roundQuotient (num * scale) (10 * tenth) = parts at *
  -- both errors at one scale, where the first is less than a unit
  have hup := Nat.mul_le_mul_left tenth hsecond
  have hdown := Nat.mul_le_mul_left tenth hsecond'
  constructor
  · by_contra hnot
    have hunit := Nat.mul_le_mul_left scale (Nat.lt_of_not_le hnot)
    linarith only [hup, hfirst, hunit, hfine]
  · by_contra hnot
    have hunit := Nat.mul_le_mul_left scale (Nat.lt_of_not_le hnot)
    linarith only [hdown, hfirst', hunit, hfine]

namespace Binary64

variable {num den : Nat}

/-- The exponent of a quotient of at least one is that of the power of two below it, less the 52
binary digits after the first. -/
theorem exists_exponentOf_eq (hden : den ≠ 0) (h : den ≤ num) :
    ∃ j : Nat, exponentOf num den = j - 52 ∧ den * 2 ^ j ≤ num ∧ num < den * 2 ^ (j + 1) := by
  have hnum : num ≠ 0 := by omega
  have hlog : den.log2 ≤ num.log2 := by
    have hone := log2_le_of_mul_two_pow_le hden (show den * 2 ^ 0 ≤ num by simpa using h)
    omega
  obtain ⟨k, hk⟩ := Nat.exists_eq_add_of_le' hlog
  have hcast : (num.log2 : Int) - den.log2 = k := by omega
  have hreaches : reaches num den k = true ↔ den * 2 ^ k ≤ num := by simp [reaches, Nat.pow_eq]
  unfold exponentOf
  simp only [minExponent, hcast]
  by_cases hpow : den * 2 ^ k ≤ num
  · refine ⟨k, ?_, hpow, Nat.lt_of_not_le fun hle => ?_⟩
    · rw [if_pos (hreaches.2 hpow)]
      omega
    · have := log2_le_of_mul_two_pow_le hden hle
      omega
  · cases k with
    | zero => omega
    | succ j =>
      refine ⟨j, ?_, mul_two_pow_le hnum (by omega), Nat.lt_of_not_le hpow⟩
      rw [if_neg (mt hreaches.1 hpow)]
      omega

/-- A quotient of at least one is rounded to 53 binary digits. -/
theorem exists_ofRatio_eq (negative : Bool) (hden : den ≠ 0) (h : den ≤ num) :
    ∃ j : Nat, den * 2 ^ j ≤ num ∧ num < den * 2 ^ (j + 1) ∧
      2 ^ 52 ≤ roundQuotient (num * 2 ^ (52 - j)) (den * 2 ^ (j - 52)) ∧
      ofRatio negative num den = ofRounded negative
        (roundQuotient (num * 2 ^ (52 - j)) (den * 2 ^ (j - 52))) (j - 52) := by
  obtain ⟨j, hexponent, hlow, hhigh⟩ := exists_exponentOf_eq hden h
  refine ⟨j, hlow, hhigh, ?_, ?_⟩
  · have hpos : 0 < den * 2 ^ (j - 52) := Nat.mul_pos (by omega) (Nat.two_pow_pos _)
    refine Nat.le_trans ((Nat.le_div_iff_mul_le hpos).2 ?_) (le_roundQuotient _ _)
    calc 2 ^ 52 * (den * 2 ^ (j - 52)) = den * 2 ^ (52 + (j - 52)) := by
          rw [Nat.mul_left_comm, Nat.pow_add]
      _ = den * 2 ^ (j + (52 - j)) := by rw [show 52 + (j - 52) = j + (52 - j) by omega]
      _ = den * 2 ^ j * 2 ^ (52 - j) := by rw [Nat.pow_add, Nat.mul_assoc]
      _ ≤ num * 2 ^ (52 - j) := Nat.mul_le_mul_right _ hlow
  · rw [ofRatio, if_neg (by omega)]
    simp only [hexponent, Nat.pow_eq, show (-((j : Int) - 52)).toNat = 52 - j by omega,
      show ((j : Int) - 52).toNat = j - 52 by omega]

/-- A quotient of at least one is rounded to a number of at least one, if to a finite one. -/
theorem denominator_le_numerator {negative sign : Bool} {significand : Nat} {exponent : Int}
    (hden : den ≠ 0) (h : den ≤ num)
    (hratio : ofRatio negative num den = .finite sign significand exponent) :
    (finite sign significand exponent).denominator ≤
      (finite sign significand exponent).numerator := by
  obtain ⟨j, -, -, hlow, heq⟩ := exists_ofRatio_eq negative hden h
  rw [heq] at hratio
  generalize roundQuotient _ _ = rounded at *
  have hscale (significand : Nat) (exponent : Int) (hexponent : -52 ≤ exponent)
      (hlow : 2 ^ 52 ≤ significand) :
      2 ^ (-exponent).toNat ≤ significand * 2 ^ exponent.toNat :=
    calc 2 ^ (-exponent).toNat ≤ 2 ^ 52 := Nat.pow_le_pow_right Nat.two_pos (by omega)
      _ ≤ significand := hlow
      _ ≤ significand * 2 ^ exponent.toNat := Nat.le_mul_of_pos_right _ (Nat.two_pow_pos _)
  unfold ofRounded at hratio
  simp only [Nat.pow_eq] at hratio
  by_cases hcarry : rounded < 2 ^ 53
  · rw [if_pos hcarry] at hratio
    by_cases hmax : maxExponent < (j : Int) - 52
    · simp [hmax] at hratio
    · simp only [if_neg hmax, finite.injEq] at hratio
      obtain ⟨-, rfl, rfl⟩ := hratio
      exact hscale _ _ (by omega) hlow
  · rw [if_neg hcarry] at hratio
    by_cases hmax : maxExponent < (j : Int) - 52 + 1
    · simp [hmax] at hratio
    · simp only [if_neg hmax, finite.injEq] at hratio
      obtain ⟨-, rfl, rfl⟩ := hratio
      exact hscale _ _ (by omega) (Nat.le_refl _)

end Binary64

namespace Abbreviated

/-! ## The form of a mantissa -/

/-- The decimal of a number of tenths: its whole part, and a digit after a point unless that digit
is zero. -/
inductive WritesTenths : List Char → Nat → Prop
  | whole (n : Nat) : WritesTenths (Digits.ofNat n) (10 * n)
  | tenth (n digit : Nat) (hlow : 1 ≤ digit) (hhigh : digit ≤ 9) :
    WritesTenths (Digits.ofNat n ++ ['.', Nat.digitChar digit]) (10 * n + digit)

theorem dropPointZero_append (text : List Char) (c : Char) :
    dropPointZero (text ++ ['.', c]) = if c = '0' then text else text ++ ['.', c] := by
  unfold dropPointZero
  split
  · next rest hrest =>
    have hshape : c :: '.' :: text.reverse = '0' :: '.' :: rest := by simpa using hrest
    simp only [List.cons.injEq, true_and] at hshape
    rw [if_pos hshape.1, ← hshape.2, List.reverse_reverse]
  · next hshape =>
    refine (if_neg fun hc => hshape text.reverse ?_).symm
    simp [hc]

/-- The number of tenths nearest to the absolute value of a finite number. -/
def tenths (x : Binary64) : Nat := roundQuotient (x.numerator * 10) x.denominator

/-- The mantissa of a finite number is its nearest number of tenths. -/
theorem mantissa_writesTenths (negative : Bool) (significand : Nat) (exponent : Int) :
    WritesTenths (mantissa (.finite negative significand exponent))
      (tenths (.finite negative significand exponent)) := by
  rw [mantissa, Fixed.places, Fixed.parts, tenths]
  simp only [show Nat.pow 10 1 = 10 from rfl]
  generalize roundQuotient _ _ = tenths
  have hdigit : tenths % 10 < 10 := Nat.mod_lt tenths (by decide)
  have htenths : 10 * (tenths / 10) + tenths % 10 = tenths := Nat.div_add_mod tenths 10
  generalize tenths / 10 = whole at *
  generalize tenths % 10 = digit at *
  have hpadded : Digits.padded 1 digit = [Nat.digitChar digit] := by
    simp [Digits.padded, Digits.ofNat, Nat.toDigits_of_lt_base hdigit]
  have hchar : Nat.digitChar digit = '0' ↔ digit = 0 := by
    interval_cases digit <;> decide
  rw [hpadded, dropPointZero_append, ← htenths]
  by_cases hzero : digit = 0
  · rw [if_pos (hchar.2 hzero), hzero]
    exact .whole whole
  · rw [if_neg (mt hchar.1 hzero)]
    exact .tenth whole digit (by omega) (by omega)

end Abbreviated

namespace Binary64

theorem ofRounded_ne_nan {negative : Bool} {significand : Nat} {exponent : Int} :
    ofRounded negative significand exponent ≠ .nan := by
  unfold ofRounded
  by_cases hcarry : significand < Nat.pow 2 53
  · by_cases hmax : maxExponent < exponent <;> simp [hcarry, hmax]
  · by_cases hmax : maxExponent < exponent + 1 <;> simp [hcarry, hmax]

theorem thousand_le_halfway (k : Nat) : 1000 ≤ halfway k :=
  calc 1000 ≤ 2 ^ 52 := by decide
    _ ≤ 2 ^ (k + 1 + 52) := Nat.pow_le_pow_right Nat.two_pos (by omega)
    _ ≤ halfway k := two_pow_le_halfway k

/-- A quotient below the bound is rounded to a finite number. -/
theorem exists_ofRatio_eq_finite (negative : Bool) (hden : den ≠ 0) (h : num < den * overflow) :
    ∃ sign significand exponent, ofRatio negative num den = .finite sign significand exponent := by
  cases hratio : ofRatio negative num den with
  | finite sign significand exponent => exact ⟨sign, significand, exponent, rfl⟩
  | infinite sign =>
    have hle := ((ofRatio_eq_infinite_iff hden).1 hratio).2
    omega
  | nan =>
    unfold ofRatio at hratio
    split at hratio
    · cases hratio
    · exact absurd hratio ofRounded_ne_nan

end Binary64

namespace Abbreviated

/-! ## Counts of millions and of billions -/

/-- The mantissa of a quotient below the bound is its nearest number of tenths. -/
theorem mantissa_ofRatio_writesTenths {num den : Nat} (hden : den ≠ 0)
    (hfinite : num < den * Binary64.overflow) :
    WritesTenths (mantissa (Binary64.ofRatio false num den))
      (tenths (Binary64.ofRatio false num den)) := by
  obtain ⟨sign, significand, exponent, hratio⟩ :=
    Binary64.exists_ofRatio_eq_finite false hden hfinite
  rw [hratio]
  exact mantissa_writesTenths sign significand exponent

/-- A finite quotient of at least one is shown with at least ten tenths. -/
theorem ten_le_tenths {num den : Nat} (hden : den ≠ 0) (h : den ≤ num)
    (hfinite : num < den * Binary64.overflow) : 10 ≤ tenths (Binary64.ofRatio false num den) := by
  obtain ⟨sign, significand, exponent, hratio⟩ :=
    Binary64.exists_ofRatio_eq_finite false hden hfinite
  have hone := Binary64.denominator_le_numerator hden h hratio
  rw [hratio, tenths]
  refine Nat.le_trans ?_ (le_roundQuotient _ _)
  rw [Nat.le_div_iff_mul_le (Binary64.denominator_pos _)]
  omega

/-- A quotient from one to a thousand or so is rounded to parts finer than its denominator before it
is rounded to tenths. -/
theorem exists_tenths_eq {num den : Nat} (hden : 0 < den) (hfine : den < 2 ^ 43) (hlow : den ≤ num)
    (hhigh : num < den * 2 ^ 10) : ∃ scale, den < scale ∧ tenths (Binary64.ofRatio false num den) =
      roundQuotient (roundQuotient (num * scale) den * 10) scale := by
  obtain ⟨j, hj, hj', -, hratio⟩ :=
    Binary64.exists_ofRatio_eq false (Nat.ne_of_gt hden) hlow
  -- 43 binary digits or more come after the point
  have hdigits : j < 10 := by
    have hpow : 2 ^ j < 2 ^ 10 := Nat.lt_of_mul_lt_mul_left (Nat.lt_of_le_of_lt hj hhigh)
    exact (Nat.pow_lt_pow_iff_right (by decide)).1 hpow
  have hscale : den < 2 ^ (52 - j) :=
    Nat.lt_of_lt_of_le hfine (Nat.pow_le_pow_right Nat.two_pos (show 43 ≤ 52 - j by omega))
  have hpow : 2 ^ (j + 1) * 2 ^ (52 - j) = 2 ^ 53 := by
    rw [← Nat.pow_add, show j + 1 + (52 - j) = 53 by omega]
  have hcarry : roundQuotient (num * 2 ^ (52 - j)) den < 2 ^ 53 := by
    have hbelow := Nat.mul_le_mul_right (2 ^ (52 - j)) (Nat.succ_le_of_lt hj')
    rw [Nat.mul_assoc, hpow, Nat.succ_mul] at hbelow
    exact roundQuotient_lt hden (by omega)
  have hfinite : ¬ Binary64.maxExponent < (j : Int) - 52 := by
    unfold Binary64.maxExponent
    omega
  have hnumerator : ((j : Int) - 52).toNat = 0 := by omega
  have hdenominator : (-((j : Int) - 52)).toNat = 52 - j := by omega
  rw [show j - 52 = 0 by omega, Nat.pow_zero, Nat.mul_one] at hratio
  refine ⟨2 ^ (52 - j), hscale, ?_⟩
  simp only [hratio, Binary64.ofRounded, Nat.pow_eq, if_pos hcarry, if_neg hfinite, tenths,
    Binary64.numerator, Binary64.denominator, hnumerator, hdenominator, Nat.pow_zero, Nat.mul_one]

/-- The count of millions of an integer below a billion is shown as the nearest number of tenths. -/
theorem tenths_million {n : Nat} (hlow : million ≤ n) (hhigh : n < billion) :
    2 * (100000 * tenths (Binary64.ofRatio false n million)) ≤ 2 * n + 100000 ∧
      2 * n ≤ 2 * (100000 * tenths (Binary64.ofRatio false n million)) + 100000 := by
  have hthousand : n < million * 2 ^ 10 := Nat.lt_trans hhigh (by decide)
  obtain ⟨scale, hscale, htenths⟩ := exists_tenths_eq (by decide) (by decide) hlow hthousand
  rw [htenths]
  exact roundQuotient_twice n (by decide) hscale

/-- The least integer whose count of millions is rounded to a thousand. -/
def thousandMillions : Nat := 999950000

/-- The count of millions of an integer below a billion is shown as at most a thousand, and as a
thousand from `thousandMillions` on. -/
theorem tenths_million_le {n : Nat} (hlow : million ≤ n) (hhigh : n < billion) :
    tenths (Binary64.ofRatio false n million) ≤ 10000 ∧
      (tenths (Binary64.ofRatio false n million) = 10000 ↔ thousandMillions ≤ n) := by
  have hnearest := tenths_million hlow hhigh
  unfold billion at hhigh
  unfold thousandMillions
  by_cases htie : n = 999950000
  · -- halfway between two tenths, where the division is rounded up
    have hthousand : tenths (Binary64.ofRatio false 999950000 million) = 10000 := by decide
    rw [htie]
    exact ⟨Nat.le_of_eq hthousand, fun _ => Nat.le_refl _, fun _ => hthousand⟩
  · omega

end Abbreviated

namespace Formatter

open Abbreviated

theorem integer_million {n : Nat} (hlow : million ≤ n) (hhigh : ¬ billion ≤ n) : integer n =
    .ok (String.ofList (mantissa (Binary64.ofRatio false n million) ++ ['M'])) := by
  rw [integer_eq_abbreviated (by omega), ofInt, if_neg (by omega), if_pos (by omega)]
  rfl

theorem integer_billion {n : Nat} (hlow : billion ≤ n) (hfinite : n < billion * Binary64.overflow) :
    integer n = .ok (String.ofList (mantissa (Binary64.ofRatio false n billion) ++ ['B'])) := by
  obtain ⟨sign, significand, exponent, hratio⟩ :=
    Binary64.exists_ofRatio_eq_finite false (show billion ≠ 0 by decide) hfinite
  rw [integer_eq_abbreviated (by omega), ofInt, if_pos (by omega), Int.natAbs_natCast, hratio]

/-- **An integer from a million on is shown as a mantissa and a unit**, as far as its count of
billions is in the range of the format. The unit is the one of the exact value, and the mantissa a
decimal of at least one with at most one digit after the point. Before the unit of millions it is
within a half of a tenth of the count; it is below a thousand but for the integers from
`thousandMillions` on, whose mantissa is a thousand. -/
theorem integer_abbreviated {n : Int} (h : million ≤ n)
    (hfinite : n < (billion * Binary64.overflow : Nat)) :
    ∃ mantissa tenths unit, number (.int n) = .ok (String.ofList (mantissa ++ [unit])) ∧
      WritesTenths mantissa tenths ∧ 10 ≤ tenths ∧
      (n < billion → unit = 'M' ∧ 2 * |100000 * (tenths : Int) - n| ≤ 100000 ∧ tenths ≤ 10000 ∧
        (tenths = 10000 ↔ thousandMillions ≤ n)) ∧
      (billion ≤ n → unit = 'B') := by
  obtain ⟨n, rfl⟩ : ∃ m : Nat, n = m := ⟨n.toNat, by omega⟩
  have hlow : million ≤ n := Int.ofNat_le.1 h
  have hbound : n < billion * Binary64.overflow := Int.ofNat_lt.1 hfinite
  by_cases hbillion : billion ≤ n
  · have hwrites := mantissa_ofRatio_writesTenths (show billion ≠ 0 by decide) hbound
    exact ⟨_, _, 'B', integer_billion hbillion hbound, hwrites,
      ten_le_tenths (by decide) hbillion hbound, fun hlt => by omega, fun _ => rfl⟩
  · have hmillion : n < million * Binary64.overflow :=
      calc n < million * 1000 := Nat.lt_of_not_le hbillion
        _ ≤ million * Binary64.overflow := Nat.mul_le_mul_left _ (Binary64.thousand_le_halfway 970)
    have hwrites := mantissa_ofRatio_writesTenths (show million ≠ 0 by decide) hmillion
    obtain ⟨hup, hdown⟩ := tenths_million hlow (Nat.lt_of_not_le hbillion)
    obtain ⟨hle, heq⟩ := tenths_million_le hlow (Nat.lt_of_not_le hbillion)
    refine ⟨_, _, 'M', integer_million hlow hbillion, hwrites,
      ten_le_tenths (by decide) hlow hmillion, fun _ => ⟨rfl, ?_, hle, ?_⟩, fun hle => by omega⟩
    · have hhalf : |100000 * (tenths (Binary64.ofRatio false n million) : Int) - n| ≤ 50000 :=
        abs_le.2 ⟨by omega, by omega⟩
      omega
    · exact heq.trans Int.ofNat_le.symm

/-- Ten to the ninth less one is shown as a thousand millions. -/
theorem integer_abbreviated_thousand : (million : Int) ≤ 999999999 ∧
    (999999999 : Int) < (billion * Binary64.overflow : Nat) ∧
    ∃ mantissa tenths unit, number (.int 999999999) = .ok (String.ofList (mantissa ++ [unit])) ∧
      WritesTenths mantissa tenths ∧ 10 ≤ tenths ∧
      ((999999999 : Int) < billion → unit = 'M' ∧
        2 * |100000 * (tenths : Int) - 999999999| ≤ 100000 ∧ tenths ≤ 10000 ∧
        (tenths = 10000 ↔ (thousandMillions : Int) ≤ 999999999)) ∧
      ((billion : Int) ≤ 999999999 → unit = 'B') := by
  have hlow : (million : Int) ≤ 999999999 := by decide
  have hfinite : (999999999 : Int) < (billion * Binary64.overflow : Nat) := by
    refine Int.ofNat_lt.2 (Nat.lt_of_lt_of_le (show 999999999 < billion * 1 by decide) ?_)
    exact Nat.mul_le_mul_left billion Binary64.overflow_pos
  exact ⟨hlow, hfinite, integer_abbreviated hlow hfinite⟩

end Formatter

end ContentModel
