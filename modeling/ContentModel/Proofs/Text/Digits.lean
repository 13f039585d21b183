import Mathlib.Data.List.Basic
import Mathlib.Data.Nat.Digits.Defs
import Mathlib.Tactic.IntervalCases
import ContentModel.Numeric.Digits
import ContentModel.Numeric.Numeral

/-!
# Runs of digits

What runs of decimal digits write.

* `Text.isBlank_of_isDigit` says that digits are no blanks;
* `Text.digitsValue_append` and `Text.digitsValue_lt` give the value of a run by its parts and bound
  it by its length;
* `Digits.ofNat_injective` and `Digits.ofInt_injective` say that a numeral determines the number;
* `Digits.isTooLong_iff` bounds the integers that have too many digits;
* `Digits.padded` writes a run of the given length (`Digits.length_padded`) of ASCII digits
  (`Digits.isAsciiDigit_of_mem_padded`) whose value is the number (`Digits.digitsValue_padded`).
-/

namespace ContentModel

namespace Text

theorem isAsciiDigit_iff {c : Char} : isAsciiDigit c = true ↔ 48 ≤ c.toNat ∧ c.toNat ≤ 57 := by
  simp only [isAsciiDigit, Bool.and_eq_true, decide_eq_true_eq]
  exact Iff.rfl

theorem digitValue?_of_isAsciiDigit {c : Char} (h : isAsciiDigit c = true) :
    digitValue? c = some (c.toNat - 48) := by
  obtain ⟨hlow, hhigh⟩ := isAsciiDigit_iff.1 h
  rw [digitValue?, digitZeros, digitValueIn, if_neg (Nat.not_lt.2 hlow), if_pos hhigh]

theorem isDigit_of_isAsciiDigit {c : Char} (h : isAsciiDigit c = true) : isDigit c = true := by
  rw [isDigit, digitValue?_of_isAsciiDigit h]
  rfl

/-- The digits of the other scripts begin above the ASCII characters. -/
theorem isAsciiDigit_of_isDigit {c : Char} (h : isDigit c = true) (hlow : c.toNat < 128) :
    isAsciiDigit c = true := by
  rw [isDigit, digitValue?, digitZeros, digitValueIn] at h
  split at h
  · cases h
  · split at h
    · exact isAsciiDigit_iff.2 ⟨by omega, by omega⟩
    · rw [digitValueIn, if_pos (by omega)] at h
      cases h

theorem exists_start_of_digitValueIn {zeros : List Nat} {n value : Nat}
    (h : digitValueIn zeros n = some value) : ∃ first ∈ zeros, first ≤ n ∧ n ≤ first + 9 := by
  induction zeros with
  | nil => cases h
  | cons start rest ih =>
    rw [digitValueIn] at h
    split at h
    · cases h
    · split at h
      · exact ⟨start, List.mem_cons_self, by omega, by omega⟩
      · obtain ⟨first, hmem, hzero⟩ := ih h
        exact ⟨first, List.mem_cons_of_mem _ hmem, hzero⟩

theorem Ranges.exists_of_has {ranges : Ranges} {n : Nat} (h : ranges.has n = true) :
    ∃ range ∈ ranges, range.1 ≤ n ∧ n ≤ range.2 := by
  induction ranges with
  | nil => cases h
  | cons range rest ih =>
    rw [has] at h
    split at h
    · cases h
    · rcases Bool.or_eq_true_iff.1 h with hin | hrest
      · exact ⟨range, List.mem_cons_self, by omega, of_decide_eq_true hin⟩
      · obtain ⟨other, hmem, hother⟩ := ih hrest
        exact ⟨other, List.mem_cons_of_mem _ hmem, hother⟩

/-- Digits of all scripts are no blanks. -/
theorem isBlank_of_isDigit {c : Char} (h : isDigit c = true) : isBlank c = false := by
  have hapart : ∀ first ∈ digitZeros, ∀ range ∈ blankRanges,
      first + 9 < range.1 ∨ range.2 < first := by decide
  obtain ⟨value, hvalue⟩ := Option.isSome_iff_exists.1 h
  obtain ⟨first, hzero, hdigit⟩ := exists_start_of_digitValueIn hvalue
  refine Bool.eq_false_iff.2 fun hblank => ?_
  obtain ⟨range, hrange, hin⟩ := Ranges.exists_of_has hblank
  have := hapart first hzero range hrange
  omega

theorem digitsValue_nil : digitsValue [] = 0 := rfl

/-- A digit in front counts as many times as there are numbers of the length behind it. -/
theorem foldl_digits (n : Nat) (run : List Char) :
    run.foldl (fun n c => 10 * n + (digitValue? c).getD 0) n =
      n * 10 ^ run.length + digitsValue run := by
  induction run generalizing n with
  | nil => simp [digitsValue]
  | cons c rest ih =>
    rw [List.foldl_cons, digitsValue, List.foldl_cons, ih, ih (10 * 0 + _), List.length_cons]
    ring

theorem digitsValue_append (first second : List Char) : digitsValue (first ++ second) =
    digitsValue first * 10 ^ second.length + digitsValue second := by
  rw [digitsValue, List.foldl_append]
  exact foldl_digits _ second

theorem digitsValue_cons (c : Char) (rest : List Char) :
    digitsValue (c :: rest) = (digitValue? c).getD 0 * 10 ^ rest.length + digitsValue rest := by
  have hone : digitsValue [c] = (digitValue? c).getD 0 := by simp [digitsValue]
  rw [← hone]
  exact digitsValue_append [c] rest

theorem digitsValue_lt (run : List Char) : digitsValue run < 10 ^ run.length := by
  induction run with
  | nil => decide
  | cons c rest ih =>
    have hdigit : (digitValue? c).getD 0 ≤ 9 := by
      cases h : digitValue? c with
      | none => exact Nat.zero_le 9
      | some value => exact digitValue?_le_nine h
    have hmul := Nat.mul_le_mul_right (10 ^ rest.length) hdigit
    rw [digitsValue_cons, List.length_cons, pow_succ]
    omega

end Text

namespace Digits

open Text

theorem isAsciiDigit_of_mem_ofNat {n : Nat} {c : Char} (h : c ∈ ofNat n) :
    isAsciiDigit c = true := by
  have hdigit := isDigit_of_mem_ofNat h
  simp only [Char.isDigit, Bool.and_eq_true, decide_eq_true_eq] at hdigit
  exact isAsciiDigit_iff.2 hdigit

/-- A numeral begins with a digit. -/
theorem exists_ofNat_eq_cons (n : Nat) :
    ∃ c rest, ofNat n = c :: rest ∧ isAsciiDigit c = true := by
  obtain ⟨c, rest, hdigits⟩ := List.exists_cons_of_ne_nil (ofNat_ne_nil n)
  exact ⟨c, rest, hdigits, isAsciiDigit_of_mem_ofNat (hdigits ▸ List.mem_cons_self)⟩

theorem digitsValue_ofNat (n : Nat) : digitsValue (ofNat n) = n := by
  have hread : digitsValue (ofNat n) = Nat.ofDigitChars 10 (Nat.toDigits 10 n) 0 := by
    rw [Nat.ofDigitChars_eq_foldl, digitsValue]
    refine List.foldl_ext _ _ _ fun value c hc => ?_
    rw [digitValue?_of_isAsciiDigit (isAsciiDigit_of_mem_ofNat hc)]
    rfl
  rw [hread, Nat.ofDigitChars_ten_toDigits]

theorem ofNat_injective : Function.Injective ofNat := fun n m h => by
  rw [← digitsValue_ofNat n, h, digitsValue_ofNat]

/-- A numeral is made of digits, and of a minus sign if the number is negative. -/
theorem mem_ofInt {n : Int} {c : Char} (h : c ∈ ofInt n) : c = '-' ∨ isAsciiDigit c = true := by
  unfold ofInt at h
  split at h
  · exact (List.mem_cons.1 h).imp_right isAsciiDigit_of_mem_ofNat
  · exact Or.inr (isAsciiDigit_of_mem_ofNat h)

/-- A numeral determines the integer: no digit is taken for the sign. -/
theorem ofInt_injective : Function.Injective ofInt := by
  have hsign (n : Nat) (rest : List Char) : '-' :: rest ≠ ofNat n := fun h =>
    absurd (isAsciiDigit_of_mem_ofNat (h ▸ List.mem_cons_self)) (by decide)
  intro n m h
  unfold ofInt at h
  split at h <;> split at h
  · have habs := ofNat_injective (List.cons.inj h).2
    omega
  · exact absurd h (hsign _ _)
  · exact absurd h.symm (hsign _ _)
  · have habs := ofNat_injective h
    omega

/-- Only the numeral of zero begins with a zero. -/
theorem head?_ofNat_eq_zero_iff (n : Nat) : (ofNat n).head? = some '0' ↔ n = 0 := by
  induction n using Nat.strongRecOn with
  | ind n ih =>
    rcases Nat.lt_or_ge n 10 with hn | hn
    · rw [ofNat, Nat.toDigits_of_lt_base hn]
      interval_cases n <;> decide
    · have hrest := ih (n / 10) (by omega)
      rw [ofNat, Nat.toDigits_of_base_le (by decide) hn, List.head?_append_of_ne_nil _
        Nat.toDigits_ne_nil]
      exact hrest.trans ⟨fun h => by omega, fun h => by omega⟩

theorem asciiValue_ofNat (n : Nat) : Numeral.asciiValue (ofNat n) = n := by
  have hread : Numeral.asciiValue (ofNat n) = Nat.ofDigitChars 10 (Nat.toDigits 10 n) 0 := by
    rw [Nat.ofDigitChars_eq_foldl]
    rfl
  rw [hread, Nat.ofDigitChars_ten_toDigits]

theorem isTooLong_iff {n : Int} : isTooLong n = true ↔ 10 ^ maxDigits ≤ n.natAbs := by
  have hlength : (ofNat n.natAbs).length ≤ maxDigits ↔ n.natAbs < 10 ^ maxDigits :=
    Nat.length_toDigits_le_iff (by decide) (by decide)
  rw [isTooLong, decide_eq_true_iff, ← Nat.not_le, hlength, Nat.not_lt]

theorem isAsciiDigit_of_mem_padded {width n : Nat} {c : Char} (h : c ∈ padded width n) :
    isAsciiDigit c = true := by
  rcases List.mem_append.1 h with hzero | hdigit
  · rw [(List.mem_replicate.1 hzero).2]
    rfl
  · exact isAsciiDigit_of_mem_ofNat hdigit

theorem length_padded {width n : Nat} (hwidth : 0 < width) (hn : n < 10 ^ width) :
    (padded width n).length = width := by
  have hlength : (ofNat n).length ≤ width := Nat.toDigits_length 10 n width hwidth hn
  simp only [padded, List.length_append, List.length_replicate]
  omega

theorem digitsValue_padded (width n : Nat) : digitsValue (padded width n) = n := by
  have hzeros : ∀ k, digitsValue (List.replicate k '0') = 0 := by
    intro k
    induction k with
    | zero => rfl
    | succ k ih =>
      rw [List.replicate_succ, digitsValue_cons, ih,
        digitValue?_of_isAsciiDigit (show isAsciiDigit '0' = true from rfl)]
      simp
  rw [padded, digitsValue_append, hzeros, digitsValue_ofNat, Nat.zero_mul, Nat.zero_add]

end Digits

end ContentModel
