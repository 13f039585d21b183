import ContentModel.Numeric.Rounding

/-!
# Binary floating-point numbers

Numbers of the 64-bit binary format: a sign, a significand below `2 ^ 53` and a power of two,
besides the infinities and a value that is no number.

* `Binary64.ofRatio` rounds a quotient to the nearest number of the format, `ofScientific` a
  decimal numeral;
* `numerator` and `denominator` give the exact absolute value of a finite number;
* `sameValue`, `equalsInt` and `atLeast` compare exact values;
* `isIntegral` and `truncated` relate a number to the integers.
-/

namespace ContentModel

/-- A number of the 64-bit binary format. -/
inductive Binary64
  /-- `± significand * 2 ^ exponent`; zero has both signs. -/
  | finite (negative : Bool) (significand : Nat) (exponent : Int)
  /-- Beyond all finite numbers. -/
  | infinite (negative : Bool)
  /-- No number. -/
  | nan
  deriving DecidableEq, Repr

namespace Binary64

/-- The least exponent of the format. -/
def minExponent : Int := -1074

/-- The greatest exponent of the format. -/
def maxExponent : Int := 971

/-- A zero of either sign. -/
def zero (negative : Bool) : Binary64 := .finite negative 0 minExponent

/-- A rounded significand with its exponent as a number: a significand that reached `2 ^ 53`
moves to the next exponent, and an exponent beyond the greatest gives an infinity. -/
def ofRounded (negative : Bool) (significand : Nat) (exponent : Int) : Binary64 :=
  let (significand, exponent) :=
    if significand < Nat.pow 2 53 then (significand, exponent) else (Nat.pow 2 52, exponent + 1)
  if maxExponent < exponent then .infinite negative else .finite negative significand exponent

/-- Whether `2 ^ k ≤ num / den`. -/
def reaches (num den : Nat) (k : Int) : Bool :=
  den * Nat.pow 2 k.toNat ≤ num * Nat.pow 2 (-k).toNat

/-- The exponent at which `num / den` has a significand of 53 binary digits, or the least
exponent where that is greater. -/
def exponentOf (num den : Nat) : Int :=
  let k : Int := num.log2 - den.log2
  max (if reaches num den k then k - 52 else k - 53) minExponent

/-- The number nearest to `num / den`, the even significand on a tie. -/
def ofRatio (negative : Bool) (num den : Nat) : Binary64 :=
  if num = 0 then zero negative
  else
    let exponent := exponentOf num den
    ofRounded negative
      (roundQuotient (num * Nat.pow 2 (-exponent).toNat) (den * Nat.pow 2 exponent.toNat)) exponent

/-- The number nearest to `digits * 10 ^ exponent`. Exponents too large or too small for any
nonzero number of the format are decided without computing the power. -/
def ofScientific (negative : Bool) (digits : Nat) (exponent : Int) : Binary64 :=
  if digits = 0 then zero negative
  else if 309 ≤ exponent then .infinite negative
  else if (digits.log2 : Int) + 1 + 3 * exponent < -1076 then zero negative
  else ofRatio negative (digits * Nat.pow 10 exponent.toNat) (Nat.pow 10 (-exponent).toNat)

/-- The numerator of the absolute value of a finite number. -/
def numerator : Binary64 → Nat
  | .finite _ significand exponent => significand * Nat.pow 2 exponent.toNat
  | _ => 0

/-- The denominator of the absolute value of a finite number. -/
def denominator : Binary64 → Nat
  | .finite _ _ exponent => Nat.pow 2 (-exponent).toNat
  | _ => 1

theorem denominator_pos (x : Binary64) : 0 < x.denominator := by
  cases x with
  | finite => exact Nat.pow_pos Nat.two_pos
  | infinite => exact Nat.one_pos
  | nan => exact Nat.one_pos

/-- The numerator with the sign of the number. -/
def signedNumerator : Binary64 → Int
  | .finite negative significand exponent =>
    let n : Int := significand * Nat.pow 2 exponent.toNat
    if negative then -n else n
  | _ => 0

/-- Whether two numbers have the same value. Both zeros have; no number equals `nan`. -/
def sameValue : Binary64 → Binary64 → Bool
  | .nan, _ => false
  | _, .nan => false
  | .infinite negative, .infinite negative' => negative == negative'
  | .infinite _, .finite .. => false
  | .finite .., .infinite _ => false
  | x@(.finite ..), y@(.finite ..) =>
    x.signedNumerator * y.denominator == y.signedNumerator * x.denominator

/-- Whether a number has the value of an integer. -/
def equalsInt (x : Binary64) (n : Int) : Bool :=
  match x with
  | .finite .. => x.signedNumerator == n * x.denominator
  | _ => false

/-- Whether a number is finite and zero. -/
def isZero : Binary64 → Bool
  | .finite _ significand _ => significand == 0
  | _ => false

/-- Whether a number is at least a natural number. -/
def atLeast (x : Binary64) (n : Nat) : Bool :=
  match x with
  | .finite .. => (n * x.denominator : Int) ≤ x.signedNumerator
  | .infinite negative => !negative
  | .nan => false

/-- Whether a number is an integer. -/
def isIntegral (x : Binary64) : Bool :=
  match x with
  | .finite .. => x.numerator % x.denominator == 0
  | _ => false

/-- The integer part of a finite number. -/
def truncated (x : Binary64) : Int :=
  match x with
  | .finite negative .. =>
    let n : Int := x.numerator / x.denominator
    if negative then -n else n
  | _ => 0

end Binary64

end ContentModel
