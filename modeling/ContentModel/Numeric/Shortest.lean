import ContentModel.Numeric.Binary64
import ContentModel.Numeric.Digits

/-!
# Shortest numerals

The text of a binary floating-point number with the fewest significant digits that still read
back as the number.

* `Shortest.digits` finds the digits: on the coarsest decimal grid that has a point in the
  interval of reals that round to the number, the point nearest to it, the even one on a tie;
* `Shortest.layout` places the point: powers of ten from `10 ^ -4` to below `10 ^ 16` are
  written in positional notation, all others with an exponent of at least two digits;
* `Binary64.text` is the whole numeral, with `.0` after integers.
-/

namespace ContentModel

namespace Shortest

/-- The power of ten at or below the positive quotient `num / den`. -/
def magnitude (num den : Nat) : Int :=
  if den ≤ num then (Digits.ofNat (num / den)).length - 1
  else -((Digits.ofNat (den / num)).length : Int)

/-- The point of the grid of step `10 ^ power` nearest to `significand * 2 ^ exponent` among its
two neighbours there that round to it, if one of them does. -/
def onGrid (significand : Nat) (exponent power : Int) : Option Nat :=
  let unit := Nat.pow 2 exponent.toNat * Nat.pow 10 (-power).toNat
  let step := Nat.pow 2 (-exponent).toNat * Nat.pow 10 power.toNat
  let below := significand * unit / step
  let lowGap :=
    if significand = Nat.pow 2 52 ∧ Binary64.minExponent < exponent then 1 else 2
  let inside (point : Nat) : Bool :=
    if significand % 2 = 0 then
      (4 * significand - lowGap) * unit ≤ 4 * point * step
        && 4 * point * step ≤ (4 * significand + 2) * unit
    else
      (4 * significand - lowGap) * unit < 4 * point * step
        && 4 * point * step < (4 * significand + 2) * unit
  let nearest := roundQuotient (significand * unit) step
  if inside nearest then some nearest
  else if inside below then some below
  else if inside (below + 1) then some (below + 1)
  else none

/-- The first grid point found on ever finer grids, with the power of ten of its grid. -/
def search (significand : Nat) (exponent : Int) : (tries : Nat) → Int → Nat × Int
  | 0, power => (significand, power)
  | tries + 1, power =>
    match onGrid significand exponent power with
    | some point => (point, power)
    | none => search significand exponent tries (power - 1)

/-- The fewest digits that read back as `significand * 2 ^ exponent`, as a number and the power
of ten it is multiplied by. Seventeen digits always suffice. -/
def digits (significand : Nat) (exponent : Int) : Nat × Int :=
  search significand exponent 17
    (magnitude (significand * Nat.pow 2 exponent.toNat) (Nat.pow 2 (-exponent).toNat))

/-- An exponent with its sign and at least two digits. -/
def exponentText (n : Int) : List Char :=
  (if n < 0 then '-' else '+') :: Digits.padded 2 n.natAbs

/-- Significant digits as a numeral, given the power of ten of the first of them. -/
def layout (significant : List Char) (first : Int) : List Char :=
  if -4 ≤ first ∧ first < 16 then
    if first < 0 then
      '0' :: '.' :: (List.replicate (-first - 1).toNat '0' ++ significant)
    else
      let whole := first.toNat + 1
      let digits := significant ++ List.replicate (whole - significant.length) '0'
      let fraction := digits.drop whole
      digits.take whole ++ '.' :: (if fraction.isEmpty then ['0'] else fraction)
  else
    match significant with
    | [] => []
    | [lead] => lead :: 'e' :: exponentText first
    | lead :: rest => lead :: '.' :: (rest ++ 'e' :: exponentText first)

end Shortest

/-- The numeral of a number with the fewest digits that read back as it. -/
def Binary64.text : Binary64 → String
  | .nan => "nan"
  | .infinite negative => if negative then "-inf" else "inf"
  | .finite negative significand exponent =>
    let body :=
      if significand = 0 then ['0', '.', '0']
      else
        let (point, power) := Shortest.digits significand exponent
        let all := Digits.ofNat point
        Shortest.layout (Digits.dropEnd '0' all) (power + all.length - 1)
    String.ofList (if negative then '-' :: body else body)

end ContentModel
