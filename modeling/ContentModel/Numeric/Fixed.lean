import ContentModel.Numeric.Binary64
import ContentModel.Numeric.Digits

/-!
# Fixed-point numerals

Numbers with a given count of decimal places, the exact value rounded to the nearest, ties to
the even last digit.

* `Fixed.places` writes a quotient of natural numbers;
* `Fixed.groupedPlaces` does so with the whole part in groups of three digits.
-/

namespace ContentModel.Fixed

/-- The whole part and the digits after the point of `num / den` rounded to `places` places. -/
def parts (places num den : Nat) : Nat × List Char :=
  let unit := Nat.pow 10 places
  let scaled := roundQuotient (num * unit) den
  (scaled / unit, Digits.padded places (scaled % unit))

/-- A quotient with a fixed count of decimal places. -/
def places (count num den : Nat) : List Char :=
  let (whole, fraction) := parts count num den
  Digits.ofNat whole ++ '.' :: fraction

/-- A quotient with a fixed count of decimal places, the whole part in groups of three. -/
def groupedPlaces (count num den : Nat) : List Char :=
  let (whole, fraction) := parts count num den
  Digits.grouped (Digits.ofNat whole) ++ '.' :: fraction

end ContentModel.Fixed
