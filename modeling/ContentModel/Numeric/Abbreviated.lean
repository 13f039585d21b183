import ContentModel.Numeric.Fixed

/-!
# Abbreviated numbers

Numbers for readers: millions and billions with one decimal place and a unit, smaller numbers
with thousands separators and at most three decimal places.

* `Abbreviated.ofInt` writes an integer; it fails on integers whose count of billions exceeds
  the floating-point range;
* `Abbreviated.ofBinary64` writes a floating-point number.
-/

namespace ContentModel.Abbreviated

/-- One million. -/
def million : Nat := 1000000

/-- One thousand million. -/
def billion : Nat := 1000000000

/-- A text without a final `.0`. -/
def dropPointZero (text : List Char) : List Char :=
  match text.reverse with
  | '0' :: '.' :: rest => rest.reverse
  | _ => text

/-- A count of units with at most one decimal place, and none where it would be zero. -/
def mantissa : Binary64 → List Char
  | .nan => "nan".toList
  | .infinite _ => "inf".toList
  | x@(.finite ..) => dropPointZero (Fixed.places 1 x.numerator x.denominator)

/-- An integer for readers, unless its count of billions is too large for the format. -/
def ofInt (n : Int) : Option String :=
  if (billion : Int) ≤ n then
    match Binary64.ofRatio false n.natAbs billion with
    | .infinite _ => none
    | x => some (String.ofList (mantissa x ++ ['B']))
  else if (million : Int) ≤ n then
    some (String.ofList (mantissa (Binary64.ofRatio false n.natAbs million) ++ ['M']))
  else some (String.ofList (Digits.groupedInt n))

/-- A positive floating-point number divided by a natural number. -/
def quotient (x : Binary64) (unit : Nat) : Binary64 :=
  match x with
  | .finite .. => Binary64.ofRatio false x.numerator (x.denominator * unit)
  | other => other

/-- A number with thousands separators and at most three decimal places. -/
def small : Binary64 → List Char
  | .nan => "nan".toList
  | .infinite negative => if negative then "-inf".toList else "inf".toList
  | x@(.finite negative ..) =>
    if x.isIntegral then Digits.groupedInt x.truncated
    else
      let body := Fixed.groupedPlaces 3 x.numerator x.denominator
      let text := Digits.dropEnd '.' (Digits.dropEnd '0' body)
      if negative then '-' :: text else text

/-- A floating-point number for readers. -/
def ofBinary64 (x : Binary64) : String :=
  if x.atLeast billion then String.ofList (mantissa (quotient x billion) ++ ['B'])
  else if x.atLeast million then String.ofList (mantissa (quotient x million) ++ ['M'])
  else String.ofList (small x)

end ContentModel.Abbreviated
