import ContentModel.Text.Ranges

/-!
# Decimal digits

The decimal digits of every script, each worth zero to nine.

* `digitZeros` lists the zeros, which the other nine digits follow in order;
* `digitValue?` is the worth of a character that is a digit;
* `isAsciiDigit` and `asciiDigit` are the ten digits `0` to `9` alone.
-/

namespace ContentModel.Text

/-- The zeros of the decimal digit systems; the digits one to nine follow each of them. -/
def digitZeros : List Nat := [
  0x30, 0x660, 0x6F0, 0x7C0, 0x966, 0x9E6, 0xA66, 0xAE6, 0xB66, 0xBE6, 0xC66, 0xCE6, 0xD66, 0xDE6,
  0xE50, 0xED0, 0xF20, 0x1040, 0x1090, 0x17E0, 0x1810, 0x1946, 0x19D0, 0x1A80, 0x1A90, 0x1B50,
  0x1BB0, 0x1C40, 0x1C50, 0xA620, 0xA8D0, 0xA900, 0xA9D0, 0xA9F0, 0xAA50, 0xABF0, 0xFF10, 0x104A0,
  0x10D30, 0x11066, 0x110F0, 0x11136, 0x111D0, 0x112F0, 0x11450, 0x114D0, 0x11650, 0x116C0,
  0x11730, 0x118E0, 0x11950, 0x11C50, 0x11D50, 0x11DA0, 0x16A60, 0x16AC0, 0x16B50, 0x1D7CE,
  0x1D7D8, 0x1D7E2, 0x1D7EC, 0x1D7F6, 0x1E140, 0x1E2F0, 0x1E950, 0x1FBF0]

/-- The worth of a code point in the first digit system that holds it. -/
def digitValueIn : List Nat → Nat → Option Nat
  | [], _ => none
  | start :: rest, n =>
    if n < start then none else if n ≤ start + 9 then some (n - start) else digitValueIn rest n

/-- The worth of a decimal digit of any script. -/
def digitValue? (c : Char) : Option Nat := digitValueIn digitZeros c.toNat

/-- Whether a character is a decimal digit of any script. -/
def isDigit (c : Char) : Bool := (digitValue? c).isSome

/-- Whether a character is one of `0` to `9`. -/
def isAsciiDigit (c : Char) : Bool := '0' ≤ c && c ≤ '9'

theorem digitValueIn_le_nine {zeros : List Nat} {n value : Nat}
    (h : digitValueIn zeros n = some value) : value ≤ 9 := by
  induction zeros with
  | nil => simp [digitValueIn] at h
  | cons start rest ih =>
    simp only [digitValueIn] at h
    split at h
    · simp at h
    · split at h
      · simp only [Option.some.injEq] at h; omega
      · exact ih h

theorem digitValue?_le_nine {c : Char} {value : Nat} (h : digitValue? c = some value) :
    value ≤ 9 :=
  digitValueIn_le_nine h

/-- The number that a run of digits writes, other characters counting as zero. -/
def digitsValue (text : List Char) : Nat :=
  text.foldl (fun n c => 10 * n + (digitValue? c).getD 0) 0

end ContentModel.Text
