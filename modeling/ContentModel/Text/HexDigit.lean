import ContentModel.Text.DecimalDigit

/-!
# Hexadecimal digits

Numbers to the base of sixteen, in digits and letters of either case.

* `isHexDigit` and `hexValue` are about single digits, `hexNumber` is the number that digits write.
-/

namespace ContentModel.Text

/-- Whether a character is a hexadecimal digit. -/
def isHexDigit (c : Char) : Bool :=
  isAsciiDigit c || ('a' ≤ c && c ≤ 'f') || ('A' ≤ c && c ≤ 'F')

/-- The worth of a hexadecimal digit. -/
def hexValue (c : Char) : Nat :=
  if c ≤ '9' then c.toNat - 0x30 else if c ≤ 'F' then c.toNat - 0x37 else c.toNat - 0x57

/-- The number that hexadecimal digits write. -/
def hexNumber (digits : List Char) : Nat := digits.foldl (fun n c => 16 * n + hexValue c) 0

theorem hexValue_le {c : Char} (h : isHexDigit c = true) : hexValue c ≤ 15 := by
  simp only [isHexDigit, isAsciiDigit, Bool.or_eq_true, Bool.and_eq_true, decide_eq_true_eq,
    Char.le_def, UInt32.le_iff_toNat_le] at h
  simp only [hexValue, Char.le_def, UInt32.le_iff_toNat_le, Char.toNat]
  simp only [show '0'.val.toNat = 48 from rfl, show '9'.val.toNat = 57 from rfl,
    show 'a'.val.toNat = 97 from rfl, show 'f'.val.toNat = 102 from rfl,
    show 'A'.val.toNat = 65 from rfl, show 'F'.val.toNat = 70 from rfl] at h ⊢
  split
  · omega
  · split <;> omega

end ContentModel.Text
