/-!
# Decimal digits of integers

Writing integers in decimal, plain and in groups of three.

* `Digits.ofNat` and `Digits.ofInt` are the plain forms;
* `Digits.isTooLong` says which integers have more digits than `Digits.maxDigits`, the most that
  programs write or read;
* `Digits.grouped` puts a comma before every third digit counted from the right;
* `Digits.padded` fills up with zeros on the left;
* `Digits.dropEnd` takes a character off the right end, as often as it stands there.
-/

namespace ContentModel.Digits

/-- The decimal digits of a natural number. -/
def ofNat (n : Nat) : List Char := Nat.toDigits 10 n

/-- An integer in decimal, a minus sign before it when it is negative. -/
def ofInt (n : Int) : List Char :=
  if n < 0 then '-' :: ofNat n.natAbs else ofNat n.natAbs

theorem ofNat_ne_nil (n : Nat) : ofNat n ≠ [] := Nat.toDigits_ne_nil

theorem isDigit_of_mem_ofNat {n : Nat} {c : Char} (h : c ∈ ofNat n) : c.isDigit = true :=
  Nat.isDigit_of_mem_toDigits (by decide) (by decide) h

/-- The greatest number of digits of an integer that is written or read. -/
def maxDigits : Nat := 4300

/-- Whether an integer has too many digits to be written. -/
def isTooLong (n : Int) : Bool := maxDigits < (ofNat n.natAbs).length

/-- An integer in decimal, as a text. -/
def intText (n : Int) : String := String.ofList (ofInt n)

/-- Digits, the last one first, with a comma after every third one that others follow. -/
def groupReversed : List Char → List Char
  | a :: b :: c :: d :: rest => a :: b :: c :: ',' :: groupReversed (d :: rest)
  | short => short

/-- Digits with a comma before every third one counted from the right. -/
def grouped (digits : List Char) : List Char := (groupReversed digits.reverse).reverse

theorem filter_groupReversed (digits : List Char) (h : ∀ c ∈ digits, c ≠ ',') :
    (groupReversed digits).filter (· != ',') = digits := by
  fun_induction groupReversed digits with
  | case1 a b c d rest ih =>
    have hrest := ih fun e he => h e (by simp only [List.mem_cons] at he ⊢; simp [he])
    have ha := h a (by simp)
    have hb := h b (by simp)
    have hc := h c (by simp)
    simpa [ha, hb, hc] using hrest
  | case2 short _ =>
    exact List.filter_eq_self.2 fun c hc => by simpa using h c hc

/-- Without its commas a grouped run of digits is the run itself. -/
theorem filter_grouped (digits : List Char) (h : ∀ c ∈ digits, c ≠ ',') :
    (grouped digits).filter (· != ',') = digits := by
  rw [grouped, List.filter_reverse, filter_groupReversed _ (by simpa using h),
    List.reverse_reverse]

/-- An integer in groups of three digits. -/
def groupedInt (n : Int) : List Char :=
  if n < 0 then '-' :: grouped (ofNat n.natAbs) else grouped (ofNat n.natAbs)

/-- The digits of a number, filled up with zeros to a width. -/
def padded (width n : Nat) : List Char :=
  let digits := ofNat n
  List.replicate (width - digits.length) '0' ++ digits

/-- A text without the given character at its right end. -/
def dropEnd (c : Char) (text : List Char) : List Char :=
  (text.reverse.dropWhile (· == c)).reverse

end ContentModel.Digits
