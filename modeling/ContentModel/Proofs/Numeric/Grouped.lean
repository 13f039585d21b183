import ContentModel.Proofs.Text.Digits
import ContentModel.Rendering.Formatter

/-!
# Integers in groups of three digits

How an integer below a million is shown, and that it can be read back.

* `Digits.integer?_intText` says that a written integer reads back;
* `Digits.InGroups` says how the groups between the commas look, `Digits.exists_groups` cuts the
  grouped form of a run of digits into such groups;
* `Formatter.integer_reads_back` puts these together; `Formatter.number_eq_tooLong` says what
  becomes of negative integers with too many digits.
-/

namespace ContentModel

theorem Text.joinChars_concat (separator : Char) {pieces : List (List Char)} (h : pieces ≠ [])
    (last : List Char) : joinChars separator (pieces ++ [last]) =
      joinChars separator pieces ++ separator :: last := by
  induction pieces with
  | nil => exact absurd rfl h
  | cons piece rest ih =>
    cases rest with
    | nil => rfl
    | cons next more =>
      have hrest := ih (List.cons_ne_nil next more)
      rw [List.cons_append, List.cons_append, joinChars, ← List.cons_append, hrest, joinChars]
      simp

namespace Digits

/-! ## Numerals -/

/-- A text without blanks is not trimmed. -/
theorem trimChars_eq_self {p : Char → Bool} {text : List Char} (h : ∀ c ∈ text, p c = false) :
    Text.trimChars p text = text := by
  have hend : ∀ {text : List Char}, (∀ c ∈ text, p c = false) → Text.trimEnd p text = text := by
    intro text h
    induction text with
    | nil => rfl
    | cons c rest ih =>
      obtain ⟨hc, hrest⟩ := List.forall_mem_cons.1 h
      rw [Text.trimEnd, ih hrest]
      cases rest with
      | nil => simp [hc]
      | cons d more => rfl
  have hfront : text.dropWhile p = text := by
    cases text with
    | nil => rfl
    | cons c rest => exact List.dropWhile_cons_of_neg (by simp [h c List.mem_cons_self])
  rw [Text.trimChars, hfront, hend h]

theorem dropUnderscores_eq_some {text : List Char} (h : '_' ∉ text) (previous : Char) :
    Numeral.dropUnderscores previous text = some text := by
  induction text generalizing previous with
  | nil => rfl
  | cons c rest ih =>
    obtain ⟨hc, hrest⟩ := not_or.1 (mt List.mem_cons.2 h)
    rw [Numeral.dropUnderscores, ih hrest]
    · rfl
    · exact fun heq => hc heq.symm

/-- The characters of a numeral are read as they are. -/
theorem asciiDigits_ofInt (n : Int) : Numeral.asciiDigits (ofInt n) = ofInt n := by
  refine (List.map_congr_left fun c hc => ?_).trans (List.map_id _)
  rcases mem_ofInt hc with rfl | hdigit
  · rfl
  · have hvalue := (Text.isAsciiDigit_iff.1 hdigit).1
    simp only [Text.digitValue?_of_isAsciiDigit hdigit, id_eq]
    rw [Nat.add_sub_cancel' hvalue, Char.ofNat_toNat]

theorem sign_ofInt (n : Int) : Numeral.sign (ofInt n) = (decide (n < 0), ofNat n.natAbs) := by
  unfold ofInt
  split
  · next hneg => simp [Numeral.sign, hneg]
  · next hpos =>
    obtain ⟨c, rest, hdigits, hc⟩ := exists_ofNat_eq_cons n.natAbs
    rw [hdigits]
    unfold Numeral.sign
    split
    · next heq => cases (List.cons.inj heq).1 ▸ hc
    · next heq => cases (List.cons.inj heq).1 ▸ hc
    · simp [hpos]

/-- An integer that is not too long reads back. -/
theorem integer?_intText {n : Int} (h : isTooLong n = false) :
    Numeral.integer? (intText n) = some n := by
  have hblank : ∀ c ∈ ofInt n, Text.isWhiteSpace c = false := fun c hc => by
    rcases mem_ofInt hc with rfl | hdigit
    · decide
    · rw [Text.isWhiteSpace, Text.isBlank_of_isDigit (Text.isDigit_of_isAsciiDigit hdigit),
        Bool.false_and]
  have hunderscore : '_' ∉ ofInt n := fun hc => by
    rcases mem_ofInt hc with heq | hdigit
    · cases heq
    · cases hdigit
  have hlength : ¬ Numeral.maxDigits < (ofNat n.natAbs).length := of_decide_eq_false h
  have hread : Numeral.exponent? (ofInt n) = some n := by
    have hempty : (ofNat n.natAbs).isEmpty = false := by simpa using ofNat_ne_nil n.natAbs
    have hall : (ofNat n.natAbs).all Text.isAsciiDigit = true :=
      List.all_eq_true.2 fun c => isAsciiDigit_of_mem_ofNat
    simp only [Numeral.exponent?, sign_ofInt, hempty, hall, asciiValue_ofNat, Bool.not_true,
      Bool.or_self, Bool.false_eq_true, if_false, decide_eq_true_eq, Option.some.injEq]
    split <;> omega
  rw [Numeral.integer?, intText, String.toList_ofList, trimChars_eq_self hblank, asciiDigits_ofInt,
    dropUnderscores_eq_some hunderscore]
  simp only [sign_ofInt, if_neg hlength, hread]

/-! ## Groups -/

/-- Groups of digits as they stand between commas: one to three digits in the first, three in each
other one, and no leading zero, but for zero itself. -/
structure InGroups (first : List Char) (others : List (List Char)) : Prop where
  length_first : 1 ≤ first.length ∧ first.length ≤ 3
  length_others : ∀ group ∈ others, group.length = 3
  digits : ∀ group ∈ first :: others, ∀ c ∈ group, Text.isAsciiDigit c = true
  leading_zero : first.head? = some '0' → first = ['0'] ∧ others = []

/-- The grouped form of a run of digits, given from its end. -/
theorem exists_groups_reversed (digits : List Char) (h : digits ≠ []) :
    ∃ first others, (1 ≤ first.length ∧ first.length ≤ 3) ∧ (∀ group ∈ others, group.length = 3) ∧
      (groupReversed digits).reverse = Text.joinChars ',' (first :: others) ∧
      (first :: others).flatten = digits.reverse := by
  fun_induction groupReversed digits with
  | case1 a b c d rest ih =>
    obtain ⟨first, others, hfirst, hothers, hjoin, hflat⟩ := ih (List.cons_ne_nil d rest)
    refine ⟨first, others ++ [[c, b, a]], hfirst, ?_, ?_, ?_⟩
    · intro group hgroup
      rcases List.mem_append.1 hgroup with hmem | hlast
      · exact hothers group hmem
      · rw [List.mem_singleton.1 hlast]
        rfl
    · rw [← List.cons_append, Text.joinChars_concat ',' (List.cons_ne_nil first others), ← hjoin]
      simp
    · rw [← List.cons_append, List.flatten_append, hflat]
      simp
  | case2 short hshort =>
    -- at most three digits are one group
    refine ⟨short.reverse, [], ?_, by simp, rfl, by simp⟩
    rw [List.length_reverse]
    rcases short with _ | ⟨a, _ | ⟨b, _ | ⟨c, _ | ⟨d, rest⟩⟩⟩⟩
    · exact absurd rfl h
    · simp
    · simp
    · simp
    · exact absurd rfl (hshort a b c d rest)

/-- The grouped form of a run of digits is cut at the commas into groups, which make up the run. -/
theorem exists_groups (digits : List Char) (h : digits ≠ []) :
    ∃ first others, (1 ≤ first.length ∧ first.length ≤ 3) ∧ (∀ group ∈ others, group.length = 3) ∧
      grouped digits = Text.joinChars ',' (first :: others) ∧
      (first :: others).flatten = digits := by
  have hreversed := exists_groups_reversed digits.reverse (by simpa using h)
  rwa [List.reverse_reverse] at hreversed

/-- The numeral of a natural number is cut into groups. -/
theorem exists_inGroups (n : Nat) : ∃ first others, InGroups first others ∧
    grouped (ofNat n) = Text.joinChars ',' (first :: others) := by
  obtain ⟨first, others, hfirst, hothers, hjoin, hflat⟩ := exists_groups (ofNat n) (ofNat_ne_nil n)
  refine ⟨first, others, ⟨hfirst, hothers, fun group hgroup c hc => ?_, fun hzero => ?_⟩, hjoin⟩
  · have hmem : c ∈ (first :: others).flatten := List.mem_flatten.2 ⟨group, hgroup, hc⟩
    rw [hflat] at hmem
    exact isAsciiDigit_of_mem_ofNat hmem
  · have hne : first ≠ [] := List.ne_nil_of_length_pos hfirst.1
    have hhead : (ofNat n).head? = some '0' := by
      rw [← hflat, List.flatten_cons, List.head?_append_of_ne_nil _ hne, hzero]
    -- the number is zero, and its one digit is the first group
    rw [(head?_ofNat_eq_zero_iff n).1 hhead, show ofNat 0 = ['0'] from rfl] at hflat
    cases others with
    | nil => exact ⟨by simpa using hflat, rfl⟩
    | cons group rest =>
      have hlength := congrArg List.length hflat
      have hgroup := hothers group List.mem_cons_self
      simp only [List.flatten_cons, List.length_append, List.length_singleton] at hlength
      omega

theorem comma_notMem_ofNat (n : Nat) : ',' ∉ ofNat n := fun h =>
  absurd (isAsciiDigit_of_mem_ofNat h) (by decide)

/-- The grouped form of an integer without its commas is its plain form. -/
theorem filter_groupedInt (n : Int) : (groupedInt n).filter (· != ',') = ofInt n := by
  have hdigits := filter_grouped (ofNat n.natAbs) fun c hc h => comma_notMem_ofNat _ (h ▸ hc)
  unfold groupedInt ofInt
  split
  · rw [List.filter_cons_of_pos (by decide), hdigits]
  · exact hdigits

end Digits

namespace Formatter

open Abbreviated Digits

/-- **An integer below a million is shown in groups of three digits and reads back**, unless it is
too long: after a minus sign for a negative one come groups of digits between commas, and without
the commas they are the numeral of the integer. -/
theorem integer_reads_back {n : Int} (h : n < million) (hshort : isTooLong n = false) :
    ∃ text first others, number (.int n) = .ok text ∧ InGroups first others ∧
      text = (if n < 0 then "-" else "") ++ String.ofList (Text.joinChars ',' (first :: others)) ∧
      Numeral.integer? (String.ofList (text.toList.filter (· != ','))) = some n := by
  obtain ⟨first, others, hgroups, hjoin⟩ := exists_inGroups n.natAbs
  have hbillion : ¬ (billion : Int) ≤ n := by
    have hunits : (million : Int) ≤ billion := by decide
    omega
  refine ⟨String.ofList (groupedInt n), first, others, ?_, hgroups, ?_, ?_⟩
  · rw [number, integer_eq_abbreviated (by simp [hshort]), Abbreviated.ofInt, if_neg hbillion,
      if_neg (Int.not_le.2 h)]
  · rw [groupedInt, hjoin]
    split
    · exact @String.ofList_append ['-'] _
    · exact String.empty_append.symm
  · rw [String.toList_ofList, filter_groupedInt, ← intText]
    exact integer?_intText hshort

/-- Minus a million and a bit has three groups. -/
theorem integer_reads_back_negative : (-1034567 : Int) < million ∧
    isTooLong (-1034567) = false ∧
    ∃ text first others, number (.int (-1034567)) = .ok text ∧ InGroups first others ∧
      text = (if (-1034567 : Int) < 0 then "-" else "") ++
        String.ofList (Text.joinChars ',' (first :: others)) ∧
      Numeral.integer? (String.ofList (text.toList.filter (· != ','))) = some (-1034567) :=
  ⟨by decide, by decide, integer_reads_back (by decide) (by decide)⟩

/-- A negative integer of more than 4300 digits is not shown at all. -/
theorem number_eq_tooLong {n : Nat} (h : 10 ^ maxDigits ≤ n) :
    number (.int (-(n : Int))) = .error .tooLong := by
  have hlong : isTooLong (-(n : Int)) = true := by
    rw [isTooLong_iff, Int.natAbs_neg, Int.natAbs_natCast]
    exact h
  have hpos : 0 < n := Nat.lt_of_lt_of_le (Nat.pow_pos (by decide)) h
  exact integer_eq_tooLong ⟨by omega, hlong⟩

/-- Minus ten to the power of 4300 is below a million and not shown. -/
theorem number_neg_ten_pow_ne_ok : (-(10 ^ maxDigits : Nat) : Int) < million ∧
    ∀ text, number (.int (-(10 ^ maxDigits : Nat) : Int)) ≠ .ok text := by
  have hneg : (-(10 ^ maxDigits : Nat) : Int) ≤ 0 := Int.neg_nonpos_of_nonneg (Int.natCast_nonneg _)
  refine ⟨Int.lt_of_le_of_lt hneg (by decide), fun text => ?_⟩
  rw [number_eq_tooLong (Nat.le_refl _)]
  nofun

end Formatter

end ContentModel
