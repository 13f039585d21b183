import ContentModel.Json.Parser
import ContentModel.Proofs.Json.Indented

/-!
# Reading values back

The reader gives back a value from its indented form.

* `Reader.stringBody_flatMap_quotedChar` reads a string back, `Reader.number_ofInt` an integer;
* `Reader.value_written` reads a value back from the front of a text;
* `Json.parseWith_indented` reads the whole form.
-/

namespace ContentModel.Json.Reader

/-! ## Strings -/

theorem hexValue?_hexDigit {n : Nat} (h : n < 16) : hexValue? (Text.hexDigit n) = some n := by
  interval_cases n <;> decide

theorem hexDigits_four (n : Nat) : Text.hexDigits 4 n = [Text.hexDigit (n / 16 / 16 / 16 % 16),
    Text.hexDigit (n / 16 / 16 % 16), Text.hexDigit (n / 16 % 16), Text.hexDigit (n % 16)] := rfl

/-- The four digits of a code unit write the code unit. -/
theorem unit?_hexDigits {n : Nat} (h : n < 0x10000) :
    unit? (Text.hexDigit (n / 16 / 16 / 16 % 16)) (Text.hexDigit (n / 16 / 16 % 16))
      (Text.hexDigit (n / 16 % 16)) (Text.hexDigit (n % 16)) = some n := by
  have hdigit (m : Nat) : hexValue? (Text.hexDigit (m % 16)) = some (m % 16) :=
    hexValue?_hexDigit (Nat.mod_lt m (by decide))
  simp only [unit?, hdigit, Option.bind_eq_bind, Option.bind_some, Option.pure_def,
    Option.some.injEq]
  omega

variable {tail text rest : List Char}

/-- An escaped code unit is one character, unless it is half a surrogate pair. -/
theorem stringBody_unit {a b c d : Char} {n : Nat} (hunit : unit? a b c d = some n)
    (hhigh : isHigh n = false) (h : stringBody tail = some (text, rest)) :
    stringBody ('\\' :: 'u' :: a :: b :: c :: d :: tail) = some (unitChar n :: text, rest) := by
  rw [stringBody, hunit]
  simp only []
  split
  · -- another escape behind it is looked at, but completes no pair
    next e f g i more =>
    cases hlow : unit? e f g i with
    | none => simp [stringBody, hlow] at h
    | some low => simp [hhigh, h]
  · simp [h]

theorem stringBody_escape {c d : Char} (hd : d ≠ 'u') (hescape : simpleEscape? d = some c)
    (h : stringBody tail = some (text, rest)) :
    stringBody ('\\' :: d :: tail) = some (c :: text, rest) := by
  simp [stringBody, hd, hescape, h]

theorem stringBody_plain {c : Char} (hquote : c ≠ '"') (hslash : c ≠ '\\')
    (hcontrol : ¬ c.toNat < 0x20) (h : stringBody tail = some (text, rest)) :
    stringBody (c :: tail) = some (c :: text, rest) := by
  simp [stringBody, hslash, hcontrol, h]

theorem unitChar_toNat {c : Char} (h : c.toNat < 0xD800) : unitChar c.toNat = c := by
  have hhigh : isHigh c.toNat = false := by simp [isHigh, h]
  have hlow : isLow c.toNat = false := by
    simp only [isLow, Bool.and_eq_false_iff, decide_eq_false_iff_not]
    omega
  rw [unitChar, hhigh, hlow, if_neg (by decide), Char.ofNat_toNat]

/-- A character is read back from its form in a written string. -/
theorem stringBody_quotedChar (c : Char) (h : stringBody tail = some (text, rest)) :
    stringBody (quotedChar .unicode c ++ tail) = some (c :: text, rest) := by
  unfold quotedChar
  split_ifs with hquote hfeed hreturn htab hback hform hcontrol hascii
  · rcases (by simpa using hquote : c = '"' ∨ c = '\\') with rfl | rfl
    · exact stringBody_escape (by decide) rfl h
    · exact stringBody_escape (by decide) rfl h
  · exact hfeed ▸ stringBody_escape (by decide) rfl h
  · exact hreturn ▸ stringBody_escape (by decide) rfl h
  · exact htab ▸ stringBody_escape (by decide) rfl h
  · exact hback ▸ stringBody_escape (by decide) rfl h
  · exact hform ▸ stringBody_escape (by decide) rfl h
  · have hunit := unit?_hexDigits (show c.toNat < 0x10000 by omega)
    have hhigh : isHigh c.toNat = false := by
      simp only [isHigh, Bool.and_eq_false_iff, decide_eq_false_iff_not]
      omega
    have hread := stringBody_unit hunit hhigh h
    rwa [unitChar_toNat (by omega)] at hread
  · simp at hascii
  · simp only [Bool.or_eq_true, decide_eq_true_eq, not_or] at hquote
    exact stringBody_plain hquote.1 hquote.2 hcontrol h

/-- A string is read back up to its closing quotation mark. -/
theorem stringBody_flatMap_quotedChar (text rest : List Char) :
    stringBody (text.flatMap (quotedChar .unicode) ++ '"' :: rest) = some (text, rest) := by
  induction text with
  | nil => simp [stringBody]
  | cons c more ih =>
    rw [List.flatMap_cons, List.append_assoc]
    exact stringBody_quotedChar c ih

/-! ## Integers -/

/-- A text does not begin with what would be read as more of an integer. -/
def EndsInteger (rest : List Char) : Prop := ∀ c, rest.head? = some c →
  Text.isAsciiDigit c = false ∧ c ≠ '.' ∧ c ≠ 'e' ∧ c ≠ 'E'

theorem digitRun_append {digits : List Char} (hdigits : ∀ c ∈ digits, Text.isAsciiDigit c = true)
    (hrest : EndsInteger rest) : digitRun (digits ++ rest) = (digits, rest) := by
  have hstop : rest.takeWhile Text.isAsciiDigit = [] ∧ rest.dropWhile Text.isAsciiDigit = rest := by
    cases rest with
    | nil => exact ⟨rfl, rfl⟩
    | cons c more =>
      have hc := (hrest c rfl).1
      exact ⟨List.takeWhile_cons_of_neg (by simp [hc]), List.dropWhile_cons_of_neg (by simp [hc])⟩
  rw [digitRun, List.takeWhile_append_of_pos hdigits, List.dropWhile_append_of_pos hdigits,
    hstop.1, hstop.2, List.append_nil]

theorem wholePart_ofNat (n : Nat) (hrest : EndsInteger rest) :
    wholePart (Digits.ofNat n ++ rest) = some (Digits.ofNat n, rest) := by
  by_cases hzero : n = 0
  · rw [hzero]
    rfl
  · obtain ⟨c, more, hdigits⟩ := List.exists_cons_of_ne_nil (Digits.ofNat_ne_nil n)
    have hc : c ≠ '0' := fun hc =>
      hzero ((Digits.head?_ofNat_eq_zero_iff n).1 (by simp [hdigits, hc]))
    have hrun : digitRun (Digits.ofNat n ++ rest) = (Digits.ofNat n, rest) :=
      digitRun_append (fun _ => Digits.isAsciiDigit_of_mem_ofNat) hrest
    rw [hdigits] at hrun ⊢
    unfold wholePart
    split
    · next heq => exact absurd (List.cons.inj heq).1 hc
    · rw [hrun]
      rfl

theorem fractionPart_of_endsInteger (hrest : EndsInteger rest) :
    fractionPart rest = (none, rest) := by
  unfold fractionPart
  split
  · exact absurd rfl (hrest '.' rfl).2.1
  · rfl

theorem exponentPart_of_endsInteger (hrest : EndsInteger rest) :
    exponentPart rest = (none, rest) := by
  cases rest with
  | nil => rfl
  | cons c more =>
    obtain ⟨-, -, he, hE⟩ := hrest c rfl
    rw [exponentPart, if_neg (by simp [he, hE])]

theorem minus_ofInt (n : Int) (rest : List Char) :
    minus (Digits.ofInt n ++ rest) = (decide (n < 0), Digits.ofNat n.natAbs ++ rest) := by
  unfold Digits.ofInt
  by_cases hneg : n < 0
  · rw [if_pos hneg, decide_eq_true hneg]
    rfl
  · obtain ⟨c, more, hdigits, hdigit⟩ := Digits.exists_ofNat_eq_cons n.natAbs
    have hc : c ≠ '-' := by
      rintro rfl
      cases hdigit
    rw [if_neg hneg, decide_eq_false hneg, hdigits]
    unfold minus
    split
    · next heq => exact absurd (List.cons.inj heq).1 hc
    · rfl

/-- An integer is read back from its numeral, if the limit allows it. -/
theorem number_ofInt {limit : Option Nat} {n : Int}
    (hlimit : ∀ most ∈ limit, (Digits.ofNat n.natAbs).length ≤ most) (hrest : EndsInteger rest) :
    number limit (Digits.ofInt n ++ rest) = .ok (.int n, rest) := by
  have hwithin : limit.any (· < (Digits.ofNat n.natAbs).length) = false := by
    cases limit with
    | none => rfl
    | some most => simpa using hlimit most rfl
  have hvalue : (if decide (n < 0) = true then -(n.natAbs : Int) else n.natAbs) = n := by
    by_cases hneg : n < 0
    · rw [if_pos (decide_eq_true hneg)]
      omega
    · rw [if_neg (by simpa using hneg)]
      omega
  rw [number, minus_ofInt]
  simp only [wholePart_ofNat n.natAbs hrest, fractionPart_of_endsInteger hrest,
    exponentPart_of_endsInteger hrest, hwithin, Digits.asciiValue_ofNat, hvalue]
  rfl

/-! ## Values -/

theorem skipSpaces_cons {c : Char} (h : isSpace c = false) (tail : List Char) :
    skipSpaces (c :: tail) = c :: tail := List.dropWhile_cons_of_neg (by simp [h])

/-- A line break and the blanks after it are skipped. -/
theorem skipSpaces_breakChars (level : Nat) {c : Char} (h : isSpace c = false) (tail : List Char) :
    skipSpaces (breakChars level ++ c :: tail) = c :: tail := by
  have hblank : ∀ d ∈ breakChars level, isSpace d = true := by
    intro d hd
    rcases List.mem_cons.1 hd with rfl | hspace
    · rfl
    · rw [List.eq_of_mem_replicate hspace]
      rfl
  rw [skipSpaces, List.dropWhile_append_of_pos hblank]
  exact skipSpaces_cons h tail

theorem isSpace_of_isBlank {c : Char} (h : Text.isBlank c = false) : isSpace c = false := by
  refine Bool.eq_false_iff.2 fun hspace => ?_
  simp only [isSpace, Bool.or_eq_true, decide_eq_true_eq] at hspace
  rcases hspace with ((rfl | rfl) | rfl) | rfl <;> exact absurd h (by decide)

theorem endsInteger_breakChars (level : Nat) (tail : List Char) :
    EndsInteger (breakChars level ++ tail) := by
  rintro _ ⟨⟩
  exact by decide

theorem endsInteger_comma (tail : List Char) : EndsInteger (',' :: tail) := by
  rintro _ ⟨⟩
  exact by decide

variable {limit : Option Nat}

/-- A value is read from the front of every text that begins with its written form at the level, if
what comes after that ends an integer and the fuel covers the form. -/
def ReadsBack (limit : Option Nat) (level : Nat) (item : Json) : Prop :=
  ∀ (fuel : Nat) (rest : List Char), 2 * (written level item).length ≤ fuel → EndsInteger rest →
    value limit fuel (written level item ++ rest) = .ok (item, rest)

/-- Items that are read back one by one are read back in a row. -/
theorem items_rows {level : Nat} (outer : Nat) (rest : List Char) {list : List Json}
    (hne : list ≠ []) (hplain : ∀ item ∈ list, Plain limit item)
    (hread : ∀ item ∈ list, ReadsBack limit level item) {fuel : Nat}
    (hfuel : 2 * (rows level (list.map (written level))).length + 1 ≤ fuel) :
    items limit fuel (rows level (list.map (written level)) ++ (breakChars outer ++ ']' :: rest)) =
      .ok (list, rest) := by
  induction list generalizing fuel with
  | nil => exact absurd rfl hne
  | cons item more ih =>
    obtain ⟨fuel, rfl⟩ := Nat.exists_eq_succ_of_ne_zero (show fuel ≠ 0 by omega)
    rw [items]
    cases more with
    | nil =>
      have hitem := hread item List.mem_cons_self fuel (breakChars outer ++ ']' :: rest)
        (by simpa [rows] using hfuel) (endsInteger_breakChars _ _)
      simp only [List.map_cons, List.map_nil, rows, hitem,
        skipSpaces_breakChars outer (show isSpace ']' = false from rfl)]
    | cons next others =>
      obtain ⟨c, after, hafter, hc⟩ := exists_rows_items_eq_cons level
        (List.cons_ne_nil next others) fun item h => hplain item (List.mem_cons_of_mem _ h)
      rw [List.map_cons, List.map_cons, rows_cons_cons, ← List.map_cons] at hfuel ⊢
      simp only [List.length_append, List.length_cons] at hfuel
      have hitem := hread item List.mem_cons_self fuel (',' :: (breakChars level ++
        (rows level ((next :: others).map (written level)) ++ (breakChars outer ++ ']' :: rest))))
        (by omega) (endsInteger_comma _)
      have hrest := ih (List.cons_ne_nil next others)
        (fun item h => hplain item (List.mem_cons_of_mem _ h))
        (fun item h => hread item (List.mem_cons_of_mem _ h)) (show _ ≤ fuel by omega)
      rw [hafter, List.cons_append] at hitem hrest
      simp only [List.append_assoc, List.cons_append, hafter, hitem,
        skipSpaces_cons (show isSpace ',' = false from rfl),
        skipSpaces_breakChars level (isSpace_of_isBlank hc.visible.1), hrest]

theorem quotedChars_append (text tail : List Char) : quotedChars .unicode text ++ tail =
    '"' :: (text.flatMap (quotedChar .unicode) ++ '"' :: tail) := by
  simp [quotedChars]

theorem writtenMember_append (level : Nat) (pair : String × Json) (tail : List Char) :
    writtenMember level pair ++ tail = '"' :: (pair.1.toList.flatMap (quotedChar .unicode) ++
      '"' :: ':' :: ' ' :: (written level pair.2 ++ tail)) := by
  simp [writtenMember, quotedChars]

/-- Members whose values are read back one by one are read back in a row. -/
theorem members_rows {level : Nat} (outer : Nat) (rest : List Char) {pairs : Members}
    (hne : pairs ≠ []) (hplain : ∀ pair ∈ pairs, Plain limit pair.2)
    (hread : ∀ pair ∈ pairs, ReadsBack limit level pair.2) {fuel : Nat}
    (hfuel : 2 * (rows level (pairs.map (writtenMember level))).length + 1 ≤ fuel) :
    members limit fuel (rows level (pairs.map (writtenMember level)) ++
      (breakChars outer ++ '\x7d' :: rest)) = .ok (pairs, rest) := by
  induction pairs generalizing fuel with
  | nil => exact absurd rfl hne
  | cons pair more ih =>
    obtain ⟨fuel, rfl⟩ := Nat.exists_eq_succ_of_ne_zero (show fuel ≠ 0 by omega)
    obtain ⟨c, tail, hvalue, hc⟩ := exists_written_eq_cons level (hplain pair (by simp))
    have hlength : (writtenMember level pair).length ≥ (written level pair.2).length := by
      simp [writtenMember]
      omega
    have hcolon (tail : List Char) : skipSpaces (':' :: tail) = ':' :: tail :=
      skipSpaces_cons rfl tail
    have hspace (tail : List Char) : skipSpaces (' ' :: c :: tail) = c :: tail :=
      skipSpaces_cons (isSpace_of_isBlank hc.visible.1) tail
    cases more with
    | nil =>
      rw [List.map_cons, List.map_nil, rows] at hfuel ⊢
      have hitem := hread pair List.mem_cons_self fuel (breakChars outer ++ '\x7d' :: rest)
        (by omega) (endsInteger_breakChars _ _)
      rw [hvalue, List.cons_append] at hitem
      simp only [writtenMember_append, members, stringBody_flatMap_quotedChar, hcolon, hspace,
        hvalue, List.cons_append, hitem, String.ofList_toList,
        skipSpaces_breakChars outer (show isSpace '\x7d' = false from rfl)]
    | cons next others =>
      obtain ⟨after, hafter⟩ := exists_rows_members_eq_cons level (List.cons_ne_nil next others)
      rw [List.map_cons, List.map_cons, rows_cons_cons, ← List.map_cons] at hfuel ⊢
      simp only [List.length_append, List.length_cons] at hfuel
      have hitem := hread pair List.mem_cons_self fuel (',' :: (breakChars level ++
        (rows level ((next :: others).map (writtenMember level)) ++
          (breakChars outer ++ '\x7d' :: rest)))) (by omega) (endsInteger_comma _)
      have hrest := ih (List.cons_ne_nil next others)
        (fun pair h => hplain pair (List.mem_cons_of_mem _ h))
        (fun pair h => hread pair (List.mem_cons_of_mem _ h)) (show _ ≤ fuel by omega)
      rw [hvalue, hafter, List.cons_append, List.cons_append] at hitem
      rw [hafter, List.cons_append] at hrest
      simp only [List.append_assoc, List.cons_append, writtenMember_append, members,
        stringBody_flatMap_quotedChar, hcolon, hspace, hvalue, hafter, hitem, String.ofList_toList,
        skipSpaces_cons (show isSpace ',' = false from rfl),
        skipSpaces_breakChars level (show isSpace '"' = false from rfl), hrest]

/-- A digit, or a minus before one, begins a number. -/
theorem value_eq_number (fuel : Nat) {text : List Char}
    (h : (minus text).2.head?.any Text.isAsciiDigit = true) :
    value limit (fuel + 1) text = number limit text := by
  rw [value.eq_def]
  dsimp only
  split
  -- the other beginnings of a value are no digits
  all_goals simp [minus, Text.isAsciiDigit] at h
  all_goals rfl

theorem ReadsBack.of_succ {item : Json} {level : Nat} (hplain : item.Plain limit)
    (h : ∀ (fuel : Nat) (rest : List Char), 2 * (written level item).length ≤ fuel + 1 →
      EndsInteger rest → value limit (fuel + 1) (written level item ++ rest) = .ok (item, rest)) :
    ReadsBack limit level item := by
  intro fuel rest hfuel hrest
  obtain ⟨c, tail, hbegin, -⟩ := exists_written_eq_cons level hplain
  have hlength := congrArg List.length hbegin
  rw [List.length_cons] at hlength
  obtain ⟨fuel, rfl⟩ := Nat.exists_eq_succ_of_ne_zero (show fuel ≠ 0 by omega)
  exact h fuel rest hfuel hrest

/-- **A value is read back from its written form.** -/
theorem value_written {item : Json} (h : item.Plain limit) (level : Nat) :
    ReadsBack limit level item := by
  induction h generalizing level with
  | null =>
    refine .of_succ .null fun fuel rest _ _ => ?_
    rw [written_null]
    rfl
  | bool b =>
    refine .of_succ (.bool b) fun fuel rest _ _ => ?_
    cases b with
    | true =>
      rw [written_true]
      rfl
    | false =>
      rw [written_false]
      rfl
  | @int n hlimit =>
    refine .of_succ (.int hlimit) fun fuel rest _ hrest => ?_
    have hdigits : (minus (Digits.ofInt n ++ rest)).2.head?.any Text.isAsciiDigit = true := by
      obtain ⟨c, more, hmore, hdigit⟩ := Digits.exists_ofNat_eq_cons n.natAbs
      rw [minus_ofInt, hmore]
      exact hdigit
    rw [written_int, value_eq_number fuel hdigits]
    exact number_ofInt hlimit hrest
  | str s =>
    refine .of_succ (.str s) fun fuel rest _ _ => ?_
    rw [written_str, quotedChars_append, value]
    simp only [stringBody_flatMap_quotedChar, String.ofList_toList]
  | @arr list hplain ih =>
    refine .of_succ (.arr hplain) fun fuel rest hfuel _ => ?_
    by_cases hnil : list = []
    · rw [hnil, written_arr_nil]
      rfl
    · obtain ⟨c, after, hafter, hc⟩ := exists_rows_items_eq_cons (level + 1) hnil hplain
      obtain ⟨hblank, hbracket, -⟩ := hc.visible
      rw [written_arr level hnil, bracketed] at hfuel ⊢
      simp only [List.length_cons, List.length_append] at hfuel
      have hitems := items_rows level rest hnil hplain (fun item h => ih item h (level + 1))
        (show 2 * (rows (level + 1) (list.map (written (level + 1)))).length + 1 ≤ fuel by omega)
      rw [hafter, List.cons_append] at hitems
      rw [hafter, List.cons_append, value]
      simp only [List.append_assoc, List.cons_append, List.nil_append]
      rw [skipSpaces_breakChars (level + 1) (isSpace_of_isBlank hblank)]
      -- what begins an item does not close the list
      split
      · next heq => exact absurd (List.cons.inj heq).1 hbracket
      · rw [hitems]
  | @obj pairs hnodup hplain ih =>
    refine .of_succ (.obj hnodup hplain) fun fuel rest hfuel _ => ?_
    by_cases hnil : pairs = []
    · rw [hnil, written_obj_nil]
      rfl
    · obtain ⟨after, hafter⟩ := exists_rows_members_eq_cons (level + 1) hnil
      rw [written_obj level hnil, bracketed] at hfuel ⊢
      simp only [List.length_cons, List.length_append] at hfuel
      have hmembers := members_rows level rest hnil hplain (fun pair h => ih pair h (level + 1))
        (show 2 * (rows (level + 1) (pairs.map (writtenMember (level + 1)))).length + 1 ≤ fuel by
          omega)
      rw [hafter, List.cons_append] at hmembers
      rw [hafter, List.cons_append, value]
      simp only [List.append_assoc, List.cons_append, List.nil_append]
      rw [skipSpaces_breakChars (level + 1) (show isSpace '"' = false from rfl)]
      split
      · next heq => exact absurd (List.cons.inj heq).1 (by decide)
      · rw [hmembers]
        exact congrArg (fun pairs => Except.ok (obj pairs, rest)) (Members.ofPairs_of_nodup hnodup)

end ContentModel.Json.Reader

namespace ContentModel.Json

/-- **A value is read back from its indented form.** -/
theorem parseWith_indented {limit : Option Nat} {item : Json} (h : item.Plain limit) :
    parseWith limit (item.indented .unicode).toList = .ok item := by
  have hread := Reader.value_written h 0 (2 * (written 0 item).length + 2) [] (by omega) nofun
  obtain ⟨c, tail, hbegin, hc⟩ := exists_written_eq_cons 0 h
  change parseWith limit (written 0 item) = .ok item
  rw [List.append_nil, hbegin] at hread
  rw [parseWith, hbegin, Reader.skipSpaces_cons (Reader.isSpace_of_isBlank hc.visible.1), hread]
  rfl

end ContentModel.Json
