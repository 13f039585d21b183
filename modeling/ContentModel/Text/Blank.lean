import ContentModel.Text.Ranges

/-!
# Blanks

The characters that count as white space, and the trimming of texts.

* `isBlank` is the wide class, with the information separators U+001C to U+001F;
* `isWhiteSpace` is the Unicode property of that name, without them;
* `trimChars` and `trim` take characters of a class off both ends;
* `strip` trims blanks, and is idempotent (`strip_strip`);
* `blankWords` are the parts of a text between blanks.
-/

namespace ContentModel.Text

/-- Blanks: white space of every script and the information separators. -/
def blankRanges : Ranges := [
  (0x9, 0xD), (0x1C, 0x20), (0x85, 0x85), (0xA0, 0xA0), (0x1680, 0x1680), (0x2000, 0x200A),
  (0x2028, 0x2029), (0x202F, 0x202F), (0x205F, 0x205F), (0x3000, 0x3000)]

/-- Whether a character is blank. -/
def isBlank (c : Char) : Bool := blankRanges.has c.toNat

/-- Whether a character is white space, which the information separators are not. -/
def isWhiteSpace (c : Char) : Bool := isBlank c && !(0x1C ≤ c.toNat && c.toNat ≤ 0x1F)

theorem isBlank_of_isWhitespace {c : Char} (h : c.isWhitespace = true) : isBlank c = true := by
  simp only [Char.isWhitespace, Bool.or_eq_true, decide_eq_true_eq] at h
  rcases h with ((rfl | rfl) | rfl) | rfl <;> decide

/-- A text without the characters of a class at its end. -/
def trimEnd (p : Char → Bool) : List Char → List Char
  | [] => []
  | c :: rest =>
    match trimEnd p rest with
    | [] => if p c then [] else [c]
    | d :: more => c :: d :: more

/-- A text without the characters of a class at both ends. -/
def trimChars (p : Char → Bool) (text : List Char) : List Char := trimEnd p (text.dropWhile p)

/-- A text without the blanks at both ends. -/
def strip (text : String) : String := String.ofList (trimChars isBlank text.toList)

/-- The characters of a text before its first blank, and the words after that. -/
def cutBlank : List Char → List Char × List (List Char)
  | [] => ([], [])
  | c :: rest =>
    let (first, others) := cutBlank rest
    if isBlank c then ([], if first.isEmpty then others else first :: others)
    else (c :: first, others)

/-- The parts of a text that hold no blanks, with blanks between them. -/
def blankWords (text : List Char) : List (List Char) :=
  match cutBlank text with
  | ([], words) => words
  | (first, words) => first :: words

theorem trimEnd_append_of_all {p : Char → Bool} {text tail : List Char}
    (h : ∀ c ∈ tail, p c = true) : trimEnd p (text ++ tail) = trimEnd p text := by
  induction text with
  | nil =>
    induction tail with
    | nil => rfl
    | cons c rest ih =>
      have hrest : trimEnd p rest = [] := by
        have := ih fun d hd => h d (List.mem_cons_of_mem _ hd)
        simpa [trimEnd] using this
      simp [trimEnd, hrest, h c List.mem_cons_self]
  | cons c rest ih => simp [trimEnd, ih]

theorem trimEnd_trimEnd (p : Char → Bool) (text : List Char) :
    trimEnd p (trimEnd p text) = trimEnd p text := by
  induction text with
  | nil => rfl
  | cons c rest ih =>
    simp only [trimEnd]
    split
    · split
      · rfl
      · next h => simp [trimEnd, h]
    · next d more h => rw [h] at ih; rw [trimEnd, ih]

theorem dropWhile_trimEnd {p : Char → Bool} {text : List Char}
    (h : text.dropWhile p = text) : (trimEnd p text).dropWhile p = trimEnd p text := by
  cases text with
  | nil => rfl
  | cons c rest =>
    have hc : p c = false := by
      cases hp : p c with
      | false => rfl
      | true =>
        have hl := congrArg List.length h
        have := (List.dropWhile_sublist p (l := rest)).length_le
        simp [hp] at hl
        omega
    simp only [trimEnd]
    split
    · simp [hc]
    · simp [hc]

theorem trimChars_trimChars (p : Char → Bool) (text : List Char) :
    trimChars p (trimChars p text) = trimChars p text := by
  have h : (text.dropWhile p).dropWhile p = text.dropWhile p := by
    induction text with
    | nil => rfl
    | cons c rest ih => by_cases hp : p c = true <;> simp [hp, ih]
  rw [trimChars, trimChars, dropWhile_trimEnd h, trimEnd_trimEnd]

theorem strip_strip (text : String) : strip (strip text) = strip text := by
  simp [strip, trimChars_trimChars]

end ContentModel.Text
