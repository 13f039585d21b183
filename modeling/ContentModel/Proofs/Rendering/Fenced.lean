import ContentModel.Proofs.Json.ReadBack
import ContentModel.Proofs.Text.Lines
import ContentModel.Rendering.Primitive

/-!
# Fenced values

A value of a field of plain JSON is shown between two fences. No line between them is a fence, and
the lines between them are the value.

* `Markdown.IsFence` says that a line is a fence, `Markdown.Guarded` that no line of a text begins
  with a backtick;
* `Json.onlyFeeds_written` says that a written value is cut into lines by line feeds alone,
  `Json.guards_written` that none of its lines begins with a backtick;
* `Rendering.primitive_json` puts this together with the reading of the form.
-/

namespace ContentModel

namespace Markdown

open Text

/-- A line begins with three backticks, after blanks. -/
def IsFence (line : String) : Prop :=
  ['\x60', '\x60', '\x60'] <+: line.toList.dropWhile isBlank

/-! ## Lines that begin with no backtick -/

/-- No backtick comes first in a line, after blanks. -/
def IsGuard (line : List Char) : Prop := (line.dropWhile isBlank).head? ≠ some '\x60'

/-- No line of a text begins with a backtick. -/
def Guarded (text : List Char) : Prop := ∀ line ∈ splitChars '\n' text, IsGuard line

/-- No line of a text but the first begins with a backtick. -/
def GuardedBelow (text : List Char) : Prop := ∀ line ∈ (splitChars '\n' text).tail, IsGuard line

variable {rest : List Char}

theorem Guarded.below (h : Guarded rest) : GuardedBelow rest :=
  fun line hline => h line (List.mem_of_mem_tail hline)

theorem guardedBelow_nil : GuardedBelow [] := nofun

theorem Guarded.after_newline (h : Guarded rest) : GuardedBelow ('\n' :: rest) := h

/-- A start without line feeds belongs to the first line. -/
theorem exists_lines_append {start : List Char} (hstart : '\n' ∉ start) (rest : List Char) :
    ∃ line more, splitChars '\n' rest = line :: more ∧
      splitChars '\n' (start ++ rest) = (start ++ line) :: more := by
  obtain ⟨line, more, hsplit⟩ := List.exists_cons_of_ne_nil (splitChars_ne_nil '\n' rest)
  exact ⟨line, more, hsplit, by rw [splitChars_append_of_notMem hstart, hsplit]; rfl⟩

theorem GuardedBelow.append {start : List Char} (hstart : '\n' ∉ start) (h : GuardedBelow rest) :
    GuardedBelow (start ++ rest) := by
  obtain ⟨line, more, hrest, hwhole⟩ := exists_lines_append hstart rest
  rw [GuardedBelow, hrest] at h
  rwa [GuardedBelow, hwhole]

/-- A visible character other than a backtick guards the line that it begins. -/
theorem GuardedBelow.cons {c : Char} (hblank : isBlank c = false) (hc : c ≠ '\x60')
    (h : GuardedBelow rest) : Guarded (c :: rest) := by
  have hfeed : '\n' ∉ [c] := fun hmem => by
    rw [← List.mem_singleton.1 hmem] at hblank
    cases hblank
  obtain ⟨line, more, hrest, hwhole⟩ := exists_lines_append hfeed rest
  rw [GuardedBelow, hrest] at h
  rw [Guarded, ← List.singleton_append, hwhole, List.forall_mem_cons]
  refine ⟨?_, h⟩
  rw [IsGuard, List.singleton_append, List.dropWhile_cons_of_neg (by simp [hblank])]
  simpa using hc

/-- Blanks at the beginning of a line do not count. -/
theorem Guarded.spaces (h : Guarded rest) (n : Nat) :
    Guarded (List.replicate n ' ' ++ rest) := by
  have hfeed : '\n' ∉ List.replicate n ' ' := fun hmem =>
    absurd (List.eq_of_mem_replicate hmem) (by decide)
  have hblank : ∀ c ∈ List.replicate n ' ', isBlank c = true := fun c hc => by
    rw [List.eq_of_mem_replicate hc]
    rfl
  obtain ⟨line, more, hrest, hwhole⟩ := exists_lines_append hfeed rest
  rw [Guarded, hrest, List.forall_mem_cons] at h
  rw [Guarded, hwhole, List.forall_mem_cons]
  refine ⟨?_, h.2⟩
  rw [IsGuard, List.dropWhile_append_of_pos hblank]
  exact h.1

theorem Guarded.not_isFence {text : String} (h : Guarded text.toList) :
    ∀ line ∈ lines text, ¬ IsFence line := by
  intro line hline hfence
  obtain ⟨piece, hpiece, rfl⟩ := List.mem_map.1 hline
  rw [IsFence, String.toList_ofList] at hfence
  obtain ⟨tail, htail⟩ := hfence
  exact h piece hpiece (by rw [← htail]; rfl)

end Markdown

namespace Json

open Markdown Text

/-! ## Control characters -/

theorem le_toNat_of_mem_quotedChar {c d : Char} (h : d ∈ quotedChar .unicode c) :
    0x20 ≤ d.toNat := by
  have hescape {e : Char} (he : 0x20 ≤ e.toNat) (hd : d ∈ ['\\', e]) : 0x20 ≤ d.toNat := by
    rcases List.mem_pair.1 hd with rfl | rfl
    · decide
    · exact he
  unfold quotedChar at h
  split_ifs at h with hquote hfeed hreturn htab hback hform hcontrol hascii
  · rcases (by simpa using hquote : c = '"' ∨ c = '\\') with rfl | rfl
    · exact hescape (by decide) h
    · exact hescape (by decide) h
  · exact hescape (by decide) h
  · exact hescape (by decide) h
  · exact hescape (by decide) h
  · exact hescape (by decide) h
  · exact hescape (by decide) h
  · have hhex : ∀ n < 16, 0x20 ≤ (Text.hexDigit n).toNat := by decide
    have hdigit (n : Nat) : 0x20 ≤ (Text.hexDigit (n % 16)).toNat :=
      hhex _ (Nat.mod_lt n (by decide))
    rw [unitEscape, Reader.hexDigits_four] at h
    simp only [List.mem_cons, List.not_mem_nil, or_false] at h
    rcases h with rfl | rfl | rfl | rfl | rfl | rfl
    · decide
    · decide
    all_goals exact hdigit _
  · simp at hascii
  · rw [List.mem_singleton.1 h]
    omega

/-- A written string holds no control characters. -/
theorem le_toNat_of_mem_quotedChars {text : List Char} {d : Char}
    (h : d ∈ quotedChars .unicode text) : 0x20 ≤ d.toNat := by
  simp only [quotedChars, List.mem_cons, List.mem_append, List.mem_flatMap, List.not_mem_nil,
    or_false] at h
  rcases h with rfl | ⟨c, -, hc⟩ | rfl
  · decide
  · exact le_toNat_of_mem_quotedChar hc
  · decide

variable {limit : Option Nat} {value : Json} {level : Nat}

theorem le_toNat_of_mem_word {word : List Char} (h : word.all (0x20 ≤ ·.toNat) = true) {c : Char}
    (hmem : c ∈ word) : 0x20 ≤ c.toNat := of_decide_eq_true (List.all_eq_true.1 h c hmem)

/-- A value that holds no others is written without control characters. -/
theorem le_toNat_of_mem_written (h : value.Plain limit) (harr : ∀ items, value ≠ .arr items)
    (hobj : ∀ members, value ≠ .obj members) {c : Char} (hmem : c ∈ written level value) :
    0x20 ≤ c.toNat := by
  cases h with
  | null =>
    rw [written_null] at hmem
    exact le_toNat_of_mem_word (by decide) hmem
  | bool b =>
    cases b with
    | true =>
      rw [written_true] at hmem
      exact le_toNat_of_mem_word (by decide) hmem
    | false =>
      rw [written_false] at hmem
      exact le_toNat_of_mem_word (by decide) hmem
  | @int n _ =>
    have hdigit {c : Char} (hc : c ∈ Digits.ofNat n.natAbs) : 0x20 ≤ c.toNat := by
      have := (Text.isAsciiDigit_iff.1 (Digits.isAsciiDigit_of_mem_ofNat hc)).1
      omega
    rw [written_int, Digits.ofInt] at hmem
    split at hmem
    · rcases List.mem_cons.1 hmem with rfl | hc
      · decide
      · exact hdigit hc
    · exact hdigit hmem
  | str s =>
    rw [written_str] at hmem
    exact le_toNat_of_mem_quotedChars hmem
  | arr => exact absurd rfl (harr _)
  | obj => exact absurd rfl (hobj _)

/-- The only control characters of a text are line feeds. -/
def OnlyFeeds (text : List Char) : Prop := ∀ c ∈ text, c.toNat < 0x20 → c = '\n'

theorem onlyFeeds_nil : OnlyFeeds [] := nofun

theorem OnlyFeeds.append {first second : List Char} (h : OnlyFeeds first) (h' : OnlyFeeds second) :
    OnlyFeeds (first ++ second) := List.forall_mem_append.2 ⟨h, h'⟩

theorem OnlyFeeds.cons {c : Char} {rest : List Char} (hc : 0x20 ≤ c.toNat) (h : OnlyFeeds rest) :
    OnlyFeeds (c :: rest) :=
  List.forall_mem_cons.2 ⟨fun hlow => absurd hlow (Nat.not_lt.2 hc), h⟩

theorem onlyFeeds_breakChars (level : Nat) : OnlyFeeds (breakChars level) := by
  refine List.forall_mem_cons.2 ⟨fun _ => rfl, fun c hc hlow => ?_⟩
  rw [List.eq_of_mem_replicate hc] at hlow
  exact absurd hlow (by decide)

theorem onlyFeeds_rows (level : Nat) {texts : List (List Char)}
    (h : ∀ text ∈ texts, OnlyFeeds text) : OnlyFeeds (rows level texts) := by
  induction texts with
  | nil => exact nofun
  | cons text more ih =>
    rw [List.forall_mem_cons] at h
    cases more with
    | nil => exact h.1
    | cons next others =>
      rw [rows_cons_cons]
      exact h.1.append (((onlyFeeds_breakChars level).append (ih h.2)).cons (by decide))

theorem onlyFeeds_bracketed (level : Nat) {opening closing : Char} {texts : List (List Char)}
    (hopening : 0x20 ≤ opening.toNat) (hclosing : 0x20 ≤ closing.toNat)
    (h : ∀ text ∈ texts, OnlyFeeds text) : OnlyFeeds (bracketed level opening closing texts) := by
  have hlast : OnlyFeeds [closing] := onlyFeeds_nil.cons hclosing
  have hbody := (onlyFeeds_rows (level + 1) h).append ((onlyFeeds_breakChars level).append hlast)
  exact ((onlyFeeds_breakChars (level + 1)).append hbody).cons hopening

theorem onlyFeeds_scalar (h : value.Plain limit) (harr : ∀ items, value ≠ .arr items)
    (hobj : ∀ members, value ≠ .obj members) : OnlyFeeds (written level value) :=
  fun _ hmem hlow => absurd hlow (Nat.not_lt.2 (le_toNat_of_mem_written h harr hobj hmem))

theorem onlyFeeds_member {pair : String × Json} (h : OnlyFeeds (written level pair.2)) :
    OnlyFeeds (writtenMember level pair) := by
  have hkey : OnlyFeeds (quotedChars .unicode pair.1.toList) := fun c hc hlow =>
    absurd hlow (Nat.not_lt.2 (le_toNat_of_mem_quotedChars hc))
  exact hkey.append ((h.cons (by decide)).cons (by decide))

/-- What stands around items and members is visible and no backtick. -/
theorem of_bracket {c : Char} (h : c ∈ ['[', '\x7b'] ∨ c ∈ [']', '\x7d']) :
    0x20 ≤ c.toNat ∧ isBlank c = false ∧ c ≠ '\x60' := by
  simp only [List.mem_cons, List.not_mem_nil, or_false] at h
  rcases h with (rfl | rfl) | rfl | rfl <;> decide

/-- A value is written without control characters other than line feeds. -/
theorem onlyFeeds_written (h : value.Plain limit) (level : Nat) :
    OnlyFeeds (written level value) := by
  refine written_induct (fun level => onlyFeeds_scalar) (fun hopening hclosing => ?_)
    (fun level _ _ _ hopening hclosing _ htexts => ?_) (fun level _ => onlyFeeds_member) h level
  · exact (onlyFeeds_nil.cons (of_bracket (.inr hclosing)).1).cons (of_bracket (.inl hopening)).1
  · exact onlyFeeds_bracketed level (of_bracket (.inl hopening)).1 (of_bracket (.inr hclosing)).1
      htexts

/-! ## Guarded lines -/

/-- A text guards the lines that it begins and leaves the lines below it. -/
def Guards (text : List Char) : Prop :=
  ∀ rest, GuardedBelow rest → Guarded (text ++ rest)

theorem Guards.after_break {rest : List Char} (level : Nat) (h : Guarded rest) :
    GuardedBelow (breakChars level ++ rest) := (h.spaces (2 * level)).after_newline

/-- Texts in rows that guard their lines do so together. -/
theorem guards_rows (level : Nat) {texts : List (List Char)} (hne : texts ≠ [])
    (h : ∀ text ∈ texts, Guards text) : Guards (rows level texts) := by
  induction texts with
  | nil => exact absurd rfl hne
  | cons text more ih =>
    rw [List.forall_mem_cons] at h
    cases more with
    | nil => exact h.1
    | cons next others =>
      intro rest hrest
      rw [rows_cons_cons, List.append_assoc, List.cons_append, List.append_assoc]
      have hbelow := ih (List.cons_ne_nil next others) h.2 rest hrest
      exact h.1 _ (@GuardedBelow.append _ [','] (by decide) (Guards.after_break level hbelow))

/-- A value that holds no others guards its line. -/
theorem guards_scalar (h : value.Plain limit) (harr : ∀ items, value ≠ .arr items)
    (hobj : ∀ members, value ≠ .obj members) : Guards (written level value) := by
  intro rest hrest
  obtain ⟨c, tail, hbegin, hc⟩ := exists_written_eq_cons level h
  obtain ⟨hblank, -, hguard⟩ := hc.visible
  have hfeed : '\n' ∉ tail := fun hmem => absurd
    (le_toNat_of_mem_written h harr hobj (hbegin ▸ List.mem_cons_of_mem c hmem)) (by decide)
  rw [hbegin]
  exact (hrest.append hfeed).cons hblank hguard

/-- Brackets on lines of their own guard these lines. -/
theorem guards_bracketed (level : Nat) {opening closing : Char} {texts : List (List Char)}
    (hopening : isBlank opening = false ∧ opening ≠ '\x60')
    (hclosing : isBlank closing = false ∧ closing ≠ '\x60') (hne : texts ≠ [])
    (h : ∀ text ∈ texts, Guards text) : Guards (bracketed level opening closing texts) := by
  intro rest hrest
  have hlast : Guarded (closing :: rest) := hrest.cons hclosing.1 hclosing.2
  have hbody := guards_rows (level + 1) hne h _ (Guards.after_break level hlast)
  have hfirst := (Guards.after_break (level + 1) hbody).cons hopening.1 hopening.2
  simpa [bracketed] using hfirst

theorem guards_member {pair : String × Json} (h : Guards (written level pair.2)) :
    Guards (writtenMember level pair) := by
  intro rest hrest
  have hvalue := (@GuardedBelow.append _ [':', ' '] (by decide) (h rest hrest).below)
  have hfeed : '\n' ∉ quotedChars .unicode pair.1.toList := fun hmem =>
    absurd (le_toNat_of_mem_quotedChars hmem) (by decide)
  rw [writtenMember, List.append_assoc]
  exact (hvalue.append fun hmem => hfeed (List.mem_cons_of_mem _ hmem)).cons (by decide) (by decide)

/-- No line of a written value begins with a backtick. -/
theorem guards_written (h : value.Plain limit) (level : Nat) : Guards (written level value) := by
  refine written_induct (fun level => guards_scalar) (fun hopening hclosing rest hrest => ?_)
    (fun level _ _ _ hopening hclosing hne htexts => ?_) (fun level _ => guards_member) h level
  · have hclosed := hrest.cons (of_bracket (.inr hclosing)).2.1 (of_bracket (.inr hclosing)).2.2
    exact hclosed.below.cons (of_bracket (.inl hopening)).2.1 (of_bracket (.inl hopening)).2.2
  · exact guards_bracketed level (of_bracket (.inl hopening)).2 (of_bracket (.inr hclosing)).2 hne
      htexts

end Json

namespace Rendering

open Markdown

/-- **A value of plain JSON is shown between fences and reads back**: after the opening fence comes
a body without another fence, whose lines end in line feeds only, and which is read as the value.
Without a limit this holds for integers of any size, with the limit of `Json.parse` for those it
allows. -/
theorem primitive_json (options : RenderOptions) {field : FieldInfo} {value : Json}
    {limit : Option Nat} (hkind : field.kind = some .json) (hrte : field.isJsonRte = false)
    (hempty : value.isEmptyValue = false) (hplain : value.Plain limit) :
    ∃ body : String, primitive options field value =
        .ok (.str ("\x60\x60\x60json\n" ++ (body ++ "\n\x60\x60\x60"))) ∧
      (∀ line ∈ Text.lines body, ¬ IsFence line) ∧ '\r' ∉ body.toList ∧
      Json.parseWith limit body.toList = .ok value := by
  refine ⟨value.indented .unicode, ?_, ?_, ?_, Json.parseWith_indented hplain⟩
  · unfold primitive
    rw [hempty, hkind, hrte]
    rfl
  · have hguarded := Json.guards_written hplain 0 [] guardedBelow_nil
    rw [List.append_nil] at hguarded
    exact Guarded.not_isFence hguarded
  · exact fun hmem => absurd (Json.onlyFeeds_written hplain 0 '\r' hmem (by decide)) (by decide)

/-- Backticks, quotation marks and control characters in keys and texts. -/
theorem primitive_json_backticks :
    let field : FieldInfo := { uid := "data", dataType := some "json" }
    let value : Json := .obj [("\x60\x60\x60",
      .arr [.str "a\n\x60\x60\x60\"\\\x01", .int (-12), .null, .bool true, .arr [], .obj []])]
    field.kind = some .json ∧ field.isJsonRte = false ∧ value.isEmptyValue = false ∧
      value.Plain (some Numeral.maxDigits) ∧
      ∃ body : String, primitive {} field value =
          .ok (.str ("\x60\x60\x60json\n" ++ (body ++ "\n\x60\x60\x60"))) ∧
        (∀ line ∈ Text.lines body, ¬ IsFence line) ∧ '\r' ∉ body.toList ∧
        Json.parseWith (some Numeral.maxDigits) body.toList = .ok value := by
  intro field value
  have hkind : field.kind = some .json := by decide
  have hplain : value.Plain (some Numeral.maxDigits) := by
    have htwelve : (Json.int (-12)).Plain (some Numeral.maxDigits) :=
      .int fun most hmost => Option.some.inj hmost ▸ by decide
    refine .obj (by decide) (List.forall_mem_singleton.2 (.arr ?_))
    simp only [List.forall_mem_cons]
    exact ⟨.str _, htwelve, .null, .bool true, .arr nofun, .obj (by decide) nofun, nofun⟩
  exact ⟨hkind, rfl, rfl, hplain, primitive_json {} hkind rfl rfl hplain⟩

end Rendering

end ContentModel
