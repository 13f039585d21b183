import ContentModel.Json.Printer
import ContentModel.Proofs.Json.DistinctKeys
import ContentModel.Proofs.Text.Digits

/-!
# Values over several lines

The characters of the indented form of a value.

* `Json.Plain` are the values without floating-point numbers and repeated keys;
* `Json.written` are the characters of a value, `Json.rows` those of its items or members between
  the brackets: `Json.written_arr` and `Json.written_obj`;
* `Json.exists_written_eq_cons` says how a value begins.
-/

namespace ContentModel.Json

/-- Values without floating-point numbers, whose objects have every key once and whose integers have
no more digits than the limit, if there is one. -/
inductive Plain (limit : Option Nat) : Json → Prop
  | null : Plain limit .null
  | bool (b : Bool) : Plain limit (.bool b)
  | int {n : Int} (within : ∀ most ∈ limit, (Digits.ofNat n.natAbs).length ≤ most) :
      Plain limit (.int n)
  | str (s : String) : Plain limit (.str s)
  | arr {items : List Json} (items_plain : ∀ item ∈ items, Plain limit item) :
      Plain limit (.arr items)
  | obj {members : Members} (nodup : (Members.keys members).Nodup)
      (values_plain : ∀ pair ∈ members, Plain limit pair.2) : Plain limit (.obj members)

/-! ## The characters of a value -/

/-- The characters of a value over several lines, given the level of the line it begins on. -/
def written (level : Nat) (value : Json) : List Char := (indentedAt .unicode level value).toList

/-- The characters of a member of an object. -/
def writtenMember (level : Nat) (pair : String × Json) : List Char :=
  quotedChars .unicode pair.1.toList ++ (':' :: ' ' :: written level pair.2)

/-- A line feed and the blanks at the beginning of the next line. -/
def breakChars (level : Nat) : List Char := '\n' :: List.replicate (2 * level) ' '

/-- Texts that begin on lines of their own, with commas between them. -/
def rows (level : Nat) : List (List Char) → List Char
  | [] => []
  | [text] => text
  | text :: next :: rest => text ++ ',' :: (breakChars level ++ rows level (next :: rest))

theorem rows_cons_cons (level : Nat) (text next : List Char) (rest : List (List Char)) :
    rows level (text :: next :: rest) =
      text ++ ',' :: (breakChars level ++ rows level (next :: rest)) := rfl

theorem exists_rows_eq_cons (level : Nat) (c : Char) (tail : List Char) (rest : List (List Char)) :
    ∃ more, rows level ((c :: tail) :: rest) = c :: more := by
  cases rest with
  | nil => exact ⟨tail, rfl⟩
  | cons next others => exact ⟨_, rows_cons_cons level (c :: tail) next others⟩

/-- Texts that begin on lines of their own, between brackets. -/
def bracketed (level : Nat) (opening closing : Char) (texts : List (List Char)) : List Char :=
  opening :: (breakChars (level + 1) ++
    (rows (level + 1) texts ++ (breakChars level ++ [closing])))

theorem toList_lineBreak (level : Nat) : (lineBreak level).toList = breakChars level :=
  String.toList_ofList

theorem toList_joinWith_lineBreak (level : Nat) (texts : List String) :
    (Text.joinWith ("," ++ lineBreak level) texts).toList =
      rows level (texts.map String.toList) := by
  induction texts with
  | nil => rfl
  | cons text rest ih =>
    cases rest with
    | nil => rfl
    | cons next more =>
      rw [Text.joinWith_cons_cons, String.toList_append, String.toList_append, ih,
        String.toList_append, toList_lineBreak]
      simp [rows]

theorem indentedItems_eq_map (charset : Charset) (level : Nat) (items : List Json) :
    indentedItems charset level items = items.map (indentedAt charset level) := by
  induction items with
  | nil => rfl
  | cons item rest ih => rw [indentedItems, ih, List.map_cons]

theorem indentedMembers_eq_map (charset : Charset) (level : Nat) (members : Members) :
    indentedMembers charset level members = members.map fun pair =>
      quotedString charset pair.1 ++ (": " ++ indentedAt charset level pair.2) := by
  induction members with
  | nil => rfl
  | cons pair rest ih => rw [indentedMembers, ih, List.map_cons]

theorem toList_quotedString (charset : Charset) (s : String) :
    (quotedString charset s).toList = quotedChars charset s.toList := String.toList_ofList

theorem written_scalar (level : Nat) {value : Json} (harr : ∀ items, value ≠ .arr items)
    (hobj : ∀ members, value ≠ .obj members) :
    written level value = (scalarText .unicode value).toList := by
  cases value with
  | arr items => exact absurd rfl (harr items)
  | obj members => exact absurd rfl (hobj members)
  | _ => simp [written, indentedAt]

theorem written_null (level : Nat) : written level .null = ['n', 'u', 'l', 'l'] :=
  written_scalar level nofun nofun

theorem written_true (level : Nat) : written level (.bool true) = ['t', 'r', 'u', 'e'] :=
  written_scalar level nofun nofun

theorem written_false (level : Nat) : written level (.bool false) = ['f', 'a', 'l', 's', 'e'] :=
  written_scalar level nofun nofun

theorem written_int (level : Nat) (n : Int) : written level (.int n) = Digits.ofInt n :=
  (@written_scalar level (.int n) nofun nofun).trans String.toList_ofList

theorem written_str (level : Nat) (s : String) :
    written level (.str s) = quotedChars .unicode s.toList :=
  (@written_scalar level (.str s) nofun nofun).trans String.toList_ofList

theorem written_arr_nil (level : Nat) : written level (.arr []) = ['[', ']'] := by
  rw [written, indentedAt]
  rfl

theorem written_obj_nil (level : Nat) : written level (.obj []) = ['\x7b', '\x7d'] := by
  rw [written, indentedAt]
  rfl

theorem written_arr (level : Nat) {items : List Json} (h : items ≠ []) :
    written level (.arr items) = bracketed level '[' ']' (items.map (written (level + 1))) := by
  obtain ⟨item, rest, rfl⟩ := List.exists_cons_of_ne_nil h
  rw [written, indentedAt, indentedItems_eq_map, ← List.map_cons]
  simp only [String.toList_append, toList_lineBreak, toList_joinWith_lineBreak, List.map_map]
  rfl

theorem written_obj (level : Nat) {members : Members} (h : members ≠ []) :
    written level (.obj members) =
      bracketed level '\x7b' '\x7d' (members.map (writtenMember (level + 1))) := by
  obtain ⟨⟨key, value⟩, rest, rfl⟩ := List.exists_cons_of_ne_nil h
  rw [written, indentedAt, indentedMembers_eq_map]
  simp only [String.toList_append, toList_lineBreak, toList_joinWith_lineBreak, List.map_map,
    List.map_cons, Function.comp_def, toList_quotedString]
  rfl

/-- Induction on the written forms of values: a property of the forms that hold no others, of empty
brackets, of brackets around texts that have it and of members whose values have it. -/
theorem written_induct {limit : Option Nat} {P : List Char → Prop}
    (scalar : ∀ {value : Json} (level : Nat), value.Plain limit → (∀ items, value ≠ .arr items) →
      (∀ members, value ≠ .obj members) → P (written level value))
    (empty : ∀ {opening closing : Char}, opening ∈ ['[', '\x7b'] → closing ∈ [']', '\x7d'] →
      P [opening, closing])
    (brackets : ∀ (level : Nat) {opening closing : Char} {texts : List (List Char)},
      opening ∈ ['[', '\x7b'] → closing ∈ [']', '\x7d'] → texts ≠ [] → (∀ text ∈ texts, P text) →
      P (bracketed level opening closing texts))
    (member : ∀ (level : Nat) {pair : String × Json}, P (written level pair.2) →
      P (writtenMember level pair))
    {value : Json} (h : value.Plain limit) (level : Nat) : P (written level value) := by
  induction h generalizing level with
  | null => exact scalar level .null nofun nofun
  | bool b => exact scalar level (.bool b) nofun nofun
  | int hlimit => exact scalar level (.int hlimit) nofun nofun
  | str s => exact scalar level (.str s) nofun nofun
  | @arr items _ ih =>
    by_cases hnil : items = []
    · rw [hnil, written_arr_nil]
      exact empty (by decide) (by decide)
    · rw [written_arr level hnil]
      refine brackets level (by decide) (by decide) (by simpa using hnil) fun text htext => ?_
      obtain ⟨item, hitem, rfl⟩ := List.mem_map.1 htext
      exact ih item hitem (level + 1)
  | @obj members _ _ ih =>
    by_cases hnil : members = []
    · rw [hnil, written_obj_nil]
      exact empty (by decide) (by decide)
    · rw [written_obj level hnil]
      refine brackets level (by decide) (by decide) (by simpa using hnil) fun text htext => ?_
      obtain ⟨pair, hpair, rfl⟩ := List.mem_map.1 htext
      exact member (level + 1) (ih pair hpair (level + 1))

/-! ## How a value begins -/

/-- A character that begins a value: the first one of a word, of a numeral or of a string, or an
opening bracket. -/
def Begins (c : Char) : Prop := c ∈ ['n', 't', 'f', '-', '"', '[', '{'] ∨
  Text.isAsciiDigit c = true

/-- What begins a value is visible, and neither the bracket behind the items of a list nor a
backtick. -/
theorem Begins.visible {c : Char} (h : Begins c) :
    Text.isBlank c = false ∧ c ≠ ']' ∧ c ≠ '\x60' := by
  rcases h with hmem | hdigit
  · simp only [List.mem_cons, List.not_mem_nil, or_false] at hmem
    rcases hmem with rfl | rfl | rfl | rfl | rfl | rfl | rfl <;> decide
  · refine ⟨Text.isBlank_of_isDigit (Text.isDigit_of_isAsciiDigit hdigit), ?_, ?_⟩
    · rintro rfl
      cases hdigit
    · rintro rfl
      cases hdigit

theorem exists_ofInt_eq_cons (n : Int) :
    ∃ c rest, Digits.ofInt n = c :: rest ∧ (c = '-' ∨ Text.isAsciiDigit c = true) := by
  unfold Digits.ofInt
  split
  · exact ⟨_, _, rfl, .inl rfl⟩
  · obtain ⟨c, rest, hdigits, hc⟩ := Digits.exists_ofNat_eq_cons n.natAbs
    exact ⟨c, rest, hdigits, .inr hc⟩

theorem exists_written_eq_cons {limit : Option Nat} (level : Nat) {value : Json}
    (h : value.Plain limit) : ∃ c rest, written level value = c :: rest ∧ Begins c := by
  cases h with
  | null => exact ⟨_, _, written_null level, .inl (by decide)⟩
  | bool b =>
    cases b with
    | true => exact ⟨_, _, written_true level, .inl (by decide)⟩
    | false => exact ⟨_, _, written_false level, .inl (by decide)⟩
  | @int n _ =>
    obtain ⟨c, rest, hdigits, hc⟩ := exists_ofInt_eq_cons n
    refine ⟨c, rest, (written_int level n).trans hdigits, ?_⟩
    rcases hc with rfl | hdigit
    · exact .inl (by decide)
    · exact .inr hdigit
  | str s => exact ⟨_, _, written_str level s, .inl (by decide)⟩
  | @arr items _ =>
    by_cases hitems : items = []
    · rw [hitems]
      exact ⟨_, _, written_arr_nil level, .inl (by decide)⟩
    · exact ⟨_, _, written_arr level hitems, .inl (by decide)⟩
  | @obj members _ _ =>
    by_cases hmembers : members = []
    · rw [hmembers]
      exact ⟨_, _, written_obj_nil level, .inl (by decide)⟩
    · exact ⟨_, _, written_obj level hmembers, .inl (by decide)⟩

theorem exists_rows_items_eq_cons {limit : Option Nat} (level : Nat) {items : List Json}
    (hne : items ≠ []) (h : ∀ item ∈ items, Plain limit item) :
    ∃ c rest, rows level (items.map (written level)) = c :: rest ∧ Begins c := by
  obtain ⟨item, more, rfl⟩ := List.exists_cons_of_ne_nil hne
  obtain ⟨c, tail, hitem, hc⟩ := exists_written_eq_cons level (h item List.mem_cons_self)
  obtain ⟨rest, hrest⟩ := exists_rows_eq_cons level c tail (more.map (written level))
  exact ⟨c, rest, by rw [List.map_cons, hitem, hrest], hc⟩

theorem exists_rows_members_eq_cons (level : Nat) {members : Members} (hne : members ≠ []) :
    ∃ rest, rows level (members.map (writtenMember level)) = '"' :: rest := by
  obtain ⟨pair, more, rfl⟩ := List.exists_cons_of_ne_nil hne
  exact exists_rows_eq_cons level _ _ _

end ContentModel.Json
