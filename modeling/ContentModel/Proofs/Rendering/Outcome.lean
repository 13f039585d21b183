import ContentModel.Proofs.Numeric.Overflow
import ContentModel.Proofs.Rendering.Values

/-!
# Outcomes of rendering single values

Which values of a field the default formatters cannot show, and which are shown by a title or name
that is no text.

* `Rendering.Fails` holds of renderings that end in an error;
* `FieldInfo.Unshowable` lists the values of a field that have no rendering, `FieldInfo.Unwritable`
  those that have none as text;
* `Rendering.scalar_shows` and `FieldInfo.primitive_shows` say that these are all.
-/

namespace ContentModel

namespace Rendering

/-! ## Failing -/

/-- A rendering ends in an error. -/
def Fails {α : Type} (rendering : Except RenderError α) : Prop := ∃ error, rendering = .error error

section Fails

variable {α β γ : Type} {rendering : Except RenderError α} {other : Except RenderError β}

@[simp] theorem fails_error (error : RenderError) :
    Fails (.error error : Except RenderError α) := ⟨error, rfl⟩

@[simp] theorem not_fails_ok (a : α) : ¬ Fails (.ok a : Except RenderError α) := nofun

theorem not_fails_iff : ¬ Fails rendering ↔ ∃ a, rendering = .ok a := by
  cases rendering <;> simp

/-- A rendering in two steps fails where the first does, or the second after it. -/
theorem fails_bind {f : α → Except RenderError β} :
    Fails (rendering >>= f) ↔ Fails rendering ∨ ∃ a, rendering = .ok a ∧ Fails (f a) := by
  cases rendering with
  | error error => exact ⟨fun _ => Or.inl (fails_error error), fun _ => fails_error error⟩
  | ok a => simp [bind, Except.bind]

@[simp] theorem fails_map {f : α → β} : Fails (rendering.map f) ↔ Fails rendering := by
  cases rendering <;> simp [Except.map]

@[simp] theorem fails_functorMap {f : α → β} : Fails (f <$> rendering) ↔ Fails rendering :=
  fails_map

/-- A step and the rest after it. -/
theorem fails_seq {f : α → β → γ} :
    Fails (do let a ← rendering; let b ← other; return f a b) ↔ Fails rendering ∨ Fails other := by
  cases rendering with
  | error error => exact ⟨fun _ => Or.inl (fails_error error), fun _ => fails_error error⟩
  | ok a =>
    change Fails (other >>= fun b => pure (f a b)) ↔ _
    simp

end Fails

/-! ## Values without a rendering -/

/-- A value is filled, but no text. -/
def NonText (value : Json) : Prop := value.isTruthy = true ∧ ∀ text, value ≠ .str text

/-- An integer is beyond the floating-point range once it is counted in billions. -/
inductive TooLarge : Json → Prop
  | int {n : Int} (large : ((Abbreviated.billion * Binary64.overflow : Nat) : Int) ≤ n) :
      TooLarge (.int n)

/-- A value of a kind of fields is shown by a title or name of its own that is no text. -/
inductive NamedByNonText : Option FieldKind → Json → Prop
  /-- A link that leads nowhere. -/
  | link {members : Members} (nowhere : (valueOf members "href").isTruthy = false)
      (title : NonText (valueOf members "title")) : NamedByNonText (some .link) (.obj members)
  /-- A file without an address. -/
  | file {members : Members} (nowhere : (valueOf members "url").isTruthy = false)
      (name : NonText (orElse (valueOf members "title") (valueOf members "filename"))) :
      NamedByNonText (some .file) (.obj members)
  | reference {members : Members} (title : NonText (valueOf members "title")) :
      NamedByNonText (some .reference) (.obj members)
  | globalField {members : Members} (title : NonText (valueOf members "title")) :
      NamedByNonText (some .globalField) (.obj members)

end Rendering

open Rendering

/-- A value of a field has no rendering. -/
inductive FieldInfo.Unshowable (field : FieldInfo) : Json → Prop
  /-- A number is too large. -/
  | number {value : Json} (kind : field.kind = some .number) (large : TooLarge value) :
      Unshowable field value
  /-- One of several numbers is too large. -/
  | numbers {items : List Json} {item : Json} (kind : field.kind = some .number)
      (mem : item ∈ items) (large : TooLarge item) : Unshowable field (.arr items)
  /-- One of several values is to be joined with the others by a name that is no text. -/
  | joined {items : List Json} {item : Json} (mem : item ∈ items)
      (named : NamedByNonText field.kind item) : Unshowable field (.arr items)

/-- A value of a field has no rendering that is text. -/
def FieldInfo.Unwritable (field : FieldInfo) (value : Json) : Prop :=
  field.Unshowable value ∨ NamedByNonText field.kind value

namespace Rendering

/-! ## Outcomes -/

/-- How a value is shown: not at all if it is unshowable, by what is no text if it is so named, and
else by a text. -/
inductive Shows : Except RenderError Json → Prop → Prop → Prop
  | failed {unshowable named : Prop} (error : RenderError) (h : unshowable) :
      Shows (.error error) unshowable named
  | named {unshowable named : Prop} {rendered : Json} (hshowable : ¬ unshowable) (h : named)
      (hnonText : NonText rendered) : Shows (.ok rendered) unshowable named
  | text {unshowable named : Prop} (text : String) (hshowable : ¬ unshowable) (h : ¬ named) :
      Shows (.ok (.str text)) unshowable named

namespace Shows

variable {rendering : Except RenderError Json} {unshowable named : Prop}

theorem congr {unshowable' named' : Prop} (h : Shows rendering unshowable named)
    (hunshowable : unshowable ↔ unshowable') (hnamed : named ↔ named') :
    Shows rendering unshowable' named' := by
  rwa [← propext hunshowable, ← propext hnamed]

theorem fails_iff (h : Shows rendering unshowable named) : Fails rendering ↔ unshowable := by
  cases h with
  | failed error h => exact ⟨fun _ => h, fun _ => fails_error error⟩
  | named hshowable => simp [hshowable]
  | text text hshowable => simp [hshowable]

theorem nonText_iff (h : Shows rendering unshowable named) :
    (∃ rendered, rendering = .ok rendered ∧ NonText rendered) ↔ named ∧ ¬ unshowable := by
  cases h with
  | failed error h => exact iff_of_false (fun ⟨_, heq, _⟩ => nomatch heq) fun hnot => hnot.2 h
  | named hshowable h hnonText => exact iff_of_true ⟨_, rfl, hnonText⟩ ⟨h, hshowable⟩
  | text text _ h =>
    refine iff_of_false ?_ fun hnot => h hnot.1
    rintro ⟨_, heq, hnonText⟩
    cases heq
    exact hnonText.2 text rfl

/-- A rendering can be put into a table cell if it is text. -/
theorem fails_cellText_iff (h : Shows rendering unshowable named) :
    Fails (rendering.bind cellText) ↔ unshowable ∨ named := by
  cases h with
  | failed error h => exact ⟨fun _ => Or.inl h, fun _ => fails_error error⟩
  | @named _ _ rendered _ h hnonText =>
    refine ⟨fun _ => Or.inr h, fun _ => ?_⟩
    cases rendered with
    | str text => exact absurd rfl (hnonText.2 text)
    | _ => exact fails_error _
  | text text hshowable h =>
    have : (Except.ok (.str text) : Except RenderError Json).bind cellText =
      .ok (Markdown.escapeCell text) := rfl
    simp [this, hshowable, h]

end Shows

variable {options : RenderOptions} {kind : Option FieldKind}

/-! ## Single values -/

theorem NamedByNonText.isObject {value : Json} (h : NamedByNonText kind value) :
    value.isObject = true := by
  cases h <;> rfl

/-- A value that is shown by its title, if this is filled, and else by a text. -/
theorem orElse_shows (first : Json) (text : String) :
    Shows (.ok (orElse first (.str text))) False (NonText first) := by
  unfold orElse
  cases htruthy : first.isTruthy with
  | false => exact .text text id fun h => by simp [h.1] at htruthy
  | true =>
    by_cases hstr : ∃ title, first = .str title
    · obtain ⟨title, rfl⟩ := hstr
      exact .text title id fun h => h.2 title rfl
    · have hnonText : NonText first := ⟨htruthy, fun title h => hstr ⟨title, h⟩⟩
      exact .named id hnonText hnonText

theorem named_link_iff {members : Members} : NamedByNonText (some .link) (.obj members) ↔
    (valueOf members "href").isTruthy = false ∧ NonText (valueOf members "title") := by
  constructor
  · rintro (⟨nowhere, title⟩ | _)
    exact ⟨nowhere, title⟩
  · exact fun h => .link h.1 h.2

theorem named_file_iff {members : Members} : NamedByNonText (some .file) (.obj members) ↔
    (valueOf members "url").isTruthy = false ∧
      NonText (orElse (valueOf members "title") (valueOf members "filename")) := by
  constructor
  · intro h
    cases h with
    | file nowhere name => exact ⟨nowhere, name⟩
  · exact fun h => .file h.1 h.2

theorem named_reference_iff {members : Members} :
    NamedByNonText (some .reference) (.obj members) ↔ NonText (valueOf members "title") := by
  constructor
  · intro h
    cases h with
    | reference title => exact title
  · exact .reference

theorem named_globalField_iff {members : Members} :
    NamedByNonText (some .globalField) (.obj members) ↔ NonText (valueOf members "title") := by
  constructor
  · intro h
    cases h with
    | globalField title => exact title
  · exact .globalField

theorem linkText_shows (members : Members) :
    Shows (.ok (linkText members)) False (NamedByNonText (some .link) (.obj members)) := by
  rw [named_link_iff]
  cases hhref : (valueOf members "href").isTruthy with
  | true =>
    have htext : linkText members = _ := if_pos hhref
    rw [htext]
    exact .text _ id nofun
  | false =>
    have htitle : linkText members = _ := if_neg (by simp [hhref])
    rw [htitle]
    exact (orElse_shows _ "").congr .rfl (by simp)

theorem assetText_shows (members : Members) :
    Shows (.ok (assetText (.obj members))) False (NamedByNonText (some .file) (.obj members)) := by
  rw [named_file_iff]
  cases hurl : (valueOf members "url").isTruthy with
  | true =>
    have htext : assetText (.obj members) = if isImage (.obj members) then _ else _ :=
      if_neg (by simp [Json.members, hurl])
    rw [htext]
    cases isImage (.obj members) with
    | true => exact .text _ id nofun
    | false => exact .text _ id nofun
  | false =>
    have hname : assetText (.obj members) = _ := if_pos (by simp [Json.members, hurl])
    rw [hname]
    exact (orElse_shows _ "").congr .rfl (by simp [Json.members])

theorem referenceText_shows (members : Members) :
    Shows (.ok (referenceText members)) False (NonText (valueOf members "title")) :=
  orElse_shows _ _

theorem TooLarge.ofInt_eq_none {n : Int} : TooLarge (.int n) ↔ Abbreviated.ofInt n = none := by
  rw [Abbreviated.ofInt_eq_none_iff]
  exact ⟨fun ⟨large⟩ => large, .int⟩

/-- An integer below the billions has an abbreviated form. -/
theorem ofInt_bool (b : Bool) : ∃ text, Abbreviated.ofInt (if b then 1 else 0) = some text := by
  cases b <;> exact ⟨_, rfl⟩

/-- The default formatter of numbers refuses numbers beyond the floating-point range. -/
theorem numberText_shows (hnumber : options.formatNumber = Formatter.number) (value : Json) :
    Shows (numberText options value) (TooLarge value) False := by
  unfold numberText
  rw [hnumber]
  cases value with
  | int n =>
    simp only [shownNumber?, Option.map_some, Formatter.number]
    by_cases hlong : n < 0 ∧ Digits.isTooLong n = true
    · -- the formatter refuses it, and it is shown as it stands
      rw [Formatter.integer_eq_tooLong hlong]
      refine .text _ (fun ⟨hlarge⟩ => ?_) id
      omega
    · rw [Formatter.integer_eq_abbreviated hlong]
      cases hint : Abbreviated.ofInt n with
      | none => exact .failed _ (TooLarge.ofInt_eq_none.2 hint)
      | some text => exact .text text (fun h => by simp [TooLarge.ofInt_eq_none.1 h] at hint) id
  | bool b =>
    obtain ⟨text, htext⟩ := ofInt_bool b
    have hnonneg : ¬ (if b then 1 else 0 : Int) < 0 := by cases b <;> decide
    simp only [shownNumber?, Option.map_some, Formatter.number,
      Formatter.integer_eq_abbreviated fun h => hnonneg h.1, htext]
    exact .text text nofun id
  | str s =>
    rw [shownNumber?]
    cases Numeral.float? s with
    | none => exact .text _ nofun id
    | some x => exact .text _ nofun id
  | _ => exact .text _ nofun id

/-- The default formatter of dates refuses nothing. -/
theorem dateText_eq_text (hdate : options.formatDate = Formatter.date) (value : Json) :
    ∃ text, dateText options value = .ok (.str text) := by
  rw [dateText, hdate]
  exact ⟨_, rfl⟩

/-- Other values than numbers and objects are shown by texts. -/
theorem scalar_eq_text (hdate : options.formatDate = Formatter.date) {value : Json}
    (hnumber : kind ≠ some .number) (hobject : value.isObject = false) :
    ∃ text, scalar options kind value = .ok (.str text) := by
  cases value with
  | null => exact ⟨_, rfl⟩
  | obj members => cases hobject
  | _ =>
    cases kind with
    | none => exact ⟨_, rfl⟩
    | some kind =>
      cases kind with
      | number => exact absurd rfl hnumber
      | isodate => exact dateText_eq_text hdate _
      | _ => exact ⟨_, rfl⟩

/-- An object is shown by its kind of fields. -/
theorem scalar_obj_shows (hdate : options.formatDate = Formatter.date)
    (hnumber : kind ≠ some .number) (members : Members) :
    Shows (scalar options kind (.obj members)) False (NamedByNonText kind (.obj members)) := by
  cases kind with
  | none => exact .text _ id nofun
  | some kind =>
    cases kind with
    | number => exact absurd rfl hnumber
    | isodate =>
      obtain ⟨text, htext⟩ := dateText_eq_text hdate (.obj members)
      change Shows (dateText options _) _ _
      rw [htext]
      exact .text text id nofun
    | link => exact linkText_shows members
    | file => exact assetText_shows members
    | reference =>
      rw [named_reference_iff]
      exact referenceText_shows members
    | globalField =>
      rw [named_globalField_iff]
      exact referenceText_shows members
    | _ => exact .text _ id nofun

/-- One value is unshowable as a number that is too large, and is named by what is no text in
the ways listed. -/
theorem scalar_shows (hdate : options.formatDate = Formatter.date)
    (hnumber : options.formatNumber = Formatter.number) (kind : Option FieldKind) (value : Json) :
    Shows (scalar options kind value) (kind = some .number ∧ TooLarge value)
      (NamedByNonText kind value) := by
  by_cases hkind : kind = some .number
  · subst hkind
    have hnot : ¬ NamedByNonText (some .number) value := nofun
    have hvalue : Shows (numberText options value)
        (some FieldKind.number = some .number ∧ TooLarge value)
        (NamedByNonText (some .number) value) :=
      (numberText_shows hnumber value).congr (and_iff_right rfl).symm (iff_of_false id hnot)
    cases value with
    | null => exact .text "" (fun h => nomatch h.2) hnot
    | _ => exact hvalue
  · cases hobject : value.isObject with
    | false =>
      obtain ⟨text, htext⟩ := scalar_eq_text hdate hkind hobject
      rw [htext]
      exact .text text (fun h => hkind h.1) fun h => by simp [h.isObject] at hobject
    | true =>
      cases value with
      | obj members => exact (scalar_obj_shows hdate hkind members).congr (by simp [hkind]) .rfl
      | _ => cases hobject

/-! ## Lists -/

/-- Values are joined if all of them are texts. -/
theorem fails_joinTexts_iff (separator : String) {values : List Json} :
    Fails (joinTexts separator values) ↔ ∃ value ∈ values, ∀ text, value ≠ .str text := by
  unfold joinTexts
  simp only [List.filterMap_length_eq_length]
  by_cases h : ∃ value ∈ values, ∀ text, value ≠ .str text
  · obtain ⟨value, hvalue, hnot⟩ := h
    rw [if_neg]
    · exact iff_of_true (fails_error _) ⟨value, hvalue, hnot⟩
    · intro hall
      have := hall value hvalue
      cases value with
      | str text => exact hnot text rfl
      | _ => cases this
  · rw [if_pos]
    · exact iff_of_false (not_fails_ok _) h
    · intro value hvalue
      cases value with
      | str text => rfl
      | _ => exact absurd ⟨_, hvalue, nofun⟩ h

theorem fails_scalars_iff {items : List Json} :
    Fails (scalars options kind items) ↔ ∃ item ∈ items, Fails (scalar options kind item) := by
  induction items with
  | nil => simp [scalars]
  | cons item rest ih =>
    rw [scalars, fails_seq, ih]
    simp

/-- The renderings of a list are those of its items. -/
theorem mem_scalars {items texts : List Json} (h : scalars options kind items = .ok texts)
    (rendered : Json) :
    rendered ∈ texts ↔ ∃ item ∈ items, scalar options kind item = .ok rendered := by
  induction items generalizing texts with
  | nil =>
    cases h
    simp
  | cons item rest ih =>
    rw [scalars] at h
    cases hitem : scalar options kind item with
    | error error => simp [hitem, bind, Except.bind] at h
    | ok first =>
      cases hrest : scalars options kind rest with
      | error error => simp [hitem, hrest, bind, Except.bind] at h
      | ok others =>
        simp [hitem, hrest, bind, Except.bind, pure, Except.pure] at h
        rw [← h, List.mem_cons, ih hrest]
        simp [hitem, eq_comm]

/-- Items are joined unless one of them is unshowable or named by what is no text. -/
theorem joined_shows (hdate : options.formatDate = Formatter.date)
    (hnumber : options.formatNumber = Formatter.number) (kind : Option FieldKind)
    (items : List Json) : Shows (joined options kind items)
      (∃ item ∈ items, (kind = some .number ∧ TooLarge item) ∨ NamedByNonText kind item) False := by
  have hscalar (item : Json) := scalar_shows hdate hnumber kind item
  unfold joined
  cases hscalars : scalars options kind items with
  | error error =>
    obtain ⟨item, hitem, hfails⟩ := fails_scalars_iff.1 ⟨error, hscalars⟩
    exact .failed error ⟨item, hitem, Or.inl ((hscalar item).fails_iff.1 hfails)⟩
  | ok texts =>
    have hshowable : ∀ item ∈ items, ¬ (kind = some .number ∧ TooLarge item) := by
      intro item hitem hlarge
      have hfails := fails_scalars_iff.2 ⟨item, hitem, (hscalar item).fails_iff.2 hlarge⟩
      rw [hscalars] at hfails
      exact not_fails_ok _ hfails
    have hnamed : (∃ value ∈ texts.filter Json.isTruthy, ∀ text, value ≠ .str text) ↔
        ∃ item ∈ items, NamedByNonText kind item := by
      simp only [List.mem_filter, mem_scalars hscalars]
      constructor
      · rintro ⟨value, ⟨⟨item, hitem, hvalue⟩, htruthy⟩, hnot⟩
        exact ⟨item, hitem, ((hscalar item).nonText_iff.1 ⟨value, hvalue, htruthy, hnot⟩).1⟩
      · rintro ⟨item, hitem, hnamed⟩
        obtain ⟨value, hvalue, htruthy, hnot⟩ :=
          (hscalar item).nonText_iff.2 ⟨hnamed, hshowable item hitem⟩
        exact ⟨value, ⟨⟨item, hitem, hvalue⟩, htruthy⟩, hnot⟩
    change Shows (joinTexts (if kind = some .file then "\n\n" else ", ")
      (texts.filter Json.isTruthy) >>= fun text => pure (.str text)) _ _
    generalize (if kind = some .file then "\n\n" else ", ") = separator
    cases hjoin : joinTexts separator (texts.filter Json.isTruthy) with
    | error error =>
      obtain ⟨item, hitem, h⟩ := hnamed.1 ((fails_joinTexts_iff separator).1 ⟨error, hjoin⟩)
      exact .failed error ⟨item, hitem, Or.inr h⟩
    | ok text =>
      refine .text text ?_ id
      rintro ⟨item, hitem, h | h⟩
      · exact hshowable item hitem h
      · have hfails := (fails_joinTexts_iff separator).2 (hnamed.2 ⟨item, hitem, h⟩)
        rw [hjoin] at hfails
        exact not_fails_ok _ hfails

end Rendering

namespace FieldInfo

variable {options : RenderOptions} {field : FieldInfo}

theorem unshowable_arr_iff {items : List Json} : field.Unshowable (.arr items) ↔
    ∃ item ∈ items, (field.kind = some .number ∧ TooLarge item) ∨
      NamedByNonText field.kind item := by
  constructor
  · intro h
    cases h with
    | number _ large => cases large
    | numbers kind mem large => exact ⟨_, mem, Or.inl ⟨kind, large⟩⟩
    | joined mem named => exact ⟨_, mem, Or.inr named⟩
  · rintro ⟨item, mem, ⟨kind, large⟩ | named⟩
    · exact .numbers kind mem large
    · exact .joined mem named

theorem unshowable_single_iff {value : Json} (hsingle : ∀ items, value ≠ .arr items) :
    field.Unshowable value ↔ field.kind = some .number ∧ TooLarge value := by
  constructor
  · intro h
    cases h with
    | number kind large => exact ⟨kind, large⟩
    | numbers => exact absurd rfl (hsingle _)
    | joined => exact absurd rfl (hsingle _)
  · exact fun h => .number h.1 h.2

theorem Unshowable.isEmptyValue_eq {value : Json} (h : field.Unshowable value) :
    value.isEmptyValue = false := by
  cases h with
  | number _ large => cases large; rfl
  | numbers _ mem => cases mem <;> rfl
  | joined mem => cases mem <;> rfl

/-- What is unshowable or named by what is no text is not left out as empty. -/
theorem Unwritable.isEmptyValue_eq {value : Json} (h : field.Unwritable value) :
    value.isEmptyValue = false := by
  rcases h with h | h
  · exact h.isEmptyValue_eq
  · cases value with
    | obj members => rfl
    | _ => exact absurd h.isObject nofun

/-- Texts, terms and rich text are always shown by a text. -/
theorem primitive_eq_text (options : RenderOptions) (value : Json) (h : field.kind = some .text ∨
      field.kind = some .taxonomy ∨ field.kind = some .json) :
    (∃ text, primitive options field value = .ok (.str text)) ∧ ¬ field.Unwritable value := by
  have hnumber : field.kind ≠ some .number := by
    rcases h with h | h | h <;> simp [h]
  have hnamed (value : Json) : ¬ NamedByNonText field.kind value := by
    rcases h with h | h | h <;> rw [h] <;> nofun
  refine ⟨?_, fun hnot => ?_⟩
  · unfold primitive
    cases value.isEmptyValue with
    | true => exact ⟨_, rfl⟩
    | false =>
      rcases h with h | h | h
      · rw [h]
        cases value <;> exact ⟨_, rfl⟩
      · rw [h]
        cases value <;> exact ⟨_, rfl⟩
      · rw [h]
        cases field.isJsonRte <;> exact ⟨_, rfl⟩
  · rcases hnot with hnot | hnot
    · cases hnot with
      | number kind => exact hnumber kind
      | numbers kind => exact hnumber kind
      | joined _ named => exact hnamed _ named
    · exact hnamed value hnot

/-- **Showing the value of a field.** By the default formatters, a value of a field is unshowable,
or named by what is no text, just in the ways listed. -/
theorem primitive_shows (hdate : options.formatDate = Formatter.date)
    (hnumber : options.formatNumber = Formatter.number) (field : FieldInfo) (value : Json) :
    Shows (primitive options field value) (field.Unshowable value)
      (NamedByNonText field.kind value) := by
  by_cases hkind : field.kind = some .text ∨ field.kind = some .taxonomy ∨ field.kind = some .json
  · obtain ⟨⟨text, htext⟩, hnot⟩ := primitive_eq_text options value hkind
    rw [htext]
    exact .text text (fun h => hnot (Or.inl h)) fun h => hnot (Or.inr h)
  · simp only [not_or] at hkind
    obtain ⟨htext, htaxonomy, hjson⟩ := hkind
    cases hempty : value.isEmptyValue with
    | true =>
      have hok : primitive options field value = .ok (.str "") := by simp [primitive, hempty]
      rw [hok]
      have hnot : ¬ field.Unwritable value := fun h =>
        Bool.false_ne_true (h.isEmptyValue_eq.symm.trans hempty)
      exact .text "" (fun h => hnot (Or.inl h)) fun h => hnot (Or.inr h)
    | false =>
      by_cases hlist : ∃ items, value = .arr items
      · obtain ⟨items, rfl⟩ := hlist
        rw [primitive_items htext htaxonomy hjson,
          if_neg (by simpa [Json.isEmptyValue] using hempty), unshowable_arr_iff]
        exact (joined_shows hdate hnumber field.kind items).congr .rfl
          (iff_of_false id fun h => Bool.false_ne_true h.isObject)
      · have hsingle : ∀ items, value ≠ .arr items := fun items heq => hlist ⟨items, heq⟩
        rw [primitive_single htext htaxonomy hjson hsingle, hempty, if_neg Bool.false_ne_true,
          unshowable_single_iff hsingle]
        exact scalar_shows hdate hnumber field.kind value

end FieldInfo

end ContentModel
