import ContentModel.Pattern.Format
import Mathlib.Data.List.TakeWhile

/-!
# Formats token by token

The respelling of a format looks for the text of named groups and references, wherever it stands.
Whoever writes a format reads it in tokens: a backslash belongs to the character after it, and what
stands in a class stands for itself.

* `Format.tokens` are the tokens of a format and `Token.respelled` is the respelling of one:
  only openings of named groups and references are respelled;
* `Format.Lookalike` says that the text of an opening or a reference stands in a class or begins
  with a character that a backslash escapes; `Format.lookalikes` counts these places;
* `Format.length_respelled` and `Format.length_respelledTokens` say by how much the two respellings
  make a format longer: by one character for every place where they change it;
* `Format.respell_eq_tokens_iff` is the main statement: they agree just when there is no lookalike.
-/

namespace ContentModel.Format

/-! ## Tokens -/

/-- A token of a format. -/
inductive Token
  /-- `(?<`, the opening of a named group. -/
  | opening
  /-- `\k<name>`, a reference to a named group. -/
  | reference (name : List Char)
  /-- A backslash and the character after it. -/
  | escape (c : Char)
  /-- Any other character. -/
  | plain (c : Char)

/-- The text of a token. -/
def Token.text : Token → List Char
  | .opening => ['(', '?', '<']
  | .reference name => '\\' :: 'k' :: '<' :: (name ++ ['>'])
  | .escape c => ['\\', c]
  | .plain c => [c]

/-- The respelling of a token: openings and references are changed. -/
def Token.respelled : Token → List Char
  | .opening => ['(', '?', 'P', '<']
  | .reference name => '(' :: '?' :: 'P' :: '=' :: (name ++ [')'])
  | .escape c => ['\\', c]
  | .plain c => [c]

/-- What follows the opening of a named group, which stands before the letter of a name. -/
def opening? : List Char → Option (List Char)
  | '(' :: '?' :: '<' :: c :: rest => if isNameLetter c then some (c :: rest) else none
  | _ => none

/-- The name of a reference, and what follows the reference. -/
def reference? : List Char → Option (List Char × List Char)
  | '\\' :: 'k' :: '<' :: rest => referenceName? rest
  | _ => none

/-- Whether a text begins like an opening or a reference. -/
def looksNamed (text : List Char) : Bool := (opening? text).isSome || (reference? text).isSome

/-- The opening or reference that a text begins with, and what follows it. -/
def named? (text : List Char) : Option (Token × List Char) :=
  match opening? text with
  | some after => some (.opening, after)
  | none => (reference? text).map fun found => (.reference found.1, found.2)

/-- Whether a class is open after a character that is not escaped. -/
def classAfter (inClass : Bool) (c : Char) : Bool :=
  if c = '[' then true else if c = ']' then false else inClass

theorem referenceName?_eq_some {text name after : List Char}
    (h : referenceName? text = some (name, after)) :
    text = name ++ '>' :: after ∧ ∀ c ∈ name, Text.isWord c = true := by
  unfold referenceName? at h
  dsimp only at h
  split at h
  · next rest hrest =>
    split at h
    · cases h
    · cases h
      exact ⟨by rw [← hrest, List.takeWhile_append_dropWhile],
        fun c hc => List.mem_takeWhile_imp hc⟩
  · cases h

theorem named?_cases {text after : List Char} {token : Token}
    (h : named? text = some (token, after)) :
    (∃ c rest, token = .opening ∧ after = c :: rest ∧ isNameLetter c = true ∧
        text = '(' :: '?' :: '<' :: after) ∨
      ∃ name, token = .reference name ∧ referenceName? (name ++ '>' :: after) = some (name, after) ∧
        (∀ c ∈ name, Text.isWord c = true) ∧
        text = '\\' :: 'k' :: '<' :: (name ++ '>' :: after) := by
  unfold named? at h
  split at h
  · next rest hopening =>
    cases h
    unfold opening? at hopening
    split at hopening
    · split at hopening
      · next hletter =>
        cases hopening
        exact Or.inl ⟨_, _, rfl, rfl, hletter, rfl⟩
      · cases hopening
    · cases hopening
  · obtain ⟨⟨name, rest⟩, hreference, heq⟩ := Option.map_eq_some_iff.1 h
    cases heq
    unfold reference? at hreference
    split at hreference
    · obtain ⟨rfl, hname⟩ := referenceName?_eq_some hreference
      exact Or.inr ⟨_, rfl, hreference, hname, rfl⟩
    · cases hreference

theorem named?_eq_none_iff {text : List Char} : named? text = none ↔ looksNamed text = false := by
  unfold named? looksNamed
  cases opening? text <;> simp

theorem named?_of_some {inClass : Bool} {text : List Char} {found : Token × List Char}
    (h : (if inClass then none else named? text) = some found) :
    inClass = false ∧ named? text = some found := by
  cases inClass with
  | true => cases h
  | false => exact ⟨rfl, h⟩

theorem length_of_named? {text after : List Char} {token : Token}
    (h : named? text = some (token, after)) : after.length < text.length := by
  rcases named?_cases h with ⟨c, rest, rfl, -, -, rfl⟩ | ⟨name, rfl, -, -, rfl⟩
  all_goals
    simp only [List.length_cons, List.length_append]
    omega

/-- The tokens of a format, read from inside or outside of a class. -/
def tokens (inClass : Bool) (text : List Char) : List Token :=
  match _h : if inClass then none else named? text with
  | some (token, after) => token :: tokens inClass after
  | none =>
    match text with
    | [] => []
    | c :: rest =>
      if c = '\\' then
        match rest with
        | [] => [.plain c]
        | d :: more => .escape d :: tokens inClass more
      else .plain c :: tokens (classAfter inClass c) rest
termination_by text.length
decreasing_by
  · cases inClass with
    | true => cases _h
    | false => exact length_of_named? _h
  all_goals
    simp only [List.length_cons]
    omega

/-! ## The respelling of a format -/

/-- The characters of a format with groups and then references respelled, wherever they stand. -/
def respelledChars (text : List Char) : List Char := namedReferences (namedGroups text)

theorem namedGroups_cons {c : Char} {rest : List Char} (h : opening? (c :: rest) = none) :
    namedGroups (c :: rest) = c :: namedGroups rest := by
  by_cases hopen : ∃ d more, c = '(' ∧ rest = '?' :: '<' :: d :: more
  · obtain ⟨d, more, rfl, rfl⟩ := hopen
    rw [namedGroups, if_neg (by simpa [opening?] using h)]
  · rw [namedGroups]
    exact fun d more hc hrest => hopen ⟨d, more, hc, hrest⟩

theorem namedGroups_of_ne {c : Char} (h : c ≠ '(') (rest : List Char) :
    namedGroups (c :: rest) = c :: namedGroups rest := by
  rw [namedGroups]
  exact fun _ _ hc => absurd hc h

/-- The respelling of groups keeps the first character. -/
theorem namedGroups_head (c : Char) (rest : List Char) :
    ∃ more, namedGroups (c :: rest) = c :: more := by
  cases hopening : opening? (c :: rest) with
  | none => exact ⟨_, namedGroups_cons hopening⟩
  | some after =>
    unfold opening? at hopening
    split at hopening
    · next d more heq =>
      cases heq
      rw [namedGroups]
      split <;> exact ⟨_, rfl⟩
    · cases hopening

theorem eq_cons_of_namedGroups {c : Char} {text more : List Char} (h : namedGroups text = c :: more)
    (hc : c ≠ '(') : ∃ rest, text = c :: rest ∧ more = namedGroups rest := by
  cases text with
  | nil => cases h
  | cons d rest =>
    obtain ⟨others, hothers⟩ := namedGroups_head d rest
    obtain rfl : d = c := (List.cons.inj (hothers.symm.trans h)).1
    rw [namedGroups_of_ne hc] at h
    exact ⟨rest, rfl, (List.cons.inj h).2.symm⟩

theorem isWord_ne {c d : Char} (h : Text.isWord c = true) (hd : Text.isWord d = false) : c ≠ d := by
  rintro rfl
  exact Bool.false_ne_true (hd.symm.trans h)

theorem namedGroups_of_isWord {c : Char} (h : Text.isWord c = true) (rest : List Char) :
    namedGroups (c :: rest) = c :: namedGroups rest :=
  namedGroups_of_ne (isWord_ne h (by decide)) rest

theorem takeWhile_namedGroups (text : List Char) :
    (namedGroups text).takeWhile Text.isWord = text.takeWhile Text.isWord := by
  induction text with
  | nil => rfl
  | cons c rest ih =>
    cases hword : Text.isWord c with
    | true => rw [namedGroups_of_isWord hword, List.takeWhile_cons, List.takeWhile_cons, ih]
    | false =>
      obtain ⟨more, hmore⟩ := namedGroups_head c rest
      simp [hmore, hword]

theorem dropWhile_namedGroups (text : List Char) :
    (namedGroups text).dropWhile Text.isWord = namedGroups (text.dropWhile Text.isWord) := by
  induction text with
  | nil => rfl
  | cons c rest ih =>
    cases hword : Text.isWord c with
    | true => rw [namedGroups_of_isWord hword]; simpa [hword] using ih
    | false =>
      obtain ⟨more, hmore⟩ := namedGroups_head c rest
      simp [hmore, hword]

/-- The respelling of groups leaves references alone. -/
theorem referenceName?_namedGroups (text : List Char) : referenceName? (namedGroups text) =
    (referenceName? text).map fun found => (found.1, namedGroups found.2) := by
  unfold referenceName?
  rw [takeWhile_namedGroups, dropWhile_namedGroups]
  cases text.dropWhile Text.isWord with
  | nil => rfl
  | cons c rest =>
    by_cases hc : c = '>'
    · subst hc
      rw [namedGroups_of_ne (by decide)]
      cases text.takeWhile Text.isWord <;> rfl
    · obtain ⟨more, hmore⟩ := namedGroups_head c rest
      simp [hmore, hc]

/-- The respelling of groups makes no references. -/
theorem reference?_namedGroups {c : Char} {rest : List Char} (h : reference? (c :: rest) = none) :
    reference? (c :: namedGroups rest) = none := by
  cases hreference : reference? (c :: namedGroups rest) with
  | none => rfl
  | some found =>
    unfold reference? at hreference
    split at hreference
    · next text heq =>
      obtain ⟨rfl, hrest⟩ := List.cons.inj heq
      obtain ⟨more, rfl, hmore⟩ := eq_cons_of_namedGroups hrest (by decide)
      obtain ⟨last, rfl, rfl⟩ := eq_cons_of_namedGroups hmore.symm (by decide)
      rw [reference?] at h
      rw [referenceName?_namedGroups, h] at hreference
      cases hreference
    · cases hreference

theorem namedReferencesFrom_append (front rest : List Char) :
    namedReferencesFrom front.length (front ++ rest) = namedReferencesFrom 0 rest := by
  induction front with
  | nil => rfl
  | cons c front ih => rw [List.length_cons, List.cons_append, namedReferencesFrom, ih]

theorem namedReferences_of_some {text name after : List Char}
    (h : referenceName? text = some (name, after)) :
    namedReferences ('\\' :: 'k' :: '<' :: text) =
      '(' :: '?' :: 'P' :: '=' :: (name ++ ')' :: namedReferences after) := by
  obtain ⟨rfl, -⟩ := referenceName?_eq_some h
  have hlength : ('k' :: '<' :: (name ++ '>' :: after)).length - after.length =
      ('k' :: '<' :: (name ++ ['>'])).length := by
    simp only [List.length_cons, List.length_append, List.length_nil]
    omega
  have hskip := namedReferencesFrom_append ('k' :: '<' :: (name ++ ['>'])) after
  simp only [List.cons_append, List.append_assoc, List.nil_append] at hskip
  rw [namedReferences, namedReferencesFrom, h]
  dsimp only
  rw [hlength, hskip]
  simp [namedReferences]

theorem namedReferences_cons {c : Char} {rest : List Char} (h : reference? (c :: rest) = none) :
    namedReferences (c :: rest) = c :: namedReferences rest := by
  unfold namedReferences
  by_cases hc : c = '\\'
  · subst hc
    by_cases hopen : ∃ text, rest = 'k' :: '<' :: text
    · obtain ⟨text, rfl⟩ := hopen
      rw [reference?] at h
      rw [namedReferencesFrom, h]
    · rw [namedReferencesFrom]
      exact fun text htext => hopen ⟨text, htext⟩
  · rw [namedReferencesFrom]
    exact hc

/-- An opening is respelled wherever it stands. -/
theorem respelledChars_opening {c : Char} (rest : List Char) (h : isNameLetter c = true) :
    respelledChars ('(' :: '?' :: '<' :: c :: rest) =
      '(' :: '?' :: 'P' :: '<' :: respelledChars (c :: rest) := by
  rw [respelledChars, namedGroups, if_pos h]
  simp only [namedReferences_cons (by rfl : reference? ('(' :: _) = none),
    namedReferences_cons (by rfl : reference? ('?' :: _) = none),
    namedReferences_cons (by rfl : reference? ('P' :: _) = none),
    namedReferences_cons (by rfl : reference? ('<' :: _) = none), respelledChars]

/-- A reference is respelled wherever it stands. -/
theorem respelledChars_reference {text name after : List Char}
    (h : referenceName? text = some (name, after)) :
    respelledChars ('\\' :: 'k' :: '<' :: text) =
      '(' :: '?' :: 'P' :: '=' :: (name ++ ')' :: respelledChars after) := by
  rw [respelledChars, namedGroups_of_ne (by decide), namedGroups_of_ne (by decide),
    namedGroups_of_ne (by decide), namedReferences_of_some, respelledChars]
  rw [referenceName?_namedGroups, h]
  rfl

/-- Nothing else is respelled. -/
theorem respelledChars_cons {c : Char} {rest : List Char} (h : looksNamed (c :: rest) = false) :
    respelledChars (c :: rest) = c :: respelledChars rest := by
  simp only [looksNamed, Bool.or_eq_false_iff, Option.isSome_eq_false_iff,
    Option.isNone_iff_eq_none]
    at h
  rw [respelledChars, namedGroups_cons h.1, namedReferences_cons, respelledChars]
  exact reference?_namedGroups h.2

/-! ## Lookalikes -/

/-- How a format has been read so far. -/
structure Reading where
  /-- A class is open. -/
  inClass : Bool
  /-- The last character was a backslash, which escapes the next one. -/
  escaped : Bool
  deriving DecidableEq

/-- Nothing has been read. -/
def Reading.start : Reading := ⟨false, false⟩

/-- The reading after one more character. -/
def Reading.next (reading : Reading) (c : Char) : Reading :=
  if reading.escaped then ⟨reading.inClass, false⟩
  else if c = '\\' then ⟨reading.inClass, true⟩
  else ⟨classAfter reading.inClass c, false⟩

/-- The text of an opening or a reference stands in a class, or begins with an escaped
character. -/
def Lookalike (text : List Char) : Prop :=
  ∃ front rest, text = front ++ rest ∧ looksNamed rest = true ∧
    front.foldl Reading.next .start ≠ .start

/-- The number of places where an opening or a reference seems to begin. -/
def namedPlaces : List Char → Nat
  | [] => 0
  | c :: rest => (if looksNamed (c :: rest) then 1 else 0) + namedPlaces rest

/-- The number of these places that are in a class or escaped. -/
def lookalikes (reading : Reading) : List Char → Nat
  | [] => 0
  | c :: rest =>
    (if looksNamed (c :: rest) ∧ reading ≠ .start then 1 else 0) + lookalikes (reading.next c) rest

theorem lookalikes_pos_iff (reading : Reading) (text : List Char) :
    0 < lookalikes reading text ↔ ∃ front rest, text = front ++ rest ∧ looksNamed rest = true ∧
      front.foldl Reading.next reading ≠ .start := by
  induction text generalizing reading with
  | nil =>
    refine iff_of_false (Nat.lt_irrefl 0) ?_
    rintro ⟨front, rest, hnil, hnamed, -⟩
    obtain ⟨rfl, rfl⟩ := List.append_eq_nil_iff.1 hnil.symm
    cases hnamed
  | cons c text ih =>
    have hfirst : (0 < if looksNamed (c :: text) ∧ reading ≠ .start then 1 else 0) ↔
        looksNamed (c :: text) = true ∧ reading ≠ .start := by
      split <;> simp_all
    rw [lookalikes, Nat.add_pos_iff_pos_or_pos, hfirst, ih]
    constructor
    · rintro (⟨hnamed, hreading⟩ | ⟨front, rest, rfl, hnamed, hreading⟩)
      · exact ⟨[], c :: text, rfl, hnamed, hreading⟩
      · exact ⟨c :: front, rest, rfl, hnamed, hreading⟩
    · rintro ⟨front, rest, heq, hnamed, hreading⟩
      rcases List.cons_eq_append_iff.1 heq with ⟨rfl, rfl⟩ | ⟨front, rfl, rfl⟩
      · exact Or.inl ⟨hnamed, hreading⟩
      · exact Or.inr ⟨front, rest, rfl, hnamed, hreading⟩

theorem lookalike_iff {text : List Char} : Lookalike text ↔ lookalikes .start text ≠ 0 := by
  rw [Lookalike, ← lookalikes_pos_iff, Nat.pos_iff_ne_zero]

theorem looksNamed_of_ne {c : Char} (hopening : c ≠ '(') (hreference : c ≠ '\\')
    (rest : List Char) : looksNamed (c :: rest) = false := by
  have hnot : opening? (c :: rest) = none ∧ reference? (c :: rest) = none := by
    constructor
    · unfold opening?
      split <;> simp_all
    · unfold reference?
      split <;> simp_all
  simp [looksNamed, hnot]

theorem lookalikes_cons {reading : Reading} {c : Char} {rest : List Char}
    (h : looksNamed (c :: rest) = false ∨ reading = .start) :
    lookalikes reading (c :: rest) = lookalikes (reading.next c) rest := by
  rw [lookalikes, if_neg, Nat.zero_add]
  rintro ⟨hnamed, hreading⟩
  rcases h with h | h
  · exact Bool.false_ne_true (h.symm.trans hnamed)
  · exact hreading h

/-- What does not begin a token is a lookalike wherever it seems to begin one. -/
theorem lookalikes_cons_of_not_start {reading : Reading} {c : Char} {rest : List Char}
    (h : reading ≠ .start ∨ looksNamed (c :: rest) = false) : lookalikes reading (c :: rest) =
      (if looksNamed (c :: rest) then 1 else 0) + lookalikes (reading.next c) rest := by
  rw [lookalikes]
  rcases h with h | h <;> simp [h]

theorem not_start_or_of_none {inClass : Bool} {text : List Char}
    (h : (if inClass then none else named? text) = none) :
    (⟨inClass, false⟩ : Reading) ≠ .start ∨ looksNamed text = false := by
  cases inClass with
  | true => exact Or.inl nofun
  | false => exact Or.inr (named?_eq_none_iff.1 h)

/-- What follows a backslash is no token, and the character after that is. -/
theorem lookalikes_escape {inClass : Bool} {d : Char} {more : List Char}
    (h : (if inClass then none else named? ('\\' :: d :: more)) = none) :
    lookalikes ⟨inClass, false⟩ ('\\' :: d :: more) =
      (if looksNamed ('\\' :: d :: more) then 1 else 0) +
        ((if looksNamed (d :: more) then 1 else 0) + lookalikes ⟨inClass, false⟩ more) := by
  have hescaped : (⟨inClass, true⟩ : Reading) ≠ .start := by simp [Reading.start]
  have hnext : lookalikes ⟨inClass, true⟩ (d :: more) =
      (if looksNamed (d :: more) then 1 else 0) + lookalikes ⟨inClass, false⟩ more :=
    lookalikes_cons_of_not_start (Or.inl hescaped)
  rw [lookalikes_cons_of_not_start (not_start_or_of_none h), ← hnext]
  rfl

theorem lookalikes_plain {inClass : Bool} {c : Char} {rest : List Char}
    (h : (if inClass then none else named? (c :: rest)) = none) (hescape : c ≠ '\\') :
    lookalikes ⟨inClass, false⟩ (c :: rest) =
      (if looksNamed (c :: rest) then 1 else 0) +
        lookalikes ⟨classAfter inClass c, false⟩ rest := by
  rw [lookalikes_cons_of_not_start (not_start_or_of_none h)]
  simp [Reading.next, hescape]

/-- The name of a reference holds no place where a group or reference seems to begin, and opens no
class. -/
theorem places_word_append {name : List Char} (h : ∀ c ∈ name, Text.isWord c = true)
    (rest : List Char) : namedPlaces (name ++ rest) = namedPlaces rest ∧
      lookalikes .start (name ++ rest) = lookalikes .start rest := by
  induction name with
  | nil => exact ⟨rfl, rfl⟩
  | cons c name ih =>
    rw [List.forall_mem_cons] at h
    obtain ⟨hplaces, hlookalikes⟩ := ih h.2
    have hplain := looksNamed_of_ne (isWord_ne h.1 (by decide)) (isWord_ne h.1 (by decide))
      (name ++ rest)
    have hnext : Reading.start.next c = .start := by
      have hescape : c ≠ '\\' := isWord_ne h.1 (by decide)
      have hclass : c ≠ '[' := isWord_ne h.1 (by decide)
      simp [Reading.next, Reading.start, classAfter, hescape, hclass]
    rw [List.cons_append, namedPlaces, hplain, lookalikes_cons (Or.inr rfl), hnext, hlookalikes,
      hplaces]
    simp

/-! ## Counting -/

section Named

variable {text after : List Char} {token : Token}

theorem text_append_of_named? (h : named? text = some (token, after)) :
    token.text ++ after = text := by
  rcases named?_cases h with ⟨c, rest, rfl, rfl, -, rfl⟩ | ⟨name, rfl, -, -, rfl⟩
  · rfl
  · simp [Token.text]

theorem length_respelled_of_named? (h : named? text = some (token, after)) :
    token.respelled.length = token.text.length + 1 := by
  rcases named?_cases h with ⟨c, rest, rfl, -, -, -⟩ | ⟨name, rfl, -, -, -⟩
  · rfl
  · simp [Token.text, Token.respelled]

theorem respelledChars_of_named? (h : named? text = some (token, after)) :
    respelledChars text = token.respelled ++ respelledChars after := by
  rcases named?_cases h with ⟨c, rest, rfl, rfl, hletter, rfl⟩ | ⟨name, rfl, hreference, -, rfl⟩
  · exact respelledChars_opening rest hletter
  · rw [respelledChars_reference hreference]
    simp [Token.respelled]

/-- An opening or a reference is one place, and no lookalike if it is a token. -/
theorem places_of_named? (h : named? text = some (token, after)) :
    namedPlaces text = namedPlaces after + 1 ∧
      lookalikes .start text = lookalikes .start after := by
  have hnamed : looksNamed text = true := by
    rw [← Bool.not_eq_false, ← named?_eq_none_iff, h]
    exact Option.some_ne_none _
  rcases named?_cases h with ⟨c, rest, rfl, rfl, -, rfl⟩ | ⟨name, rfl, -, hname, rfl⟩
  · have hmark (more : List Char) : looksNamed ('?' :: more) = false := rfl
    have hbracket (more : List Char) : looksNamed ('<' :: more) = false := rfl
    constructor
    · simp [namedPlaces, hnamed, hmark, hbracket, Nat.add_comm]
    · rw [lookalikes_cons (Or.inr rfl), lookalikes_cons (Or.inl (hmark _)),
        lookalikes_cons (Or.inl (hbracket _))]
      rfl
  · obtain ⟨hplaces, hlookalikes⟩ := places_word_append hname ('>' :: after)
    have hletter (more : List Char) : looksNamed ('k' :: more) = false := rfl
    have hbracket (more : List Char) : looksNamed ('<' :: more) = false := rfl
    have hclose (more : List Char) : looksNamed ('>' :: more) = false := rfl
    constructor
    · simp [namedPlaces, hnamed, hletter, hbracket, hclose, hplaces, Nat.add_comm]
    · rw [lookalikes_cons (Or.inr rfl), lookalikes_cons (Or.inl (hletter _)),
        lookalikes_cons (Or.inl (hbracket _))]
      refine hlookalikes.trans ?_
      rw [lookalikes_cons (Or.inl (hclose _))]
      rfl

end Named

/-- The respelling makes a format longer by one character for every place where a group or a
reference seems to begin. -/
theorem length_respelledChars (text : List Char) :
    (respelledChars text).length = text.length + namedPlaces text := by
  induction hn : text.length using Nat.strong_induction_on generalizing text with
  | _ n ih =>
    subst hn
    cases hnamed : named? text with
    | some found =>
      obtain ⟨token, after⟩ := found
      have hafter := ih _ (length_of_named? hnamed) after rfl
      have htext := congrArg List.length (text_append_of_named? hnamed)
      rw [List.length_append] at htext
      rw [respelledChars_of_named? hnamed, List.length_append, hafter,
        length_respelled_of_named? hnamed, (places_of_named? hnamed).1]
      omega
    | none =>
      cases text with
      | nil => rfl
      | cons c rest =>
        have hplain := named?_eq_none_iff.1 hnamed
        rw [respelledChars_cons hplain, List.length_cons, ih _ (Nat.lt_succ_self _) rest rfl,
          namedPlaces, hplain]
        simp only [List.length_cons, Bool.false_eq_true, if_false]
        omega

/-- The characters of a format with its tokens respelled. -/
def respelledTokens (inClass : Bool) (text : List Char) : List Char :=
  (tokens inClass text).flatMap Token.respelled

/-- The respelling of tokens makes a format longer by one character for every one of these places
that is neither in a class nor escaped. -/
theorem length_respelledTokens (inClass : Bool) (text : List Char) :
    (respelledTokens inClass text).length + lookalikes ⟨inClass, false⟩ text =
      text.length + namedPlaces text := by
  unfold respelledTokens
  fun_induction tokens inClass text with
  | case1 inClass text token after h ih =>
    obtain ⟨rfl, hnamed⟩ := named?_of_some h
    obtain ⟨hplaces, hlookalikes⟩ := places_of_named? hnamed
    have htext := congrArg List.length (text_append_of_named? hnamed)
    change _ + lookalikes .start after = _ at ih
    change _ + lookalikes .start text = _
    rw [List.length_append] at htext
    rw [List.flatMap_cons, List.length_append, length_respelled_of_named? hnamed, hplaces,
      hlookalikes]
    omega
  | case2 inClass h => rfl
  | case3 inClass h => cases inClass <;> rfl
  | case4 inClass d more h ih =>
    rw [lookalikes_escape h, namedPlaces, namedPlaces]
    simp only [List.flatMap_cons, Token.respelled, List.length_append, List.length_cons,
      List.length_nil]
    omega
  | case5 inClass c rest h hescape ih =>
    rw [lookalikes_plain h hescape, namedPlaces]
    simp only [List.flatMap_cons, Token.respelled, List.length_append, List.length_cons,
      List.length_nil]
    omega

/-- Without lookalikes, tokens are respelled wherever they stand, and nothing else is. -/
theorem respelledChars_eq_respelledTokens (inClass : Bool) (text : List Char)
    (h : lookalikes ⟨inClass, false⟩ text = 0) :
    respelledChars text = respelledTokens inClass text := by
  unfold respelledTokens
  fun_induction tokens inClass text with
  | case1 inClass text token after hsome ih =>
    obtain ⟨rfl, hnamed⟩ := named?_of_some hsome
    change lookalikes .start text = 0 at h
    rw [(places_of_named? hnamed).2] at h
    rw [respelledChars_of_named? hnamed, List.flatMap_cons, ih h]
  | case2 inClass hnone => rfl
  | case3 inClass hnone => rfl
  | case4 inClass d more hnone ih =>
    rw [lookalikes_escape hnone] at h
    simp only [Nat.add_eq_zero_iff, ite_eq_right_iff, Nat.one_ne_zero, imp_false,
      Bool.not_eq_true] at h
    rw [respelledChars_cons h.1, respelledChars_cons h.2.1, ih h.2.2]
    rfl
  | case5 inClass c rest hnone hescape ih =>
    rw [lookalikes_plain hnone hescape] at h
    simp only [Nat.add_eq_zero_iff, ite_eq_right_iff, Nat.one_ne_zero, imp_false,
      Bool.not_eq_true] at h
    rw [respelledChars_cons h.1, ih h.2]
    rfl

/-- The texts of the tokens of a format make up the format. -/
theorem flatMap_text_tokens (inClass : Bool) (text : List Char) :
    (tokens inClass text).flatMap Token.text = text := by
  fun_induction tokens inClass text with
  | case1 inClass text token after hsome ih =>
    rw [List.flatMap_cons, ih, text_append_of_named? (named?_of_some hsome).2]
  | case2 inClass hnone => rfl
  | case3 inClass hnone => rfl
  | case4 inClass d more hnone ih => rw [List.flatMap_cons, ih]; rfl
  | case5 inClass c rest hnone hescape ih => rw [List.flatMap_cons, ih]; rfl

/-- **Respelling tokens only.** The tokens of a format make it up, and its respelling is that of its
tokens, openings of named groups and references respelled and all others left alone, just when no
text of an opening or a reference stands in a class or begins with an escaped character. -/
theorem respell_eq_tokens_iff (format : String) :
    (tokens false format.toList).flatMap Token.text = format.toList ∧
      ((respell format).toList = (tokens false format.toList).flatMap Token.respelled ↔
        ¬ Lookalike format.toList) := by
  refine ⟨flatMap_text_tokens false format.toList, ?_⟩
  have hchars : (respell format).toList = respelledChars format.toList := String.toList_ofList
  rw [hchars, lookalike_iff, not_not]
  constructor
  · intro heq
    have hlength := length_respelledTokens false format.toList
    rw [respelledTokens, ← heq, length_respelledChars] at hlength
    exact Nat.add_eq_left.1 hlength
  · exact respelledChars_eq_respelledTokens false format.toList

/-- An escaped parenthesis, a class and an escaped backslash. -/
example : respell "\\(?<a" = "\\(?P<a" ∧ respell "[(?<a]" = "[(?P<a]" ∧
    respell "\\\\k<a>" = "\\(?P=a)" := by
  decide

end ContentModel.Format
