import ContentModel.Issue.Location
import ContentModel.Proofs.Text.Digits

/-!
# Paths of locations

When a path tells its location.

* `Step.IsPlain` says that a step is an index, or a name in which no delimiter stands;
* `Step.token` is a step with its delimiter in front; `Location.path` is the tokens of the steps one
  after another, but for the delimiter of a name at the very front (`Location.withDelimiter_path`);
* `Location.flatMap_token_inj` cuts the text at its delimiters to tell the tokens apart;
* `Location.path_identifies` is the main statement.
-/

namespace ContentModel

/-! ## Delimiters -/

/-- The characters at which a step begins. -/
def isPathDelimiter (c : Char) : Bool := c == '.' || c == '['

theorem isPathDelimiter_eq_false_iff {c : Char} :
    isPathDelimiter c = false ↔ c ≠ '.' ∧ c ≠ '[' := by
  simp [isPathDelimiter]

/-- A text goes on with a delimiter, or not at all. -/
def BeginsStep (rest : List Char) : Prop := ∀ c, rest.head? = some c → isPathDelimiter c = true

theorem takeWhile_append_of_beginsStep {run rest : List Char}
    (hrun : ∀ c ∈ run, isPathDelimiter c = false) (hrest : BeginsStep rest) :
    ((run ++ rest).takeWhile fun c => !isPathDelimiter c) = run := by
  have hstop : (rest.takeWhile fun c => !isPathDelimiter c) = [] := by
    cases rest with
    | nil => rfl
    | cons c more => exact List.takeWhile_cons_of_neg (by simp [hrest c rfl])
  rw [List.takeWhile_append_of_pos (by simpa using hrun), hstop, List.append_nil]

/-- The next delimiter shows where a run without delimiters ends. -/
theorem append_inj_of_beginsStep {run other rest more : List Char}
    (hrun : ∀ c ∈ run, isPathDelimiter c = false) (hother : ∀ c ∈ other, isPathDelimiter c = false)
    (hrest : BeginsStep rest) (hmore : BeginsStep more) (h : run ++ rest = other ++ more) :
    run = other ∧ rest = more := by
  have hfront : run = other := by
    rw [← takeWhile_append_of_beginsStep hrun hrest, h,
      takeWhile_append_of_beginsStep hother hmore]
  subst hfront
  exact ⟨rfl, List.append_cancel_left h⟩

/-! ## Steps -/

namespace Step

/-- A step that can be told in a path: an index, or a name that is not empty and holds neither a dot
nor an opening bracket. A truth value is no index, and a reading stands in no issue of an entry. -/
inductive IsPlain : Step → Prop
  | index (n : Int) : IsPlain (.index n)
  | key {name : String} (filled : name ≠ "") (no_dot : '.' ∉ name.toList)
      (no_bracket : '[' ∉ name.toList) : IsPlain (.key name)

/-- The delimiter of a step. -/
def delimiter : Step → Char
  | .key _ => '.'
  | .index _ => '['
  | .flag _ => '['
  | .reading _ => '.'

/-- A step without its delimiter. -/
def body : Step → List Char
  | .key name => name.toList
  | .index n => Digits.ofInt n ++ [']']
  | .flag b => (if b then "True]" else "False]").toList
  | .reading name => name.toList

/-- A step as it stands behind others. -/
def token (step : Step) : List Char := step.delimiter :: step.body

theorem toList_written {before : String} (h : before ≠ "") (step : Step) :
    (step.written before).toList = before.toList ++ step.token := by
  cases step with
  | key name => simp [written, token, delimiter, body, h]
  | index n => simp [written, token, delimiter, body, Digits.intText]
  | flag b => cases b <;> simp [written, token, delimiter, body]
  | reading name => simp [written, token, delimiter, body, h]

theorem isPathDelimiter_delimiter (step : Step) : isPathDelimiter step.delimiter = true := by
  cases step <;> rfl

variable {step other : Step}

theorem IsPlain.undelimited_body (h : step.IsPlain) :
    ∀ c ∈ step.body, isPathDelimiter c = false := by
  cases h with
  | index n =>
    intro c hc
    rcases List.mem_append.1 hc with hdigit | hclose
    · rcases Digits.mem_ofInt hdigit with rfl | hdigit
      · rfl
      · refine isPathDelimiter_eq_false_iff.2 ⟨?_, ?_⟩ <;> rintro rfl <;> cases hdigit
    · rw [List.mem_singleton.1 hclose]
      rfl
  | key _ no_dot no_bracket =>
    intro c hc
    exact isPathDelimiter_eq_false_iff.2
      ⟨fun h => no_dot (h ▸ hc), fun h => no_bracket (h ▸ hc)⟩

/-- The token of a plain step determines the step. -/
theorem IsPlain.token_inj (h : step.IsPlain) (hother : other.IsPlain)
    (htoken : step.token = other.token) : step = other := by
  obtain ⟨hdelimiter, hbody⟩ := List.cons.inj htoken
  cases h with
  | index n =>
    cases hother with
    | index m => rw [Digits.ofInt_injective (List.append_cancel_right hbody)]
    | key => exact absurd hdelimiter (show '[' ≠ '.' by decide)
  | key =>
    cases hother with
    | index m => exact absurd hdelimiter (show '.' ≠ '[' by decide)
    | key => rw [String.toList_inj.1 hbody]

end Step

/-! ## Locations -/

namespace Location

/-- All steps of a location are plain. -/
def IsPlain (location : Location) : Prop := ∀ step ∈ location, step.IsPlain

theorem beginsStep_flatMap_token (location : Location) :
    BeginsStep (location.flatMap Step.token) := by
  cases location with
  | nil => exact nofun
  | cons step rest =>
    intro c hc
    rw [← Option.some.inj hc]
    exact step.isPathDelimiter_delimiter

/-- The tokens of plain steps can be told apart when they stand one after another. -/
theorem flatMap_token_inj {first second : Location} (hfirst : first.IsPlain)
    (hsecond : second.IsPlain) (h : first.flatMap Step.token = second.flatMap Step.token) :
    first = second := by
  induction first generalizing second with
  | nil =>
    cases second with
    | nil => rfl
    | cons step rest => cases h
  | cons step rest ih =>
    cases second with
    | nil => cases h
    | cons other more =>
      obtain ⟨hstep, hrest⟩ := List.forall_mem_cons.1 hfirst
      obtain ⟨hother, hmore⟩ := List.forall_mem_cons.1 hsecond
      obtain ⟨hdelimiter, htail⟩ := List.cons.inj h
      obtain ⟨hbody, htokens⟩ := append_inj_of_beginsStep hstep.undelimited_body
        hother.undelimited_body (beginsStep_flatMap_token rest) (beginsStep_flatMap_token more)
        htail
      rw [hstep.token_inj hother (congrArg₂ List.cons hdelimiter hbody), ih hrest hmore htokens]

theorem toList_foldl_written (location : Location) {before : String} (h : before ≠ "") :
    (location.foldl Step.written before).toList =
      before.toList ++ location.flatMap Step.token := by
  induction location generalizing before with
  | nil => simp
  | cons step rest ih =>
    have hwritten := step.toList_written h
    have hne : step.written before ≠ "" := fun hempty => by simp [hempty, Step.token] at hwritten
    rw [List.foldl_cons, ih hne, hwritten, List.flatMap_cons, List.append_assoc]

/-- A path with the delimiter of its first step, which a name at the front is written without. -/
def withDelimiter : List Char → List Char
  | [] => []
  | c :: rest => if c = '[' then c :: rest else '.' :: c :: rest

theorem withDelimiter_path {location : Location} (h : location.IsPlain) :
    withDelimiter location.path.toList = location.flatMap Step.token := by
  cases location with
  | nil => rfl
  | cons step rest =>
    rw [path, List.foldl_cons]
    cases h step List.mem_cons_self with
    | index n =>
      have hwritten : Step.written "" (.index n) ≠ "" := by simp [Step.written]
      rw [toList_foldl_written rest hwritten]
      simp [Step.written, Step.token, Step.delimiter, Step.body, Digits.intText, withDelimiter]
    | @key name filled _ no_bracket =>
      have hwritten : Step.written "" (.key name) = name := rfl
      obtain ⟨c, more, hname⟩ := List.exists_cons_of_ne_nil (mt String.toList_eq_nil_iff.1 filled)
      have hc : c ≠ '[' := fun hc => no_bracket (by rw [hname, hc]; exact List.mem_cons_self)
      rw [hwritten, toList_foldl_written rest filled, hname, List.cons_append, withDelimiter,
        if_neg hc]
      simp [Step.token, Step.delimiter, Step.body, hname]

theorem path_inj {first second : Location} (hfirst : first.IsPlain) (hsecond : second.IsPlain)
    (h : first.path = second.path) : first = second := by
  refine flatMap_token_inj hfirst hsecond ?_
  rw [← withDelimiter_path hfirst, h, withDelimiter_path hsecond]

/-- **Paths.** Locations of indexes and plain names are told by their paths, and only the path of
the value itself is empty. -/
theorem path_identifies {first second : Location} (hfirst : first.IsPlain)
    (hsecond : second.IsPlain) :
    (first.path = second.path ↔ first = second) ∧ (first.path = "" ↔ first = []) :=
  ⟨⟨path_inj hfirst hsecond, congrArg path⟩,
    ⟨fun h => path_inj hfirst nofun (h.trans path_nil.symm), fun h => by rw [h, path_nil]⟩⟩

/-- A name that ends in a closing bracket is told from an index. -/
theorem path_identifies_bracket :
    let first : Location := [.key "rows", .index (-1), .key "1]"]
    let second : Location := [.key "rows", .index (-1), .index 1]
    (first.IsPlain ∧ second.IsPlain) ∧ first.path ≠ second.path ∧ first.path ≠ "" := by
  intro first second
  have hrows : Step.IsPlain (.key "rows") := .key (by decide) (by decide) (by decide)
  have hbracket : Step.IsPlain (.key "1]") := .key (by decide) (by decide) (by decide)
  have hfirst : first.IsPlain := by simp [first, IsPlain, hrows, hbracket, Step.IsPlain.index]
  have hsecond : second.IsPlain := by simp [second, IsPlain, hrows, Step.IsPlain.index]
  have htold := path_identifies hfirst hsecond
  exact ⟨⟨hfirst, hsecond⟩, mt htold.1.1 (by decide), mt htold.2.1 (by decide)⟩

end Location

end ContentModel
