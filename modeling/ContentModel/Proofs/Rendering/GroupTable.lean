import Mathlib.Data.List.Forall2
import ContentModel.Proofs.Rendering.Instances

/-!
# Tables of groups

* `Rendering.isPicture` says which fields of a group are images that have an address,
  `Rendering.isShown` which fields the table of the group shows;
* `Rendering.ShowsField` says that a line of the table shows a field, its label beside its
  rendering;
* `Rendering.Adds` is what one field adds to the table: nothing, one image or one row;
* `Rendering.tableParts_shows` follows the fields of the group;
* `Rendering.lines_groupTable` is the main statement, on the lines of the table.
-/

namespace ContentModel.Rendering

open Text Markdown

/-! ## Fields of a group -/

/-- Whether the value of a field is an image that has an address. -/
def isPicture (members : Members) (field : Field) : Bool :=
  let value := valueOf members field.uid
  field.kind = some .file && hasUrl value && isImage value

/-- Whether there is something in the rendering of the value of a field. -/
def isFilled (options : RenderOptions) (members : Members) (field : Field) : Bool :=
  match primitive options field.toFieldInfo (valueOf members field.uid) with
  | .ok rendered => rendered.isTruthy
  | .error _ => false

/-- Whether the table of a group shows a field. -/
def isShown (options : RenderOptions) (members : Members) (field : Field) : Bool :=
  !hidden options field.uid && (isFilled options members field || isPicture members field)

/-- The image that a field gives, named for the field. -/
def pictureText (members : Members) (field : Field) : String :=
  "![" ++ (field.label ++
    ("](" ++ ((valueOf (valueOf members field.uid).members "url").display ++ ")")))

/-- A line shows a field in two cells: the label, in bold, and the rendering, both escaped. -/
def ShowsField (options : RenderOptions) (members : Members) (field : Field) (line : String) :
    Prop :=
  ∃ rendering,
    primitive options field.toFieldInfo (valueOf members field.uid) = .ok (.str rendering) ∧
      rendering ≠ "" ∧ '\n' ∉ line.toList ∧
      ShowsCells ["**" ++ (escapeCell field.label ++ "**"), escapeCell rendering] line

variable {options : RenderOptions} {members : Members} {fields : List Field}

theorem isShown_of_hidden {field : Field} (h : hidden options field.uid = true) :
    isShown options members field = false := by
  simp [isShown, h]

theorem isPicture_of_isEmptyValue {field : Field}
    (h : (valueOf members field.uid).isEmptyValue = true) : isPicture members field = false := by
  have hmembers : (valueOf members field.uid).members = [] := by
    cases hvalue : valueOf members field.uid with
    | obj => rw [hvalue] at h; cases h
    | _ => rfl
  have hurl : hasUrl (valueOf members field.uid) = false := by
    rw [hasUrl, hmembers]
    rfl
  simp [isPicture, hurl]

theorem isShown_of_skipped {field : Field}
    (h : skipped options (valueOf members field.uid) = true) :
    isShown options members field = false := by
  have hempty := (Bool.and_eq_true_iff.1 h).2
  simp [isShown, isFilled, primitive_of_isEmptyValue hempty, isPicture_of_isEmptyValue hempty,
    Json.isTruthy]

/-! ## Rows -/

theorem escapeCell_bold (label : String) :
    "**" ++ (escapeCell label ++ "**") = escapeCell ("**" ++ (label ++ "**")) := by
  simp [escapeCell, escapeCellChars, replaceChar, String.ext_iff]

theorem fieldRow_eq (label rendering : String) : fieldRow label (escapeCell rendering) =
    tableRow [escapeCell ("**" ++ (label ++ "**")), escapeCell rendering] := by
  rw [← escapeCell_bold]
  simp [fieldRow, tableRow, joinWith_cons_cons, String.ext_iff]

theorem showsField_fieldRow {field : Field} {rendering : String}
    (hrendering : primitive options field.toFieldInfo (valueOf members field.uid) =
      .ok (.str rendering)) (hfilled : rendering ≠ "") :
    ShowsField options members field (fieldRow field.label (escapeCell rendering)) := by
  refine ⟨rendering, hrendering, hfilled, ?_, ?_⟩
  · rw [fieldRow_eq, newline_notMem_tableRow_iff]
    simp [newline_notMem_escapeCell]
  · rw [fieldRow_eq, escapeCell_bold]
    refine showsCells_tableRow (List.cons_ne_nil _ _) ?_
    simp [isSealed_escapeCell]

/-! ## The parts of a table -/

/-- What a field adds to the parts of a table that the fields behind it make: nothing, one image or
one row. -/
inductive Adds (options : RenderOptions) (members : Members) (field : Field)
    (others : TableParts) : TableParts → Prop
  | nothing (hides : isShown options members field = false)
      (empty : hidden options field.uid = false → ∃ rendered,
        primitive options field.toFieldInfo (valueOf members field.uid) = .ok rendered ∧
          rendered.isTruthy = false) :
      Adds options members field others others
  | image (shown : isShown options members field = true)
      (picture : isPicture members field = true) :
      Adds options members field others
        { others with images := pictureText members field :: others.images }
  | row {line : String} (shown : isShown options members field = true)
      (plain : isPicture members field = false) (shows : ShowsField options members field line) :
      Adds options members field others { others with rows := line :: others.rows }

theorem adds_of_tableParts {field : Field} {parts : TableParts}
    (h : tableParts options members (field :: fields) = .ok parts) :
    ∃ others, tableParts options members fields = .ok others ∧
      Adds options members field others parts := by
  simp only [tableParts] at h
  split at h
  · next hleft =>
    refine ⟨parts, h, .nothing ?_ fun hvisible => ?_⟩
    · rcases Bool.or_eq_true_iff.1 hleft with hhidden | hskipped
      · exact isShown_of_hidden hhidden
      · exact isShown_of_skipped hskipped
    · rw [hvisible, Bool.false_or] at hleft
      exact ⟨.str "", primitive_of_isEmptyValue (Bool.and_eq_true_iff.1 hleft).2, rfl⟩
  · next hvisible =>
    rw [Bool.not_eq_true, Bool.or_eq_false_iff] at hvisible
    split at h
    · next hpicture =>
      obtain ⟨others, hothers, h⟩ := bind_eq_ok h
      cases h
      replace hpicture : isPicture members field = true := hpicture
      exact ⟨others, hothers, .image (by simp [isShown, hvisible.1, hpicture]) hpicture⟩
    · next hplain =>
      obtain ⟨rendered, hrendered, h⟩ := bind_eq_ok h
      replace hplain : isPicture members field = false := Bool.not_eq_true _ ▸ hplain
      have hshown : isShown options members field = rendered.isTruthy := by
        simp [isShown, isFilled, hrendered, hvisible.1, hplain]
      split at h
      · next htruthy =>
        obtain ⟨cell, hcell, h⟩ := bind_eq_ok h
        obtain ⟨others, hothers, h⟩ := bind_eq_ok h
        cases h
        obtain ⟨rendering, rfl, rfl⟩ := cellText_eq_ok hcell
        have hfilled : rendering ≠ "" := by
          rintro rfl
          cases htruthy
        exact ⟨others, hothers,
          .row (hshown.trans htruthy) hplain (showsField_fieldRow hrendered hfilled)⟩
      · next hempty =>
        rw [Bool.not_eq_true] at hempty
        exact ⟨parts, h,
          .nothing (hshown.trans hempty) fun _ => ⟨rendered, hrendered, hempty⟩⟩

/-- Every field that is shown gives one image or one row, in the order of the fields, and every
other one is hidden or has an empty rendering. -/
theorem tableParts_shows {parts : TableParts}
    (h : tableParts options members fields = .ok parts) :
    parts.images = ((fields.filter (isShown options members)).filter (isPicture members)).map
        (pictureText members) ∧
      List.Forall₂ (ShowsField options members)
        ((fields.filter (isShown options members)).filter fun field => !isPicture members field)
        parts.rows ∧
      ∀ field ∈ fields, hidden options field.uid = false → isShown options members field = false →
        ∃ rendered, primitive options field.toFieldInfo (valueOf members field.uid) =
          .ok rendered ∧ rendered.isTruthy = false := by
  induction fields generalizing parts with
  | nil =>
    cases h
    exact ⟨rfl, .nil, nofun⟩
  | cons field rest ih =>
    obtain ⟨others, hothers, hadds⟩ := adds_of_tableParts h
    obtain ⟨himages, hrows, hempty⟩ := ih hothers
    cases hadds with
    | nothing hides empty =>
      rw [List.filter_cons_of_neg (by simp [hides])]
      exact ⟨himages, hrows, List.forall_mem_cons.2 ⟨fun hvisible _ => empty hvisible, hempty⟩⟩
    | image shown picture =>
      rw [List.filter_cons_of_pos shown, List.filter_cons_of_pos picture,
        List.filter_cons_of_neg (by simp [picture])]
      exact ⟨congrArg (pictureText members field :: ·) himages, hrows,
        List.forall_mem_cons.2 ⟨fun _ hnot => (Bool.false_ne_true (hnot.symm.trans shown)).elim,
          hempty⟩⟩
    | row shown plain shows =>
      rw [List.filter_cons_of_pos shown, List.filter_cons_of_neg (by simp [plain]),
        List.filter_cons_of_pos (by simp [plain])]
      exact ⟨himages, .cons shows hrows,
        List.forall_mem_cons.2 ⟨fun _ hnot => (Bool.false_ne_true (hnot.symm.trans shown)).elim,
          hempty⟩⟩

/-! ## The table -/

/-- The lines of the images above a table, with an empty line below them. -/
def pictureLines (images : List String) : List String :=
  if images = [] then [] else lines (joinWith "\n\n" images) ++ [""]

/-- The lines of a table with these rows: a head and a separator above them, if there are any. -/
def rowLines (rows : List String) : List String :=
  if rows = [] then [] else "| Field | Value |" :: "|-------|-------|" :: rows

theorem TableParts.lines_text {parts : TableParts} (hne : parts.images ≠ [] ∨ parts.rows ≠ [])
    (hrows : ∀ row ∈ parts.rows, '\n' ∉ row.toList) :
    lines parts.text = pictureLines parts.images ++ rowLines parts.rows := by
  rw [TableParts.text]
  simp only [List.isEmpty_iff]
  rw [lines_joinWith, List.flatMap_append]
  · congr 1
    · rw [pictureLines]
      split
      · rfl
      · rw [List.flatMap_cons, List.flatMap_singleton]
        rfl
    · rw [rowLines]
      split
      · rfl
      · rw [List.flatMap_singleton, lines_joinWith (List.cons_ne_nil _ _), flatMap_lines_of_notMem]
        exact List.forall_mem_cons.2 ⟨by decide, List.forall_mem_cons.2 ⟨by decide, hrows⟩⟩
  · rcases hne with himages | hrows
    · simp [himages]
    · simp [hrows]

/-- **Tables of groups list every visible value once.** Where the table of a group can be written,
it shows the visible fields that have a rendering or are images with an address; every other
visible field has an empty rendering. The images stand above the table, one for each such field, in
the order of the fields, and none of these has a row. Every other field that is shown has one row,
in the order of the fields: a single line with two cells, the label in bold and the rendering, both
escaped. The rows stand below a head and a separator, which are left out when there are no rows. -/
theorem lines_groupTable {text : String} (h : groupTable options members fields = .ok text) :
    let shown := fields.filter (isShown options members)
    let images := (shown.filter (isPicture members)).map (pictureText members)
    (∀ field ∈ fields, hidden options field.uid = false → field ∉ shown →
      ∃ rendered, primitive options field.toFieldInfo (valueOf members field.uid) = .ok rendered ∧
        rendered.isTruthy = false) ∧
    ∃ rows, List.Forall₂ (ShowsField options members)
        (shown.filter fun field => !isPicture members field) rows ∧
      (shown = [] → text = "") ∧
      (shown ≠ [] → lines text = pictureLines images ++ rowLines rows) := by
  intro shown images
  obtain ⟨parts, hparts, h⟩ := bind_eq_ok h
  cases h
  obtain ⟨himages, hrows, hothers⟩ := tableParts_shows hparts
  refine ⟨fun field hfield hvisible hnot => hothers field hfield hvisible ?_, parts.rows, hrows,
    fun hnone => ?_, fun hsome => ?_⟩
  · simpa [shown, hfield] using hnot
  · have hnoImages : parts.images = [] := by
      rw [himages, show fields.filter (isShown options members) = [] from hnone]
      rfl
    have hnoRows : parts.rows = [] := by
      rw [show fields.filter (isShown options members) = [] from hnone] at hrows
      exact List.forall₂_nil_left_iff.1 hrows
    rw [TableParts.text, hnoImages, hnoRows]
    rfl
  · rw [← show parts.images = images from himages]
    refine TableParts.lines_text ?_ (forall_mem_right hrows fun _ _ ⟨_, _, _, hfree, _⟩ => hfree)
    obtain ⟨field, hfield⟩ := List.exists_mem_of_ne_nil _ hsome
    by_cases hpicture : isPicture members field = true
    · refine Or.inl (List.ne_nil_of_mem (a := pictureText members field) ?_)
      rw [himages]
      exact List.mem_map_of_mem (List.mem_filter.2 ⟨hfield, hpicture⟩)
    · have hplain : field ∈ shown.filter fun field => !isPicture members field :=
        List.mem_filter.2 ⟨hfield, by simpa using hpicture⟩
      refine Or.inr fun hnone => ?_
      rw [hnone, List.forall₂_nil_right_iff] at hrows
      rw [show shown.filter (fun field => !isPicture members field) = [] from hrows] at hplain
      cases hplain

/-- A group with an image, a text with a pipe and a line feed, a blank text and a system field. -/
theorem lines_groupTable_image :
    let logo : Field :=
      ⟨{ uid := "logo", dataType := some "file", displayName := some "Our logo" }, [], []⟩
    let name : Field :=
      ⟨{ uid := "name", dataType := some "text", displayName := some "x|y" }, [], []⟩
    let blank : Field := ⟨{ uid := "blank", dataType := some "text" }, [], []⟩
    let system : Field := ⟨{ uid := "locale", dataType := some "text" }, [], []⟩
    let fields : List Field := [name, system, logo, blank]
    let members : Members := [("name", .str "a|b\nc"), ("blank", .str " "), ("locale", .str "en"),
      ("logo", .obj [("url", .str "/l.png"), ("content_type", .str "image/png")])]
    let text := "![Our logo](/l.png)\n\n| Field | Value |\n|-------|-------|\n" ++
      "| **x\\|y** | a\\|b c |"
    groupTable {} members fields = .ok text ∧
      ∃ row, lines text =
        ["![Our logo](/l.png)", "", "| Field | Value |", "|-------|-------|", row] ∧
        ShowsCells ["**x\\|y**", "a\\|b c"] row := by
  intro logo name blank system fields members text
  have hok : groupTable {} members fields = .ok text := by decide +kernel
  have hshown : fields.filter (isShown {} members) = [name, logo] := by
    have hname : isShown {} members name = true := by decide +kernel
    have hsystem : isShown {} members system = false := by decide +kernel
    have hlogo : isShown {} members logo = true := by decide +kernel
    have hblank : isShown {} members blank = false := by decide +kernel
    simp only [fields, List.filter_cons, hname, hsystem, hlogo, hblank]
    rfl
  obtain ⟨-, rows, hrows, -, hlines⟩ := lines_groupTable hok
  rw [hshown] at hrows hlines
  obtain ⟨row, rest, ⟨rendering, hrendering, -, -, hcells⟩, hrest, rfl⟩ :=
    List.forall₂_cons_left_iff.1 hrows
  obtain rfl := List.forall₂_nil_left_iff.1 hrest
  have hvalue : primitive {} name.toFieldInfo (valueOf members name.uid) =
      .ok (.str "a|b\nc") := rfl
  obtain rfl : "a|b\nc" = rendering := Json.str.inj (Except.ok.inj (hvalue.symm.trans hrendering))
  have himages : pictureLines (([name, logo].filter (isPicture members)).map
      (pictureText members)) = ["![Our logo](/l.png)", ""] := by decide +kernel
  have htexts : ["**" ++ (escapeCell name.label ++ "**"), escapeCell "a|b\nc"] =
      ["**x\\|y**", "a\\|b c"] := by decide +kernel
  rw [himages] at hlines
  rw [htexts] at hcells
  exact ⟨hok, row, hlines (List.cons_ne_nil _ _), hcells⟩

end ContentModel.Rendering
