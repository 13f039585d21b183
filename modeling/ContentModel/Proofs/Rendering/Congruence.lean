import ContentModel.Proofs.Rendering.Values
import ContentModel.Proofs.Schema.Variant
import ContentModel.Rendering.Entry

/-!
# What renderings depend on

Two objects whose fields are shown alike are rendered the same.

* `Rendering.ShownAlike` relates two values of a field that are shown alike;
* `Rendering.groupTable_congr`, `Rendering.instanceCells_congr` and
  `Rendering.blockFieldLines_congr` compare the places where fields are shown one by one;
* `Field.groupLines_congr` does so for groups with fields of their own.
-/

namespace ContentModel

open Rendering

namespace Rendering

variable {options : RenderOptions} {members others : Members} {fields : List Field}

/-- Two values of a field that are shown alike. -/
structure ShownAlike (options : RenderOptions) (field : Field) (value other : Json) : Prop where
  empty : other.isEmptyValue = value.isEmptyValue
  primitive : primitive options field.toFieldInfo other = primitive options field.toFieldInfo value
  file : field.kind = some .file → ∀ key, other.get? key = value.get? key

namespace ShownAlike

variable {field : Field} {value other : Json}

theorem refl (options : RenderOptions) (field : Field) (value : Json) :
    ShownAlike options field value value :=
  ⟨rfl, rfl, fun _ _ => rfl⟩

theorem skipped_eq (h : ShownAlike options field value other) :
    skipped options other = skipped options value := by
  rw [skipped, skipped, h.empty]

/-- Whether a value is a file with an address. -/
theorem hasUrl_eq (h : ShownAlike options field value other) :
    (decide (field.kind = some .file) && hasUrl other) =
      (decide (field.kind = some .file) && hasUrl value) := by
  by_cases hfile : field.kind = some .file
  · rw [hasUrl_congr (h.file hfile "url")]
  · simp [hfile]

theorem isImage_eq (h : ShownAlike options field value other) :
    (decide (field.kind = some .file) && hasUrl other && isImage other) =
      (decide (field.kind = some .file) && hasUrl value && isImage value) := by
  by_cases hfile : field.kind = some .file
  · rw [hasUrl_congr (h.file hfile "url"), isImage_congr (h.file hfile "content_type")]
  · simp [hfile]

end ShownAlike

theorem tableParts_congr (h : ∀ field ∈ fields, hidden options field.uid = false →
      ShownAlike options field (valueOf members field.uid) (valueOf others field.uid)) :
    tableParts options others fields = tableParts options members fields := by
  induction fields with
  | nil => rfl
  | cons field rest ih =>
    have hrest := ih fun child hchild => h child (List.mem_cons_of_mem _ hchild)
    rw [tableParts, tableParts, hrest]
    cases hhidden : hidden options field.uid with
    | true => rfl
    | false =>
      have hfield := h field List.mem_cons_self hhidden
      simp only [hfield.skipped_eq, hfield.isImage_eq, hfield.primitive]
      by_cases hfile : field.kind = some .file
      · rw [valueOf_congr (hfield.file hfile "url")]
      · simp [hfile]

theorem instanceCells_congr (h : ∀ field ∈ fields,
      ShownAlike options field (valueOf members field.uid) (valueOf others field.uid)) :
    instanceCells options others fields = instanceCells options members fields := by
  induction fields with
  | nil => rfl
  | cons field rest ih =>
    have hfield := h field List.mem_cons_self
    have hrest := ih fun child hchild => h child (List.mem_cons_of_mem _ hchild)
    simp only [instanceCells, hfield.empty, hfield.primitive, hrest]

theorem instanceRows_congr {items others : List Json} (hlength : others.length = items.length)
    (h : ∀ (i : Nat) (item other : Json), items[i]? = some item → others[i]? = some other →
      instanceCells options other.members fields = instanceCells options item.members fields) :
    instanceRows options fields others = instanceRows options fields items := by
  induction items generalizing others with
  | nil => rw [List.eq_nil_of_length_eq_zero hlength]
  | cons item rest ih =>
    obtain ⟨other, tail, rfl⟩ := List.exists_cons_of_length_eq_add_one hlength
    have hrest := ih (by simpa using hlength) fun i => h (i + 1)
    rw [instanceRows, instanceRows, h 0 item other rfl rfl, hrest]

/-- The table of a repeatable group depends on how the fields that have a column are shown. -/
theorem instanceTable_congr {items others : List Json} (hlength : others.length = items.length)
    (h : ∀ (i : Nat) (item other : Json), items[i]? = some item → others[i]? = some other →
      ∀ field ∈ columns options fields, ShownAlike options field
        (valueOf item.members field.uid) (valueOf other.members field.uid)) :
    instanceTable options fields (.arr others) = instanceTable options fields (.arr items) := by
  have hrows := instanceRows_congr hlength fun i item other hitem hother =>
    instanceCells_congr (h i item other hitem hother)
  cases items with
  | nil => rw [List.eq_nil_of_length_eq_zero hlength]
  | cons item rest =>
    obtain ⟨other, tail, rfl⟩ := List.exists_cons_of_length_eq_add_one hlength
    simp only [instanceTable, hrows]

/-- Two values that are the same nonempty texts are equal, or neither is a nonempty text. -/
theorem text_cases {value other : Option Json}
    (h : ∀ text, text ≠ "" → (other = some (.str text) ↔ value = some (.str text))) :
    other = value ∨ (∀ text, text ≠ "" → value ≠ some (.str text)) ∧
      ∀ text, text ≠ "" → other ≠ some (.str text) := by
  by_cases hstr : ∃ text, text ≠ "" ∧ value = some (.str text)
  · obtain ⟨text, htext, hvalue⟩ := hstr
    exact Or.inl (((h text htext).2 hvalue).trans hvalue.symm)
  · exact Or.inr ⟨fun text htext hvalue => hstr ⟨text, htext, hvalue⟩,
      fun text htext hother => hstr ⟨text, htext, (h text htext).1 hother⟩⟩

theorem blockHeading_of_no_text {definition : BlockDefinition} (level : Int)
    (h : ∀ title, title ≠ "" → (definition.titleField.map fun field => valueOf members field.uid) ≠
      some (.str title)) :
    blockHeading definition members level = Markdown.heading definition.label level := by
  unfold blockHeading
  split
  · next title heq =>
    split
    · rfl
    · next hempty => exact absurd heq (h title (by simpa using hempty))
  · rfl

/-- The heading of a block shows its title only where it is a nonempty text. -/
theorem blockHeading_congr {definition : BlockDefinition} (level : Int)
    (h : ∀ field, definition.titleField = some field → ∀ title, title ≠ "" →
      (valueOf others field.uid = .str title ↔ valueOf members field.uid = .str title)) :
    blockHeading definition others level = blockHeading definition members level := by
  have htitle (title : String) (hne : title ≠ "") :
      (definition.titleField.map fun field => valueOf others field.uid) = some (.str title) ↔
        (definition.titleField.map fun field => valueOf members field.uid) =
          some (.str title) := by
    cases hfield : definition.titleField with
    | none => exact Iff.rfl
    | some field => simpa using h field hfield title hne
  rcases text_cases htitle with heq | ⟨hmembers, hothers⟩
  · rw [blockHeading, blockHeading, heq]
  · rw [blockHeading_of_no_text level hothers, blockHeading_of_no_text level hmembers]

theorem quoteLines_congr (hquote : valueOf others "quote_text" = valueOf members "quote_text")
    (hsource : valueOf others "attribution" = valueOf members "attribution") :
    quoteLines others = quoteLines members := by
  rw [quoteLines, quoteLines, hquote, hsource]

theorem blockFieldLine_congr {field : Field} {value other : Json} (rendered : Json)
    (h : ShownAlike options field value other) :
    blockFieldLine field.toFieldInfo other rendered =
      blockFieldLine field.toFieldInfo value rendered := by
  rw [blockFieldLine, blockFieldLine, h.hasUrl_eq]

theorem blockFieldLines_congr {title : Option String} (h : ∀ field ∈ fields,
      hidden options field.uid = false → title ≠ some field.uid →
      ShownAlike options field (valueOf members field.uid) (valueOf others field.uid)) :
    blockFieldLines options others title fields = blockFieldLines options members title fields := by
  induction fields with
  | nil => rfl
  | cons field rest ih =>
    have hrest := ih fun child hchild => h child (List.mem_cons_of_mem _ hchild)
    rw [blockFieldLines, blockFieldLines, hrest]
    cases hhidden : hidden options field.uid with
    | true => rfl
    | false =>
      by_cases htitle : title = some field.uid
      · simp [htitle]
      · have hfield := h field List.mem_cons_self hhidden htitle
        simp only [hfield.skipped_eq, hfield.primitive, blockFieldLine_congr _ hfield]

/-! ## Block items -/

/-- The lines of a block below its heading. -/
def blockBody (options : RenderOptions) (key : String) (definition : BlockDefinition)
    (payload : Json) : Except RenderError (List String) :=
  if key = "quote" then .ok (quoteLines payload.members)
  else if definition.isReference then .ok (referenceLines definition payload)
  else blockFieldLines options payload.members
    (definition.titleField.map fun field => field.uid) definition.fields

theorem blockLines_eq (level : Int) (key : String) (definition : BlockDefinition)
    (payload : Json) : blockLines options level key definition payload =
      (blockBody options key definition payload).map fun lines =>
        [blockHeading definition payload.members level, ""] ++ lines := by
  simp only [blockLines, blockBody]
  split
  · rfl
  · split
    · rfl
    · cases blockFieldLines options payload.members
        (definition.titleField.map fun field => field.uid) definition.fields <;> rfl

/-- The lines of an item of a blocks field, if it is recognised. -/
def itemSection (options : RenderOptions) (level : Int) (definitions : List BlockDefinition)
    (item : Json) : Except RenderError (Option (List String)) :=
  match BlockMatch.of item definitions with
  | .variant key _ definition payload =>
    (blockLines options level key definition payload).map some
  | .unknown _ _ => .ok none

theorem blockSections_cons (level : Int) (definitions : List BlockDefinition) (item : Json)
    (rest : List Json) : blockSections options level definitions (item :: rest) =
      (itemSection options level definitions item).bind fun lines =>
        (blockSections options level definitions rest).map fun sections =>
          lines.toList ++ sections := by
  rw [blockSections, itemSection]
  cases BlockMatch.of item definitions with
  | unknown key payload =>
    cases blockSections options level definitions rest <;> rfl
  | variant key index definition payload =>
    cases hlines : blockLines options level key definition payload with
    | error error => simp [hlines, Except.map, Except.bind, bind]
    | ok lines =>
      cases blockSections options level definitions rest <;>
        simp [hlines, Except.map, Except.bind, bind, pure, Except.pure]

theorem blockSections_congr {level : Int} {definitions : List BlockDefinition}
    {items others : List Json} (hlength : others.length = items.length)
    (h : ∀ (i : Nat) (item other : Json), items[i]? = some item → others[i]? = some other →
      itemSection options level definitions other = itemSection options level definitions item) :
    blockSections options level definitions others =
      blockSections options level definitions items := by
  induction items generalizing others with
  | nil => rw [List.eq_nil_of_length_eq_zero hlength]
  | cons item rest ih =>
    obtain ⟨other, tail, rfl⟩ := List.exists_cons_of_length_eq_add_one hlength
    have hrest := ih (by simpa using hlength) fun i => h (i + 1)
    rw [blockSections_cons, blockSections_cons, h 0 item other rfl rfl, hrest]

theorem blocksText_congr {level : Int} {definitions : List BlockDefinition}
    {items others : List Json} (hlength : others.length = items.length)
    (h : ∀ (i : Nat) (item other : Json), items[i]? = some item → others[i]? = some other →
      itemSection options level definitions other = itemSection options level definitions item) :
    blocksText options level definitions (.arr others) =
      blocksText options level definitions (.arr items) := by
  rw [blocksText, blocksText, blockSections_congr hlength h]

/-- The lines of an item depend on its tag and on the lines of its payload. -/
theorem itemSection_congr {level : Int} {definitions : List BlockDefinition} {item other : Json}
    (htag : other.tag? = item.tag?)
    (h : ∀ definition ∈ definitions, item.tag? = some definition.uid →
      blockLines options level definition.uid definition (valueOf other.members definition.uid) =
        blockLines options level definition.uid definition
          (valueOf item.members definition.uid)) :
    itemSection options level definitions other = itemSection options level definitions item := by
  unfold itemSection BlockMatch.of
  rw [htag]
  cases hkey : item.tag? with
  | none => rfl
  | some key =>
    rcases BlockMatch.find_cases key 0 definitions with
      ⟨i, definition, -, hfound, hfind⟩ | ⟨-, hfind⟩
    · obtain rfl : definition.uid = key := by simpa using List.find?_some hfound
      simp only [hfind]
      exact congrArg (Except.map some) (h definition (List.mem_of_find?_eq_some hfound) hkey)
    · simp only [hfind]

end Rendering

namespace Field

variable {options : RenderOptions} {members others : Members} {fields : List Field}

theorem groupFieldLines_congr {field : Field} {value other : Json} (rendered : Json)
    (h : ShownAlike options field value other) :
    groupFieldLines field.toFieldInfo other rendered =
      groupFieldLines field.toFieldInfo value rendered := by
  rw [groupFieldLines, groupFieldLines, h.hasUrl_eq]

/-- The lines of a group depend on how its plain fields are shown and on the renderings of the
groups and blocks in it. -/
theorem groupLines_congr (level : Int)
    (hplain : ∀ field ∈ fields, hidden options field.uid = false →
      (field.isGroup || field.isBlocks) = false →
      ShownAlike options field (valueOf members field.uid) (valueOf others field.uid))
    (hnested : ∀ field ∈ fields, hidden options field.uid = false →
      (field.isGroup || field.isBlocks) = true →
      (valueOf others field.uid).isEmptyValue = (valueOf members field.uid).isEmptyValue ∧
      field.structured options level (valueOf others field.uid) =
        field.structured options level (valueOf members field.uid)) :
    groupLines options level others fields = groupLines options level members fields := by
  induction fields with
  | nil => rfl
  | cons field rest ih =>
    have hrest := ih (fun child hchild => hplain child (List.mem_cons_of_mem _ hchild))
      (fun child hchild => hnested child (List.mem_cons_of_mem _ hchild))
    rw [groupLines, groupLines, hrest]
    cases hhidden : hidden options field.uid with
    | true => rfl
    | false =>
      cases hcontainer : field.isGroup || field.isBlocks with
      | false =>
        have hfield := hplain field List.mem_cons_self hhidden hcontainer
        simp only [hfield.skipped_eq, hfield.primitive, groupFieldLines_congr _ hfield,
          Bool.false_eq_true, if_false]
      | true =>
        obtain ⟨hempty, htext⟩ := hnested field List.mem_cons_self hhidden hcontainer
        simp only [skipped, hempty, htext, if_true]

section Structured

variable {field : Field}

theorem structured_blocks (level : Int) (hkind : field.isBlocks = true) (value : Json) :
    field.structured options level value = blocksText options (level + 1) field.blocks value := by
  obtain ⟨info, fields, blocks⟩ := field
  rw [structured, if_pos hkind]

theorem structured_instances (level : Int) (hkind : field.isGroup = true)
    (hmultiple : field.multiple = true) (value : Json) :
    field.structured options level value = instanceTable options field.fields value := by
  obtain ⟨info, fields, blocks⟩ := field
  have hblocks : ¬ info.isBlocks = true := by simp_all [FieldInfo.isGroup, FieldInfo.isBlocks]
  rw [structured, if_neg hblocks, if_pos hmultiple]

theorem structured_single (level : Int) (hkind : field.isGroup = true)
    (hsingle : field.multiple = false) (value : Json) : field.structured options level value =
      if field.hasNestedGroups || !options.useTables then do
        let lines ← groupLines options (level + 1) value.members field.fields
        return Text.strip (Text.joinWith "\n" lines)
      else groupTable options value.members field.fields := by
  obtain ⟨info, fields, blocks⟩ := field
  have hblocks : ¬ info.isBlocks = true := by simp_all [FieldInfo.isGroup, FieldInfo.isBlocks]
  rw [structured, if_neg hblocks, if_neg (by simpa using hsingle)]
  rfl

/-- A group with one instance depends on how its plain fields are shown and on the renderings of the
groups and blocks in it. -/
theorem structured_single_congr (level : Int) (hkind : field.isGroup = true)
    (hsingle : field.multiple = false) {value other : Json}
    (hplain : ∀ child ∈ field.fields, hidden options child.uid = false →
      (child.isGroup || child.isBlocks) = false →
      ShownAlike options child (valueOf value.members child.uid)
        (valueOf other.members child.uid))
    (hnested : ∀ child ∈ field.fields, hidden options child.uid = false →
      (child.isGroup || child.isBlocks) = true →
      (valueOf other.members child.uid).isEmptyValue =
        (valueOf value.members child.uid).isEmptyValue ∧
      child.structured options (level + 1) (valueOf other.members child.uid) =
        child.structured options (level + 1) (valueOf value.members child.uid)) :
    field.structured options level other = field.structured options level value := by
  rw [structured_single level hkind hsingle, structured_single level hkind hsingle,
    groupLines_congr (level + 1) hplain hnested]
  split
  · rfl
  · next htable =>
    have hnone : ∀ child ∈ field.fields, (child.isGroup || child.isBlocks) = false := by
      intro child hchild
      rw [Bool.eq_false_iff]
      intro hcontainer
      have hgroups : field.hasNestedGroups = true :=
        List.any_eq_true.2 ⟨child, hchild, hcontainer⟩
      exact htable (by rw [hgroups, Bool.true_or])
    rw [groupTable, groupTable, tableParts_congr fun child hchild hhidden =>
      hplain child hchild hhidden (hnone child hchild)]

theorem isBlocks_of_isGroup (h : field.isGroup = true) : field.isBlocks = false := by
  simp_all [FieldInfo.isGroup, FieldInfo.isBlocks]

end Structured

end Field

/-! ## Entries -/

namespace Rendering

variable {options : RenderOptions} {members others : Members} {fields : List Field}

theorem get?_eq_str_iff {key text : String} :
    members.get? key = some (.str text) ↔ valueOf members key = .str text := by
  rw [valueOf]
  cases members.get? key <;> simp

theorem textLines_of_no_text {key : String} (line : String → String)
    (h : ∀ text, text ≠ "" → members.get? key ≠ some (.str text)) :
    textLines members key line = [] := by
  unfold textLines
  split
  · next text heq =>
    split
    · rfl
    · next hempty => exact absurd heq (h text (by simpa using hempty))
  · rfl

/-- Lines that a member makes up show it only where it is a nonempty text. -/
theorem textLines_congr {key : String} {line : String → String} (h : ∀ text, text ≠ "" →
      (valueOf others key = .str text ↔ valueOf members key = .str text)) :
    textLines others key line = textLines members key line := by
  simp only [← get?_eq_str_iff] at h
  rcases text_cases h with heq | ⟨hmembers, hothers⟩
  · rw [textLines, textLines, heq]
  · rw [textLines_of_no_text line hothers, textLines_of_no_text line hmembers]

theorem entryFields_congr (h : ∀ field ∈ fields, field.uid ≠ options.titleField →
      field.uid ≠ options.descriptionField → hidden options field.uid = false →
      (valueOf others field.uid).isEmptyValue = (valueOf members field.uid).isEmptyValue ∧
      entryField options (valueOf others field.uid) field =
        entryField options (valueOf members field.uid) field) :
    entryFields options others fields = entryFields options members fields := by
  induction fields with
  | nil => rfl
  | cons field rest ih =>
    have hrest := ih fun child hchild => h child (List.mem_cons_of_mem _ hchild)
    rw [entryFields, entryFields, hrest]
    by_cases htitle : field.uid = options.titleField
    · simp [htitle]
    · by_cases hdescription : field.uid = options.descriptionField
      · simp [hdescription]
      · cases hhidden : hidden options field.uid with
        | true => simp
        | false =>
          obtain ⟨hempty, htext⟩ := h field List.mem_cons_self htitle hdescription hhidden
          simp only [skipped, hempty, htext]
          rfl

end Rendering

end ContentModel
