import ContentModel.Proofs.Rendering.Failure
import ContentModel.Proofs.Rendering.Sections

/-!
# What the document of an entry shows

A visible field with a rendering shows in the document, and a visible field of a block shows in the
section of the block. The fields whose values become titles and descriptions do so if their values
are texts that are shown as they are.

* `Field.Filled` says that a field is visible and that there is something in its rendering;
* `Field.HasSection` and `ContentType.HasSection` say that a block has a section, at which level;
* there is one lemma for every part of a rendering, on what stands in its lines: `mem_entryFields`,
  `Field.mem_groupLines`, `mem_blockSections`, `mem_blockFieldLines`;
* `BlockOf.section_shows` says what stands in the section of a block, `Field.HasSection.within`
  that the section stands in the rendering of a field;
* `ContentType.render_shows` says it of documents.
-/

namespace ContentModel

open Rendering

/-! ## Fields and sections -/

/-- A field is visible, and there is something in the rendering of its value. -/
def Field.Filled (options : RenderOptions) (field : Field) (value rendered : Json) : Prop :=
  hidden options field.uid = false ∧ primitive options field.toFieldInfo value = .ok rendered ∧
    rendered.isTruthy = true

/-- A value is a text that is shown as it is. -/
def Json.IsVerbatim (value rendered : Json) : Prop :=
  ∃ text, value = .str text ∧ rendered = .str text

/-- In the rendering of a field, whose heading has one level, a block has a section with a heading
of another level. -/
inductive Field.HasSection (options : RenderOptions) :
    Field → Int → Json → Int → BlockDefinition → Json → Prop
  | item {field : Field} {level : Int} {items : List Json} {item : Json} {block : BlockDefinition}
      (kind : field.isBlocks = true) (mem : item ∈ items)
      (variant : item.variant? field.blocks = some block) :
      Field.HasSection options field level (.arr items) (level + 1) block
        (valueOf item.members block.uid)
  | group {field child : Field} {level blockLevel : Int} {value payload : Json}
      {block : BlockDefinition} (kind : field.isGroup = true) (single : field.multiple = false)
      (mem : child ∈ field.fields) (shown : hidden options child.uid = false)
      (deeper : Field.HasSection options child (level + 1) (valueOf value.members child.uid)
        blockLevel block payload) :
      Field.HasSection options field level value blockLevel block payload

/-- In the document of an entry, a block has a section with a heading of a level. -/
def ContentType.HasSection (options : RenderOptions) (contentType : ContentType) (entry : Json)
    (level : Int) (block : BlockDefinition) (payload : Json) : Prop :=
  ∃ field ∈ contentType.fields, field.uid ≠ options.titleField ∧
    field.uid ≠ options.descriptionField ∧ hidden options field.uid = false ∧
    field.HasSection options options.sectionLevel (valueOf entry.members field.uid) level block
      payload

namespace Rendering

variable {options : RenderOptions} {members : Members} {fields : List Field}

theorem bind_eq_ok {α β : Type} {rendering : Except RenderError α} {f : α → Except RenderError β}
    {b : β} (h : (rendering >>= f) = .ok b) : ∃ a, rendering = .ok a ∧ f a = .ok b := by
  cases rendering with
  | error error => cases h
  | ok a => exact ⟨a, rfl, h⟩

theorem map_eq_ok {α β : Type} {rendering : Except RenderError α} {f : α → β} {b : β}
    (h : rendering.map f = .ok b) : ∃ a, rendering = .ok a ∧ f a = b := by
  cases rendering with
  | error error => cases h
  | ok a => exact ⟨a, rfl, Except.ok.inj h⟩

theorem skipped_of_filled {field : Field} {value rendered : Json}
    (h : field.Filled options value rendered) : skipped options value = false := by
  obtain ⟨-, hrendered, htruthy⟩ := h
  rw [skipped, Bool.and_eq_false_iff]
  refine Or.inr ?_
  rw [← Bool.not_eq_true]
  intro hempty
  rw [primitive_of_isEmptyValue hempty] at hrendered
  cases hrendered
  cases htruthy

/-- Values that are joined are texts, which stand in the joined text. -/
theorem within_of_joinTexts {separator text : String} {values : List Json}
    (h : joinTexts separator values = .ok text) :
    ∀ value ∈ values, ∃ s, value = .str s ∧ Text.Within s text := by
  have hfine : ¬ Fails (joinTexts separator values) := not_fails_iff.2 ⟨text, h⟩
  have hall : ∀ value ∈ values, ∃ s, value = .str s := by
    simpa [fails_joinTexts_iff] using hfine
  intro value hvalue
  obtain ⟨s, rfl⟩ := hall value hvalue
  refine ⟨s, rfl, ?_⟩
  unfold joinTexts at h
  dsimp only at h
  split at h
  · cases h
    exact .joinWith_of_mem (List.mem_filterMap.2 ⟨_, hvalue, rfl⟩)
  · cases h

/-! ## Fields of an entry -/

theorem within_labelled (label : String) (rendered : Json) :
    Text.Within rendered.display (labelled label rendered) :=
  (((Text.Within.refl _).before _).before _).before _

/-- Where the lines of a field are texts in a document, its rendering stands in the document. -/
theorem within_entryFieldLines {field : FieldInfo} {level : Int} {rendered : Json} {text : String}
    (h : ∀ line ∈ entryFieldLines field level rendered,
      ∃ s, line = .str s ∧ Text.Within s text) : Text.Within rendered.display text := by
  have hlabelled (hline : .str (labelled field.label rendered) ∈
      entryFieldLines field level rendered) : Text.Within rendered.display text := by
    obtain ⟨s, heq, hwithin⟩ := h _ hline
    cases heq
    exact (within_labelled field.label rendered).trans hwithin
  unfold entryFieldLines at h hlabelled
  split at h
  · obtain ⟨s, rfl, hwithin⟩ := h rendered (by simp)
    exact hwithin
  · next hplain =>
    rw [if_neg hplain] at hlabelled
    split at h
    · next hseveral => exact hlabelled (by simp [hseveral])
    · next hsingle => exact hlabelled (by simp [hsingle])

/-- The lines of an entry are those of its fields. -/
theorem mem_entryFields {lines : List Json} {field : Field}
    (h : entryFields options members fields = .ok lines) (hfield : field ∈ fields)
    (htitle : field.uid ≠ options.titleField) (hdescription : field.uid ≠ options.descriptionField)
    (hhidden : hidden options field.uid = false)
    (hskipped : skipped options (valueOf members field.uid) = false) :
    ∃ own, entryField options (valueOf members field.uid) field = .ok own ∧
      ∀ line ∈ own, line ∈ lines := by
  induction fields generalizing lines with
  | nil => cases hfield
  | cons first rest ih =>
    rw [entryFields] at h
    rcases List.mem_cons.1 hfield with rfl | hrest
    · rw [if_neg (by simp [htitle, hdescription, hhidden, hskipped])] at h
      obtain ⟨own, hown, h⟩ := bind_eq_ok h
      obtain ⟨others, -, h⟩ := bind_eq_ok h
      cases h
      exact ⟨own, hown, fun line hline => List.mem_append_left _ hline⟩
    · split at h
      · exact ih h hrest
      · obtain ⟨first, -, h⟩ := bind_eq_ok h
        obtain ⟨others, hothers, h⟩ := bind_eq_ok h
        cases h
        obtain ⟨own, hown, hlines⟩ := ih hothers hrest
        exact ⟨own, hown, fun line hline => List.mem_append_right _ (hlines line hline)⟩

/-! ## Fields of a block -/

/-- The lines of a rendering, trimmed, stand in the line of a field of a block. -/
theorem within_blockFieldLine {field : FieldInfo} {value rendered : Json} {line : String}
    (h : line ∈ Text.lines rendered.display) :
    Text.Within (Text.strip line) (blockFieldLine field value rendered) := by
  have hline : Text.Within (Text.strip line) rendered.display :=
    (Text.within_strip line).trans (Text.within_of_mem_lines h).1
  unfold blockFieldLine
  split
  · exact hline
  · split
    · exact Markdown.within_blockquote h
    · split
      · exact hline.before _
      · exact hline.trans (within_labelled field.label rendered)

/-- The lines of a block hold one for each of its fields that is filled. -/
theorem mem_blockFieldLines {title : Option String} {lines : List String} {field : Field}
    {rendered : Json} (h : blockFieldLines options members title fields = .ok lines)
    (hfield : field ∈ fields) (hfilled : field.Filled options (valueOf members field.uid) rendered)
    (htitle : title ≠ some field.uid) :
    blockFieldLine field.toFieldInfo (valueOf members field.uid) rendered ∈ lines := by
  induction fields generalizing lines with
  | nil => cases hfield
  | cons first rest ih =>
    rw [blockFieldLines] at h
    rcases List.mem_cons.1 hfield with rfl | hrest
    · have hskipped := skipped_of_filled hfilled
      obtain ⟨hhidden, hrendered, htruthy⟩ := hfilled
      rw [if_neg (by simp [htitle, hhidden, hskipped])] at h
      obtain ⟨own, hown, h⟩ := bind_eq_ok h
      obtain ⟨others, -, h⟩ := bind_eq_ok h
      cases hrendered.symm.trans hown
      cases h
      simp [htruthy]
    · split at h
      · exact ih h hrest
      · obtain ⟨own, -, h⟩ := bind_eq_ok h
        obtain ⟨others, hothers, h⟩ := bind_eq_ok h
        cases h
        have hmem := ih hothers hrest
        split
        · exact List.mem_cons_of_mem _ (List.mem_cons_of_mem _ hmem)
        · exact hmem

/-- The heading of a block shows its title if it is a text. -/
theorem within_blockHeading {block : BlockDefinition} {uid title : String} (level : Int)
    (huid : (block.titleField.map fun field => field.uid) = some uid)
    (htitle : valueOf members uid = .str title) :
    Text.Within title (blockHeading block members level) := by
  obtain ⟨field, hfield, rfl⟩ := Option.map_eq_some_iff.1 huid
  unfold blockHeading
  rw [hfield, Option.map_some, htitle]
  dsimp only
  split
  · next hempty => exact .of_eq_empty (by simpa using hempty) _
  · have hlabel : Text.Within title (block.label ++ (": " ++ title)) :=
      ((Text.Within.refl title).before _).before _
    exact hlabel.trans (Markdown.within_heading _ level)

end Rendering

/-! ## Sections of blocks -/

/-- A block that is no quotation and no reference shows its filled fields in its section, line by
line. The title field does so if its value is a text that is shown as it is. -/
theorem BlockOf.section_shows {options : RenderOptions} {level : Int} {block : BlockDefinition}
    {payload rendered : Json} {lines : List String} {field : Field} {line : String}
    (h : blockLines options level block.uid block payload = .ok lines)
    (hquote : block.uid ≠ "quote") (hinline : block.isReference = false)
    (hfield : field ∈ block.fields)
    (hfilled : field.Filled options (valueOf payload.members field.uid) rendered)
    (htitle : (block.titleField.map fun title => title.uid) = some field.uid →
      Json.IsVerbatim (valueOf payload.members field.uid) rendered)
    (hline : line ∈ Text.lines rendered.display) :
    Text.Within (Text.strip line) (Text.strip (Text.joinWith "\n" lines)) := by
  refine Text.Within.strip ?_
  rw [blockLines_eq, blockBody, if_neg hquote, if_neg (by simp [hinline])] at h
  obtain ⟨body, hbody, rfl⟩ := map_eq_ok h
  by_cases htitleField : (block.titleField.map fun title => title.uid) = some field.uid
  · -- The title field has no line of its own: its value stands in the heading.
    obtain ⟨title, hvalue, rfl⟩ := htitle htitleField
    have hheading := within_blockHeading level htitleField hvalue
    have hwithin : Text.Within (Text.strip line) title :=
      (Text.within_strip line).trans (Text.within_of_mem_lines hline).1
    exact (hwithin.trans hheading).trans (.joinWith_of_mem (by simp))
  · have hmem := mem_blockFieldLines hbody hfield hfilled htitleField
    exact (within_blockFieldLine hline).trans
      (.joinWith_of_mem (List.mem_append_right [_, ""] hmem))

namespace Rendering

variable {options : RenderOptions} {level : Int} {blocks : List BlockDefinition}

theorem itemSection_of_variant {item : Json} {block : BlockDefinition}
    (h : item.variant? blocks = some block) : itemSection options level blocks item =
      (blockLines options level block.uid block (valueOf item.members block.uid)).map some := by
  obtain ⟨key, hkey, hfound⟩ := Option.bind_eq_some_iff.1 h
  obtain rfl : block.uid = key := by simpa using List.find?_some hfound
  unfold itemSection BlockMatch.of
  rw [hkey]
  rcases BlockMatch.find_cases block.uid 0 blocks with ⟨i, first, -, hfirst, hfind⟩ | ⟨hnone, -⟩
  · obtain rfl := Option.some.inj (hfound.symm.trans hfirst)
    simp only [hfind]
    rfl
  · rw [hfound] at hnone
    cases hnone

theorem mem_blockSections {items : List Json} {item : Json} {block : BlockDefinition}
    {sections : List (List String)}
    (h : blockSections options level blocks items = .ok sections) (hitem : item ∈ items)
    (hvariant : item.variant? blocks = some block) : ∃ lines ∈ sections,
      blockLines options level block.uid block (valueOf item.members block.uid) = .ok lines := by
  induction items generalizing sections with
  | nil => cases hitem
  | cons first rest ih =>
    rw [blockSections_cons] at h
    obtain ⟨own, hown, h⟩ := bind_eq_ok h
    obtain ⟨others, hothers, rfl⟩ := map_eq_ok h
    rcases List.mem_cons.1 hitem with rfl | hrest
    · rw [itemSection_of_variant hvariant] at hown
      obtain ⟨lines, hlines, rfl⟩ := map_eq_ok hown
      exact ⟨lines, by simp, hlines⟩
    · obtain ⟨lines, hmem, hlines⟩ := ih hothers hrest
      exact ⟨lines, List.mem_append_right _ hmem, hlines⟩

/-- The section of a block, trimmed, stands in the rendering of a blocks field. -/
theorem within_blocksText {items : List Json} {item : Json} {block : BlockDefinition}
    {text : String} (h : blocksText options level blocks (.arr items) = .ok text)
    (hitem : item ∈ items) (hvariant : item.variant? blocks = some block) :
    ∃ lines, blockLines options level block.uid block (valueOf item.members block.uid) = .ok lines ∧
      Text.Within (Text.strip (Text.joinWith "\n" lines)) text := by
  rw [blocksText_arr] at h
  obtain ⟨sections, hsections, rfl⟩ := map_eq_ok h
  obtain ⟨lines, hmem, hlines⟩ := mem_blockSections hsections hitem hvariant
  have hjoined : Text.Within (Text.joinWith "\n" lines)
      (Text.joinWith "\n" (["---", ""].intercalate sections)) :=
    .joinWith_of_isInfix (infix_intercalate hmem)
  exact ⟨lines, hlines, ((Text.within_strip _).trans hjoined).strip⟩

end Rendering

namespace Field

variable {options : RenderOptions} {level : Int}

/-- The lines of a group hold the renderings of the groups and blocks in it. -/
theorem mem_groupLines {members : Members} {fields : List Field} {lines : List String}
    {field : Field} (h : groupLines options level members fields = .ok lines)
    (hfield : field ∈ fields) (hhidden : hidden options field.uid = false)
    (hcontainer : (field.isGroup || field.isBlocks) = true)
    (hskipped : skipped options (valueOf members field.uid) = false) :
    ∃ text ∈ lines, field.structured options level (valueOf members field.uid) = .ok text := by
  induction fields generalizing lines with
  | nil => cases hfield
  | cons first rest ih =>
    rw [groupLines] at h
    rcases List.mem_cons.1 hfield with rfl | hrest
    · rw [if_neg (by simp [hhidden, hskipped]), if_pos hcontainer] at h
      obtain ⟨text, htext, h⟩ := bind_eq_ok h
      obtain ⟨others, -, h⟩ := bind_eq_ok h
      cases h
      exact ⟨text, by simp, htext⟩
    · split at h
      · exact ih h hrest
      · split at h
        · obtain ⟨text, -, h⟩ := bind_eq_ok h
          obtain ⟨others, hothers, h⟩ := bind_eq_ok h
          cases h
          obtain ⟨text, hmem, htext⟩ := ih hothers hrest
          exact ⟨text, by simp [hmem], htext⟩
        · obtain ⟨rendered, -, h⟩ := bind_eq_ok h
          obtain ⟨others, hothers, h⟩ := bind_eq_ok h
          cases h
          obtain ⟨text, hmem, htext⟩ := ih hothers hrest
          exact ⟨text, List.mem_append_right _ hmem, htext⟩

/-- Only groups and blocks have sections of blocks in them, and only where they are not empty. -/
theorem HasSection.isContainer {field : Field} {value payload : Json} {blockLevel : Int}
    {block : BlockDefinition}
    (h : field.HasSection options level value blockLevel block payload) :
    (field.isGroup || field.isBlocks) = true ∧ value.isEmptyValue = false := by
  induction h with
  | @item _ _ items _ _ kind mem =>
    cases items with
    | nil => cases mem
    | cons => exact ⟨by rw [kind, Bool.or_true], rfl⟩
  | @group _ _ _ _ value _ _ kind _ _ _ _ ih =>
    refine ⟨by rw [kind, Bool.true_or], ?_⟩
    cases value with
    | obj members => rfl
    | _ =>
      -- Nothing is looked up in a value that is no object, and nothing is empty.
      have hfalse : true = false := ih.2
      cases hfalse

/-- The section of a block, trimmed, stands in the rendering of a field. -/
theorem HasSection.within {field : Field} {value payload : Json} {blockLevel : Int}
    {block : BlockDefinition} {text : String}
    (h : field.HasSection options level value blockLevel block payload)
    (hok : field.structured options level value = .ok text) :
    ∃ lines, blockLines options blockLevel block.uid block payload = .ok lines ∧
      Text.Within (Text.strip (Text.joinWith "\n" lines)) text := by
  induction h generalizing text with
  | @item _ level _ _ _ kind mem variant =>
    rw [structured_blocks level kind] at hok
    exact within_blocksText hok mem variant
  | @group field child level _ value _ _ kind single mem shown deeper ih =>
    obtain ⟨hcontainer, hfilled⟩ := deeper.isContainer
    have hnested : field.hasNestedGroups = true := List.any_eq_true.2 ⟨child, mem, hcontainer⟩
    rw [structured_single level kind single, if_pos (by rw [hnested, Bool.true_or])] at hok
    obtain ⟨lines, hlines, hok⟩ := bind_eq_ok hok
    cases hok
    obtain ⟨inner, hmem, hinner⟩ := mem_groupLines hlines mem shown hcontainer
      (by rw [skipped, hfilled, Bool.and_false])
    obtain ⟨own, hown, hwithin⟩ := ih hinner
    exact ⟨own, hown, (hwithin.trans (.joinWith_of_mem hmem)).strip⟩

end Field

/-! ## Documents -/

namespace Rendering

variable {options : RenderOptions} {members : Members} {text shown : String}

/-- A text that makes up a line shows if the line is made around it. -/
theorem within_textLines {key : String} (line : String → String)
    (hvalue : valueOf members key = .str text) (hline : Text.Within text (line text))
    (h : ∀ part ∈ textLines members key line, ∃ s, part = .str s ∧ Text.Within s shown) :
    Text.Within text shown := by
  unfold textLines at h
  rw [get?_eq_str_iff.2 hvalue] at h
  dsimp only at h
  split at h
  · next hempty => exact .of_eq_empty (by simpa using hempty) _
  · obtain ⟨s, heq, hwithin⟩ := h _ List.mem_cons_self
    cases heq
    exact hline.trans hwithin

end Rendering

/-- The rendering of a field shows where its lines stand. -/
theorem Field.within_entryField {options : RenderOptions} {field : Field} {value rendered : Json}
    {own : List Json} {shown : String} (hplain : (field.isGroup || field.isBlocks) = false)
    (hfilled : field.Filled options value rendered)
    (hown : entryField options value field = .ok own)
    (h : ∀ line ∈ own, ∃ s, line = .str s ∧ Text.Within s shown) :
    Text.Within rendered.display shown := by
  obtain ⟨-, hrendered, htruthy⟩ := hfilled
  rw [entryField, if_neg (by simp [hplain])] at hown
  obtain ⟨found, hfound, hown⟩ := bind_eq_ok hown
  cases hrendered.symm.trans hfound
  cases hown
  rw [if_pos htruthy] at h
  exact within_entryFieldLines h

/-- The section of a block, trimmed, stands in the document of the entry. -/
theorem ContentType.HasSection.within {contentType : ContentType} {options : RenderOptions}
    {entry payload : Json} {level : Int} {block : BlockDefinition} {text : String}
    (h : contentType.HasSection options entry level block payload)
    (hrender : contentType.render options entry = .ok text) :
    ∃ lines, blockLines options level block.uid block payload = .ok lines ∧
      Text.Within (Text.strip (Text.joinWith "\n" lines)) text := by
  obtain ⟨field, hfield, htitle, hdescription, hhidden, hsection⟩ := h
  obtain ⟨lines, hlines, hrender⟩ := bind_eq_ok hrender
  obtain ⟨joined, hjoined, hrender⟩ := bind_eq_ok hrender
  cases hrender
  obtain ⟨hcontainer, hempty⟩ := hsection.isContainer
  obtain ⟨own, hown, hmem⟩ := mem_entryFields hlines hfield htitle hdescription hhidden
    (by rw [skipped, hempty, Bool.and_false])
  rw [entryField, if_pos hcontainer] at hown
  obtain ⟨inner, hinner, hown⟩ := bind_eq_ok hown
  cases hown
  obtain ⟨s, heq, hshown⟩ := within_of_joinTexts hjoined (.str inner)
    (List.mem_append_right _ (hmem _ (by simp)))
  cases heq
  obtain ⟨blockLines, hblock, hinSection⟩ := hsection.within hinner
  exact ⟨blockLines, hblock, (hinSection.trans hshown).strip⟩

/-- **What is filled shows**: in the document of an entry, every visible field with a rendering
stands with its rendering, blanks around it left aside, and every block with a section stands with
its section, in which every visible field with a rendering stands line by line, if it is no
quotation and no reference. Where a field is the title or the description of the entry, or the
title of a block, its value has to be a text that is shown as it is. -/
theorem ContentType.render_shows {contentType : ContentType} {options : RenderOptions}
    {entry : Json} {text : String} (h : contentType.render options entry = .ok text) :
    (∀ field ∈ contentType.fields, (field.isGroup || field.isBlocks) = false → ∀ rendered,
      field.Filled options (valueOf entry.members field.uid) rendered →
      (field.uid = options.titleField ∨ field.uid = options.descriptionField →
        Json.IsVerbatim (valueOf entry.members field.uid) rendered) →
      Text.Within (Text.strip rendered.display) text) ∧
    ∀ level block payload, contentType.HasSection options entry level block payload →
      ∃ lines, blockLines options level block.uid block payload = .ok lines ∧
        Text.Within (Text.strip (Text.joinWith "\n" lines)) text ∧
        (block.uid ≠ "quote" → block.isReference = false → ∀ field ∈ block.fields, ∀ rendered,
          field.Filled options (valueOf payload.members field.uid) rendered →
          ((block.titleField.map fun title => title.uid) = some field.uid →
            Json.IsVerbatim (valueOf payload.members field.uid) rendered) →
          ∀ line ∈ Text.lines rendered.display,
            Text.Within (Text.strip line) (Text.strip (Text.joinWith "\n" lines))) := by
  have hrender := h
  obtain ⟨lines, hlines, h⟩ := bind_eq_ok h
  obtain ⟨joined, hjoined, h⟩ := bind_eq_ok h
  cases h
  have hwithin := within_of_joinTexts hjoined
  refine ⟨fun field hfield hplain rendered hfilled hverbatim => ?_, ?_⟩
  · refine ((Text.within_strip _).trans ?_).strip
    by_cases htitle : field.uid = options.titleField
    · obtain ⟨title, hvalue, rfl⟩ := hverbatim (Or.inl htitle)
      rw [htitle] at hvalue
      exact within_textLines (fun title => Markdown.heading title options.headingLevel) hvalue
        (Markdown.within_heading title _) fun line hline => hwithin line (by simp [titleLines, hline])
    by_cases hdescription : field.uid = options.descriptionField
    · obtain ⟨description, hvalue, rfl⟩ := hverbatim (Or.inr hdescription)
      rw [hdescription] at hvalue
      exact within_textLines (fun description => "> " ++ description) hvalue
        ((Text.Within.refl description).before "> ") fun line hline =>
          hwithin line (by simp [descriptionLines, hline])
    obtain ⟨own, hown, hmem⟩ := mem_entryFields hlines hfield htitle hdescription hfilled.1
      (skipped_of_filled hfilled)
    exact field.within_entryField hplain hfilled hown fun line hline =>
      hwithin line (List.mem_append_right _ (hmem line hline))
  · intro level block payload hsection
    obtain ⟨blockLines, hblock, hinDocument⟩ := hsection.within hrender
    exact ⟨blockLines, hblock, hinDocument,
      fun hquote hinline field hfield rendered hfilled hverbatim line hline =>
        block.section_shows hblock hquote hinline hfield hfilled hverbatim hline⟩

/-- A page with a title, topics and a block in a group, with a title and a text of two lines. -/
theorem ContentType.render_shows_page :
    let text (uid : String) : Field := ⟨{ uid, dataType := some "text" }, [], []⟩
    let name : Field := ⟨{ uid := "name", dataType := some "text", mandatory := true }, [], []⟩
    let topics : Field := ⟨{ uid := "topics", dataType := some "text", multiple := true }, [], []⟩
    let hero : BlockDefinition := ⟨{ uid := "hero" }, [name, text "body"]⟩
    let sections : Field := ⟨{ uid := "sections", dataType := some "blocks" }, [], [hero]⟩
    let more : Field := ⟨{ uid := "more", dataType := some "group" }, [sections], []⟩
    let contentType : ContentType := { fields := [text "title", topics, more] }
    let payload : Json := .obj [("name", .str "Welcome"), ("body", .str "one\n two")]
    let entry : Json := .obj [("title", .str "Home"), ("topics", .arr [.str "a", .str "b"]),
      ("more", .obj [("sections", .arr [.obj [("hero", payload)]])])]
    ∃ document lines, contentType.render {} entry = .ok document ∧
      blockLines {} 4 "hero" hero payload = .ok lines ∧
      (∀ shown ∈ ["Home", "\x60a\x60 · \x60b\x60", Text.joinWith "\n" lines],
        Text.Within (Text.strip shown) document) ∧
      ∀ line ∈ ["Welcome", "one", " two"],
        Text.Within (Text.strip line) (Text.strip (Text.joinWith "\n" lines)) := by
  intro text name topics hero sections more contentType payload entry
  have hok : (contentType.render {} entry).toOption.isSome = true := by decide +kernel
  cases hrender : contentType.render {} entry with
  | error error => simp [hrender, Except.toOption] at hok
  | ok document =>
    obtain ⟨hfields, hsections⟩ := render_shows hrender
    have htitle : Text.Within (Text.strip "Home") document :=
      hfields (text "title") (by simp [contentType]) rfl (.str "Home") ⟨by decide, rfl, rfl⟩
        fun _ => ⟨"Home", rfl, rfl⟩
    have htopics : Text.Within (Text.strip "\x60a\x60 · \x60b\x60") document :=
      hfields topics (by simp [contentType]) rfl (.str "\x60a\x60 · \x60b\x60")
        ⟨by decide, rfl, rfl⟩ fun h => absurd h (by decide)
    have hsection : contentType.HasSection {} entry 4 hero payload :=
      ⟨more, by simp [contentType], by decide, by decide, rfl,
        .group rfl rfl List.mem_cons_self rfl (.item rfl List.mem_cons_self rfl)⟩
    obtain ⟨lines, hlines, hinDocument, hinSection⟩ := hsections 4 hero payload hsection
    have hname := hinSection (by decide) rfl name (by simp [hero]) (.str "Welcome")
      ⟨by decide, rfl, rfl⟩ fun _ => ⟨"Welcome", rfl, rfl⟩
    have hbody := hinSection (by decide) rfl (text "body") (by simp [hero]) (.str "one\n two")
      ⟨by decide, rfl, rfl⟩ fun h => absurd h (by decide)
    refine ⟨document, lines, rfl, hlines, ?_, ?_⟩
    · simpa using ⟨htitle, htopics, hinDocument⟩
    · simp only [List.forall_mem_cons]
      exact ⟨hname "Welcome" (by decide), hbody "one" (by decide), hbody " two" (by decide), nofun⟩

/-- A plain field is filled, and its rendering does not show in the document of the entry. -/
def ContentType.Hides (contentType : ContentType) (entry : Json) : Prop :=
  ∃ field ∈ contentType.fields, ∃ rendered text, (field.isGroup || field.isBlocks) = false ∧
    field.Filled {} (valueOf entry.members field.uid) rendered ∧
    contentType.render {} entry = .ok text ∧ ¬ Text.Within (Text.strip rendered.display) text

/-- A field of a block is filled, and the first line of its rendering does not show in the section
of the block. -/
def BlockOf.Hides (block : BlockDefinition) (payload : Json) : Prop :=
  ∃ field ∈ block.fields, ∃ rendered lines line,
    field.Filled {} (valueOf payload.members field.uid) rendered ∧
    blockLines {} 3 block.uid block payload = .ok lines ∧
    (Text.lines rendered.display).head? = some line ∧
    ¬ Text.Within (Text.strip line) (Text.strip (Text.joinWith "\n" lines))

theorem ContentType.Hides.intro {info : FieldInfo} {entry : Json} (rendered text : String)
    (hplain : (info.isGroup || info.isBlocks) = false)
    (hfilled : Field.Filled {} ⟨info, [], []⟩ (valueOf entry.members info.uid) (.str rendered))
    (hok : ContentType.render { fields := [⟨info, [], []⟩] } {} entry = .ok text)
    (hnot : ¬ Text.Within (Text.strip rendered) text) :
    ContentType.Hides { fields := [⟨info, [], []⟩] } entry :=
  ⟨⟨info, [], []⟩, List.mem_cons_self, .str rendered, text, hplain, hfilled, hok,
    hnot⟩

theorem BlockOf.Hides.intro {uid : String} {info : FieldInfo} {payload : Json}
    (rendered line : String) (lines : List String)
    (hfilled : Field.Filled {} ⟨info, [], []⟩ (valueOf payload.members info.uid) (.str rendered))
    (hok : blockLines {} 3 uid ⟨{ uid }, [⟨info, [], []⟩]⟩ payload = .ok lines)
    (hline : (Text.lines rendered).head? = some line)
    (hnot : ¬ Text.Within (Text.strip line) (Text.strip (Text.joinWith "\n" lines))) :
    BlockOf.Hides ⟨{ uid }, [⟨info, [], []⟩]⟩ payload :=
  ⟨⟨info, [], []⟩, List.mem_cons_self, .str rendered, lines, line, hfilled, hok,
    hline, hnot⟩

/-- A list of titles or descriptions does not show, nor does a text with another rendering, nor a
list or a number in place of the title of a block. -/
theorem ContentType.render_shows_ne :
    let text : FieldInfo := { uid := "title", dataType := some "text", multiple := true }
    let number : FieldInfo := { uid := "title", dataType := some "number" }
    let page (field : FieldInfo) : ContentType := { fields := [⟨field, [], []⟩] }
    let hero : BlockDefinition := ⟨{ uid := "hero" }, [⟨{ text with mandatory := true }, [], []⟩]⟩
    (page text).Hides (.obj [("title", .arr [.str "a", .str "b"])]) ∧
    (page { text with uid := "meta_description" }).Hides
      (.obj [("meta_description", .arr [.str "a"])]) ∧
    (page number).Hides (.obj [("title", .str "1234")]) ∧
    hero.Hides (.obj [("title", .arr [.str "a"])]) ∧ hero.Hides (.obj [("title", .int 5)]) := by
  intro text number page hero
  refine ⟨.intro "\x60a\x60 · \x60b\x60" "" rfl ⟨by decide, rfl, rfl⟩ ?_ ?_,
    .intro "\x60a\x60" "" rfl ⟨by decide, rfl, rfl⟩ ?_ ?_,
    .intro "1,234" "# 1234" rfl ⟨by decide, ?_, rfl⟩ ?_ ?_,
    .intro "\x60a\x60" "\x60a\x60" ["### hero", ""] ⟨by decide, rfl, rfl⟩ ?_ ?_ ?_,
    .intro "5" "5" ["### hero", ""] ⟨by decide, rfl, rfl⟩ ?_ ?_ ?_⟩
  all_goals decide +kernel

end ContentModel
