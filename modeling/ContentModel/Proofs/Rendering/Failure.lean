import ContentModel.Proofs.Rendering.Congruence
import ContentModel.Proofs.Rendering.Written

/-!
# Entries that cannot be rendered

Which entries the default formatters leave without a document, on a runtime with its limits.

* `BlockOf.Stumbles`, `Field.Stumbles` and `ContentType.Stumbles` list the places where a rendering
  ends in an error;
* there is one lemma for every part of a rendering that is checked, by recursion on its fields or
  items, up to `Field.fails_checkStructured_iff`;
* `Field.fails_checkStructured_of_fails` says that a part without a rendering is refused by its
  check;
* `ContentType.renderWithin_ok_iff` says that the places are all.
-/

namespace ContentModel

open Rendering

/-! ## Places -/

/-- The variant of an item of a blocks field: the first with its tag. -/
def Json.variant? (blocks : List BlockDefinition) (item : Json) : Option BlockDefinition :=
  item.tag?.bind fun key => blocks.find? fun block => block.uid = key

/-- A payload ends a rendering. -/
inductive BlockOf.Stumbles (room : Nat) (options : RenderOptions) (block : BlockDefinition)
    (payload : Json) : Prop
  /-- For its quotation or the source of it. -/
  | quote {part : Json} (uid : block.uid = "quote") (mem : part ∈ quoteParts payload.members)
      (overtaxed : part.Overtaxes room)
  /-- For the title or uid of a shared field. -/
  | shared {part : Json} (uid : block.uid ≠ "quote") (kind : block.isReference = true)
      (mem : part ∈ sharedParts payload) (overtaxed : part.Overtaxes room)
  /-- For a field that is shown. -/
  | field {field : Field} (uid : block.uid ≠ "quote") (kind : block.isReference = false)
      (mem : field ∈ block.fields) (shown : hidden options field.uid = false)
      (untitled : (block.titleField.map fun title => title.uid) ≠ some field.uid)
      (line : field.StumblesInLine room options (valueOf payload.members field.uid))

/-- A group or blocks field ends the rendering of its value, with the room that is left. -/
inductive Field.Stumbles (options : RenderOptions) : Nat → Field → Json → Prop
  /-- In a cell of an instance of a repeatable group. -/
  | cell {room : Nat} {field child : Field} {items : List Json} {item : Json}
      (kind : field.isGroup = true) (multiple : field.multiple = true) (mem : item ∈ items)
      (column : child ∈ columns options field.fields)
      (cell : child.StumblesInCell room options (valueOf item.members child.uid)) :
      Field.Stumbles options room field (.arr items)
  /-- In a row of a group that is shown as a table. -/
  | row {room : Nat} {field child : Field} {value : Json} (kind : field.isGroup = true)
      (single : field.multiple = false)
      (table : (field.hasNestedGroups || !options.useTables) = false)
      (mem : child ∈ field.fields) (shown : hidden options child.uid = false)
      (row : child.StumblesInRow room options (valueOf value.members child.uid)) :
      Field.Stumbles options room field value
  /-- In a line of a group that is shown as sections. -/
  | line {room : Nat} {field child : Field} {value : Json} (kind : field.isGroup = true)
      (single : field.multiple = false)
      (sections : (field.hasNestedGroups || !options.useTables) = true)
      (mem : child ∈ field.fields) (shown : hidden options child.uid = false)
      (plain : (child.isGroup || child.isBlocks) = false)
      (line : child.StumblesInLine room options (valueOf value.members child.uid)) :
      Field.Stumbles options room field value
  /-- In a group or blocks field of a group. -/
  | nested {room : Nat} {field child : Field} {value : Json} (kind : field.isGroup = true)
      (single : field.multiple = false) (mem : child ∈ field.fields)
      (shown : hidden options child.uid = false)
      (container : (child.isGroup || child.isBlocks) = true) (enough : callsPerGroup ≤ room)
      (stumbles : Field.Stumbles options (room - callsPerGroup) child
        (valueOf value.members child.uid)) :
      Field.Stumbles options room field value
  /-- At a group or blocks field of a group for which no room is left. -/
  | deep {room : Nat} {field child : Field} {value : Json} (kind : field.isGroup = true)
      (single : field.multiple = false) (mem : child ∈ field.fields)
      (shown : hidden options child.uid = false)
      (container : (child.isGroup || child.isBlocks) = true)
      (kept : skipped options (valueOf value.members child.uid) = false)
      (deep : room < callsPerGroup) : Field.Stumbles options room field value
  /-- In a payload of modular blocks. -/
  | block {room : Nat} {field : Field} {items : List Json} {item : Json}
      {block : BlockDefinition} (kind : field.isBlocks = true) (mem : item ∈ items)
      (variant : item.variant? field.blocks = some block)
      (stumbles : block.Stumbles room options (valueOf item.members block.uid)) :
      Field.Stumbles options room field (.arr items)

/-- A field of an entry ends the rendering of its value. The rendering of a file is joined with the
lines of the entry as it is, other renderings are put into a line. -/
def Field.StumblesAlone (room : Nat) (options : RenderOptions) (field : Field) (value : Json) :
    Prop :=
  if field.isGroup || field.isBlocks then field.Stumbles options room value
  else if field.kind = some .file then field.StumblesInCell room options value
  else field.StumblesInLine room options value

/-- A field of an entry that is shown ends the rendering of its value. -/
def ContentType.Stumbles (room : Nat) (contentType : ContentType) (options : RenderOptions)
    (entry : Json) : Prop :=
  ∃ field ∈ contentType.fields, field.uid ≠ options.titleField ∧
    field.uid ≠ options.descriptionField ∧ hidden options field.uid = false ∧
    skipped options (valueOf entry.members field.uid) = false ∧
    field.StumblesAlone room options (valueOf entry.members field.uid)

namespace Rendering

variable {room : Nat} {options : RenderOptions} {members : Members} {fields : List Field}

/-! ## Blocks that are refused -/

section Formatters

variable (hdate : options.formatDate = Formatter.date)
  (hnumber : options.formatNumber = Formatter.number)

include hdate hnumber

theorem fails_checkInstance_iff {item : Json} :
    Fails (checkInstance room options fields item) ↔ ∃ child ∈ columns options fields,
      child.StumblesInCell room options (valueOf item.members child.uid) := by
  simp only [checkInstance, fails_forM_iff, fails_checkCell_iff_stumbles hdate hnumber]

theorem fails_checkBlockField_iff {title : Option String} {field : Field} :
    Fails (checkBlockField room options members title field) ↔
      hidden options field.uid = false ∧ title ≠ some field.uid ∧
        field.StumblesInLine room options (valueOf members field.uid) := by
  unfold checkBlockField
  dsimp only
  cases hhidden : hidden options field.uid with
  | true => simp
  | false =>
    by_cases htitle : title = some field.uid
    · simp [htitle]
    · cases hskip : skipped options (valueOf members field.uid) with
      | true => simp [not_of_skipped hskip FieldInfo.StumblesInLine.isEmptyValue_eq]
      | false => simp [htitle, fails_checkLine_iff_stumbles hdate hnumber]

theorem fails_checkBlock_iff {block : BlockDefinition} {payload : Json} :
    Fails (checkBlock room options block.uid block payload) ↔
      block.Stumbles room options payload := by
  unfold checkBlock
  by_cases hquote : block.uid = "quote"
  · simp only [hquote, if_true, checkAll, fails_forM_iff, Json.fails_checkWritten_iff]
    constructor
    · rintro ⟨part, hpart, hover⟩
      exact .quote hquote hpart hover
    · rintro (⟨-, hpart, hover⟩ | ⟨hnot, -, -, -⟩ | ⟨hnot, -, -, -, -, -⟩)
      · exact ⟨_, hpart, hover⟩
      · exact absurd hquote hnot
      · exact absurd hquote hnot
  · rw [if_neg hquote]
    cases hreference : block.isReference with
    | true =>
      simp only [if_true, checkAll, fails_forM_iff, Json.fails_checkWritten_iff]
      constructor
      · rintro ⟨part, hpart, hover⟩
        exact .shared hquote hreference hpart hover
      · rintro (⟨huid, -, -⟩ | ⟨-, -, hpart, hover⟩ | ⟨-, hplain, -, -, -, -⟩)
        · exact absurd huid hquote
        · exact ⟨_, hpart, hover⟩
        · exact absurd (hplain.symm.trans hreference) Bool.false_ne_true
    | false =>
      simp only [Bool.false_eq_true, if_false, fails_forM_iff,
        fails_checkBlockField_iff hdate hnumber]
      constructor
      · rintro ⟨field, hfield, hshown, huntitled, hline⟩
        exact .field hquote hreference hfield hshown huntitled hline
      · rintro (⟨huid, -, -⟩ | ⟨-, hshared, -, -⟩ | ⟨-, -, hfield, hshown, huntitled, hline⟩)
        · exact absurd huid hquote
        · exact absurd (hreference.symm.trans hshared) Bool.false_ne_true
        · exact ⟨_, hfield, hshown, huntitled, hline⟩

theorem fails_checkItem_iff {blocks : List BlockDefinition} {item : Json} :
    Fails (checkItem room options blocks item) ↔
      ∃ block, item.variant? blocks = some block ∧
        block.Stumbles room options (valueOf item.members block.uid) := by
  unfold checkItem BlockMatch.of Json.variant?
  cases hkey : item.tag? with
  | none => simp
  | some key =>
    rcases BlockMatch.find_cases key 0 blocks with
      ⟨i, block, -, hfound, hfind⟩ | ⟨hnone, hfind⟩
    · obtain rfl : block.uid = key := by simpa using List.find?_some hfound
      simp only [hfind, Option.bind_some, hfound, Option.some.injEq, exists_eq_left']
      exact fails_checkBlock_iff hdate hnumber
    · simp [hfind, hnone]

end Formatters

end Rendering

/-! ## Groups that are refused -/

namespace Field

variable {room : Nat} {options : RenderOptions} {field : Field} {fields : List Field} {value : Json}

/-- An object with a member that is not left out is not left out either. -/
theorem skipped_of_member {uid : String} (h : skipped options (valueOf value.members uid) = false) :
    skipped options value = false := by
  cases value with
  | obj members => exact Bool.and_false _
  | _ =>
    have hkept : (options.skipEmpty && true) = false := h
    rw [skipped, (Bool.and_true _).symm.trans hkept, Bool.false_and]

/-- What a group or blocks field stumbles on is not left out. -/
theorem Stumbles.skipped_eq (h : field.Stumbles options room value) :
    skipped options value = false := by
  have hfilled {value : Json} (h : value.isEmptyValue = false) : skipped options value = false := by
    rw [skipped, h, Bool.and_false]
  induction h with
  | cell _ _ mem => cases mem <;> exact hfilled rfl
  | row _ _ _ _ _ row => exact skipped_of_member (hfilled row.isEmptyValue_eq)
  | line _ _ _ _ _ _ line => exact skipped_of_member (hfilled line.isEmptyValue_eq)
  | nested _ _ _ _ _ _ _ ih => exact skipped_of_member ih
  | deep _ _ _ _ _ kept => exact skipped_of_member kept
  | block _ mem => cases mem <;> exact hfilled rfl

theorem stumbles_blocks_iff (hblocks : field.isBlocks = true) :
    field.Stumbles options room value ↔ ∃ item ∈ itemsOf value, ∃ block,
      item.variant? field.blocks = some block ∧
        block.Stumbles room options (valueOf item.members block.uid) := by
  have hnot : ¬ field.isGroup = true := fun h => by simp [isBlocks_of_isGroup h] at hblocks
  constructor
  · intro h
    cases h with
    | block _ mem variant stumbles => exact ⟨_, mem, _, variant, stumbles⟩
    | cell kind => exact absurd kind hnot
    | row kind => exact absurd kind hnot
    | line kind => exact absurd kind hnot
    | nested kind => exact absurd kind hnot
    | deep kind => exact absurd kind hnot
  · rintro ⟨item, mem, block, variant, stumbles⟩
    cases value with
    | arr items => exact .block hblocks mem variant stumbles
    | _ => cases mem

theorem stumbles_instances_iff (hgroup : field.isGroup = true) (hmultiple : field.multiple = true) :
    field.Stumbles options room value ↔ ∃ item ∈ itemsOf value,
      ∃ child ∈ columns options field.fields,
        child.StumblesInCell room options (valueOf item.members child.uid) := by
  constructor
  · intro h
    cases h with
    | cell _ _ mem column cell => exact ⟨_, mem, _, column, cell⟩
    | row _ single => simp [hmultiple] at single
    | line _ single => simp [hmultiple] at single
    | nested _ single => simp [hmultiple] at single
    | deep _ single => simp [hmultiple] at single
    | block kind => simp [isBlocks_of_isGroup hgroup] at kind
  · rintro ⟨item, mem, child, column, cell⟩
    cases value with
    | arr items => exact .cell hgroup hmultiple mem column cell
    | _ => cases mem

/-- What ends the rendering of a group that is shown as sections at one of its fields. -/
def StumblesInSection (room : Nat) (options : RenderOptions) (members : Members) (child : Field) :
    Prop :=
  hidden options child.uid = false ∧
    if child.isGroup || child.isBlocks then
      skipped options (valueOf members child.uid) = false ∧
        (room < callsPerGroup ∨ callsPerGroup ≤ room ∧
          child.Stumbles options (room - callsPerGroup) (valueOf members child.uid))
    else child.StumblesInLine room options (valueOf members child.uid)

theorem stumbles_sections_iff (hgroup : field.isGroup = true) (hsingle : field.multiple = false)
    (hsections : (field.hasNestedGroups || !options.useTables) = true) :
    field.Stumbles options room value ↔
      ∃ child ∈ field.fields, child.StumblesInSection room options value.members := by
  unfold StumblesInSection
  constructor
  · intro h
    cases h with
    | cell _ multiple => simp [hsingle] at multiple
    | row _ _ table => exact absurd (table.symm.trans hsections) Bool.false_ne_true
    | line _ _ _ mem shown plain line =>
      exact ⟨_, mem, shown, by rwa [if_neg (by simpa using plain)]⟩
    | nested _ _ mem shown container enough stumbles =>
      refine ⟨_, mem, shown, ?_⟩
      rw [if_pos container]
      exact ⟨stumbles.skipped_eq, Or.inr ⟨enough, stumbles⟩⟩
    | deep _ _ mem shown container kept deep =>
      refine ⟨_, mem, shown, ?_⟩
      rw [if_pos container]
      exact ⟨kept, Or.inl deep⟩
    | block kind => simp [isBlocks_of_isGroup hgroup] at kind
  · rintro ⟨child, mem, shown, h⟩
    cases hcontainer : child.isGroup || child.isBlocks with
    | true =>
      rw [if_pos hcontainer] at h
      obtain ⟨kept, deep | ⟨enough, stumbles⟩⟩ := h
      · exact .deep hgroup hsingle mem shown hcontainer kept deep
      · exact .nested hgroup hsingle mem shown hcontainer enough stumbles
    | false =>
      exact .line hgroup hsingle hsections mem shown hcontainer (by simpa [hcontainer] using h)

theorem stumbles_table_iff (hgroup : field.isGroup = true) (hsingle : field.multiple = false)
    (htable : (field.hasNestedGroups || !options.useTables) = false) :
    field.Stumbles options room value ↔ ∃ child ∈ field.fields, hidden options child.uid = false ∧
      child.StumblesInRow room options (valueOf value.members child.uid) := by
  have hplain {child : Field} (mem : child ∈ field.fields) :
      ¬ (child.isGroup || child.isBlocks) = true := by
    intro container
    have hnested : field.hasNestedGroups = true := List.any_eq_true.2 ⟨_, mem, container⟩
    simp [hnested] at htable
  constructor
  · intro h
    cases h with
    | cell _ multiple => simp [hsingle] at multiple
    | row _ _ _ mem shown row => exact ⟨_, mem, shown, row⟩
    | line _ _ hsections => exact absurd (htable.symm.trans hsections) Bool.false_ne_true
    | nested _ _ mem _ container => exact absurd container (hplain mem)
    | deep _ _ mem _ container => exact absurd container (hplain mem)
    | block kind => simp [isBlocks_of_isGroup hgroup] at kind
  · rintro ⟨child, mem, shown, row⟩
    exact .row hgroup hsingle htable mem shown row

/-! ### The checks of the parts of a group -/

theorem checkStructured_blocks (hkind : field.isBlocks = true) :
    field.checkStructured options room value =
      (itemsOf value).forM (checkItem room options field.blocks) := by
  obtain ⟨info, fields, blocks⟩ := field
  rw [checkStructured, if_pos hkind]

theorem checkStructured_instances (hkind : field.isGroup = true)
    (hmultiple : field.multiple = true) : field.checkStructured options room value =
      (itemsOf value).forM (checkInstance room options field.fields) := by
  obtain ⟨info, fields, blocks⟩ := field
  have hblocks : ¬ info.isBlocks = true := by simp_all [FieldInfo.isGroup, FieldInfo.isBlocks]
  rw [checkStructured, if_neg hblocks, if_pos hmultiple]

theorem checkStructured_single (hkind : field.isGroup = true) (hsingle : field.multiple = false) :
    field.checkStructured options room value =
      if field.hasNestedGroups || !options.useTables then
        checkLines options room value.members field.fields
      else field.fields.forM (checkRow room options value.members) := by
  obtain ⟨info, fields, blocks⟩ := field
  have hblocks : ¬ info.isBlocks = true := by simp_all [FieldInfo.isGroup, FieldInfo.isBlocks]
  rw [checkStructured, if_neg hblocks, if_neg (by simpa using hsingle)]
  rfl

section Formatters

variable (hdate : options.formatDate = Formatter.date)
  (hnumber : options.formatNumber = Formatter.number)

include hdate hnumber

/-- The lines of a group are refused for a plain field, or for a group or blocks field that is
refused or for which no room is left. -/
theorem fails_checkLines_iff (room : Nat) (members : Members)
    (ih : ∀ field ∈ fields, (field.isGroup || field.isBlocks) = true → ∀ room value,
      Fails (field.checkStructured options room value) ↔ field.Stumbles options room value) :
    Fails (checkLines options room members fields) ↔
      ∃ field ∈ fields, field.StumblesInSection room options members := by
  induction fields with
  | nil => exact iff_of_false (not_fails_ok ()) (by simp)
  | cons field rest ihRest =>
    have hrest := ihRest fun child hchild => ih child (List.mem_cons_of_mem _ hchild)
    simp only [List.mem_cons, exists_eq_or_imp]
    rw [checkLines, ← hrest, StumblesInSection]
    cases hhidden : hidden options field.uid with
    | true => simp
    | false =>
      cases hcontainer : field.isGroup || field.isBlocks with
      | true =>
        have hfield := ih field List.mem_cons_self hcontainer
        cases hskip : skipped options (valueOf members field.uid) with
        | true => simp
        | false =>
          by_cases henough : callsPerGroup ≤ room
          · simp [henough, Nat.not_lt.2 henough, fails_then, hfield]
          · simp [henough, Nat.lt_of_not_le henough]
      | false =>
        cases hskip : skipped options (valueOf members field.uid) with
        | true => simp [not_of_skipped hskip FieldInfo.StumblesInLine.isEmptyValue_eq]
        | false => simp [fails_then, fails_checkLine_iff_stumbles hdate hnumber]

/-- **Refused groups and blocks.** By the default formatters, a group or blocks field is refused
just where it stumbles. -/
theorem fails_checkStructured_iff (room : Nat) (value : Json)
    (hcontainer : (field.isGroup || field.isBlocks) = true) :
    Fails (field.checkStructured options room value) ↔ field.Stumbles options room value := by
  induction field using Field.induct generalizing room value with
  | node info fields blocks ihFields _ =>
    cases hblocks : info.isBlocks with
    | true =>
      rw [checkStructured_blocks hblocks, stumbles_blocks_iff hblocks]
      simp only [fails_forM_iff, fails_checkItem_iff hdate hnumber]
    | false =>
      have hgroup : info.isGroup = true := by simpa [hblocks] using hcontainer
      cases hmultiple : info.multiple with
      | true =>
        rw [checkStructured_instances hgroup hmultiple, stumbles_instances_iff hgroup hmultiple]
        simp only [fails_forM_iff, fails_checkInstance_iff hdate hnumber]
      | false =>
        rw [checkStructured_single hgroup hmultiple]
        split
        · next hsections =>
          rw [stumbles_sections_iff hgroup hmultiple hsections]
          exact fails_checkLines_iff hdate hnumber room value.members
            fun child hchild hcontainer room value => ihFields child hchild room value hcontainer
        · next htable =>
          rw [stumbles_table_iff hgroup hmultiple (by simpa using htable)]
          simp only [fails_forM_iff, fails_checkRow_iff hdate hnumber]

end Formatters

end Field

/-! ## Parts without a rendering -/

namespace Rendering

variable {options : RenderOptions} {members : Members} {fields : List Field} {value : Json}

section Room

variable (room : Nat)

theorem fails_checkCell_of_fails {field : FieldInfo}
    (h : Fails ((primitive options field value).bind cellText)) :
    Fails (checkCell room options field value) := fails_checkCell_iff.2 (Or.inr h)

theorem fails_checkLine_of_fails {field : FieldInfo} (h : Fails (primitive options field value)) :
    Fails (checkLine room options field value) := fails_checkLine_iff.2 (Or.inr (Or.inl h))

theorem fails_checkInstance_of_fails {item : Json}
    (h : Fails (instanceCells options item.members (columns options fields))) :
    Fails (checkInstance room options fields item) := by
  unfold checkInstance
  generalize columns options fields = shown at h ⊢
  induction shown with
  | nil => exact absurd h (not_fails_ok [])
  | cons field rest ih =>
    rw [instanceCells] at h
    rw [fails_forM_cons]
    split at h
    · exact Or.inr (ih ((fails_seq.1 h).resolve_left (not_fails_ok "")))
    · exact (fails_seq.1 h).imp (fails_checkCell_of_fails room) ih

theorem fails_checkInstances_of_fails (h : Fails (instanceTable options fields value)) :
    Fails ((itemsOf value).forM (checkInstance room options fields)) := by
  have hrows {items : List Json} (h : Fails (instanceRows options (columns options fields) items)) :
      Fails (items.forM (checkInstance room options fields)) := by
    induction items with
    | nil => exact absurd h (not_fails_ok [])
    | cons item rest ih =>
      rw [instanceRows] at h
      rw [fails_forM_cons]
      exact (fails_seq.1 h).imp (fails_checkInstance_of_fails room) ih
  unfold instanceTable at h
  split at h
  · exact absurd h (not_fails_ok "")
  · dsimp only at h
    split at h
    · exact absurd h (not_fails_ok "")
    · exact hrows (by simpa [itemsOf] using h)
  · exact absurd h (not_fails_ok "")

/-- A field of a group fails in its row, or the rest of the table does. -/
theorem fails_row_of_fails {α : Type} {field : FieldInfo} {rest : Except RenderError α}
    {f : String → α → α}
    (h : Fails (do
      let rendered ← primitive options field value
      if rendered.isTruthy then
        let cell ← cellText rendered
        let others ← rest
        return f cell others
      else rest)) :
    Fails (checkCell room options field value) ∨ Fails rest := by
  rw [fails_checkCell_iff]
  cases hrendered : primitive options field value with
  | error error => exact Or.inl (Or.inr (fails_error error))
  | ok rendered =>
    rw [hrendered] at h
    change Fails (if rendered.isTruthy then _ else _) at h
    split at h
    · exact (fails_seq.1 h).imp_left Or.inr
    · exact Or.inr h

theorem fails_checkRows_of_fails (h : Fails (groupTable options members fields)) :
    Fails (fields.forM (checkRow room options members)) := by
  have hparts : Fails (tableParts options members fields) := by simpa [groupTable] using h
  clear h
  induction fields with
  | nil => exact absurd hparts (not_fails_ok _)
  | cons field rest ih =>
    rw [tableParts] at hparts
    rw [fails_forM_cons, checkRow]
    dsimp only at hparts ⊢
    split at hparts
    · exact Or.inr (ih hparts)
    · next hshown =>
      rw [if_neg hshown]
      split at hparts
      · exact Or.inr (ih (by simpa using hparts))
      · next hcell =>
        rw [if_neg hcell]
        exact (fails_row_of_fails room hparts).imp_right ih

theorem fails_checkBlockFields_of_fails {title : Option String}
    (h : Fails (blockFieldLines options members title fields)) :
    Fails (fields.forM (checkBlockField room options members title)) := by
  induction fields with
  | nil => exact absurd h (not_fails_ok [])
  | cons field rest ih =>
    rw [blockFieldLines] at h
    rw [fails_forM_cons, checkBlockField]
    split at h
    · exact Or.inr (ih h)
    · next hshown =>
      rw [if_neg hshown]
      exact (fails_seq.1 h).imp (fails_checkLine_of_fails room) ih

theorem fails_checkBlock_of_fails {key : String} {block : BlockDefinition} {payload : Json}
    (h : Fails (blockBody options key block payload)) :
    Fails (checkBlock room options key block payload) := by
  unfold blockBody at h
  unfold checkBlock
  split at h
  · exact absurd h (not_fails_ok _)
  · next hquote =>
    rw [if_neg hquote]
    split at h
    · exact absurd h (not_fails_ok _)
    · next hreference =>
      rw [if_neg hreference]
      exact fails_checkBlockFields_of_fails room h

theorem fails_checkItem_of_fails {level : Int} {blocks : List BlockDefinition} {item : Json}
    (h : Fails (itemSection options level blocks item)) :
    Fails (checkItem room options blocks item) := by
  unfold itemSection at h
  unfold checkItem
  cases hmatch : BlockMatch.of item blocks with
  | variant key index block payload =>
    simp only [hmatch, fails_map, blockLines_eq] at h
    exact fails_checkBlock_of_fails room h
  | unknown key payload =>
    simp only [hmatch] at h
    exact absurd h (not_fails_ok _)

theorem fails_checkItems_of_fails {level : Int} {blocks : List BlockDefinition}
    (h : Fails (blocksText options level blocks value)) :
    Fails ((itemsOf value).forM (checkItem room options blocks)) := by
  have hsections {items : List Json} (h : Fails (blockSections options level blocks items)) :
      Fails (items.forM (checkItem room options blocks)) := by
    induction items with
    | nil => exact absurd h (not_fails_ok [])
    | cons item rest ih =>
      rw [blockSections_cons] at h
      rw [fails_forM_cons]
      cases hitem : itemSection options level blocks item with
      | error error => exact Or.inl (fails_checkItem_of_fails room ⟨error, hitem⟩)
      | ok lines =>
        rw [hitem] at h
        exact Or.inr (ih (fails_map.1 h))
  cases value with
  | arr items => exact hsections (by simpa [blocksText, itemsOf] using h)
  | _ => exact absurd h (not_fails_ok "")

end Room

end Rendering

namespace Field

variable {options : RenderOptions} {field : Field} {fields : List Field}

theorem fails_checkLines_of_fails {level : Int} {members : Members} (room : Nat)
    (ih : ∀ field ∈ fields, (field.isGroup || field.isBlocks) = true → ∀ room level value,
      Fails (field.structured options level value) →
        Fails (field.checkStructured options room value))
    (h : Fails (groupLines options level members fields)) :
    Fails (checkLines options room members fields) := by
  induction fields with
  | nil => exact absurd h (not_fails_ok [])
  | cons field rest ihRest =>
    have hrest := ihRest fun child hchild => ih child (List.mem_cons_of_mem _ hchild)
    rw [groupLines] at h
    rw [checkLines]
    split at h
    · next hhidden =>
      rw [if_pos hhidden]
      exact hrest h
    · next hshown =>
      rw [if_neg hshown]
      split at h
      · next hcontainer =>
        rw [if_pos hcontainer]
        split
        · rw [fails_then]
          exact (fails_seq.1 h).imp (ih field List.mem_cons_self hcontainer _ level _) hrest
        · exact fails_error _
      · next hplain =>
        rw [if_neg hplain, fails_then]
        exact (fails_seq.1 h).imp (fails_checkLine_of_fails room) hrest

/-- A group or blocks field whose rendering fails is refused. -/
theorem fails_checkStructured_of_fails {level : Int} {value : Json} (room : Nat)
    (hcontainer : (field.isGroup || field.isBlocks) = true)
    (h : Fails (field.structured options level value)) :
    Fails (field.checkStructured options room value) := by
  induction field using Field.induct generalizing room level value with
  | node info fields blocks ihFields _ =>
    cases hblocks : info.isBlocks with
    | true =>
      rw [structured_blocks level hblocks] at h
      rw [checkStructured_blocks hblocks]
      exact fails_checkItems_of_fails room h
    | false =>
      have hgroup : info.isGroup = true := by simpa [hblocks] using hcontainer
      cases hmultiple : info.multiple with
      | true =>
        rw [structured_instances level hgroup hmultiple] at h
        rw [checkStructured_instances hgroup hmultiple]
        exact fails_checkInstances_of_fails room h
      | false =>
        rw [structured_single level hgroup hmultiple] at h
        rw [checkStructured_single hgroup hmultiple]
        split at h
        · next hsections =>
          rw [if_pos hsections]
          exact fails_checkLines_of_fails room
            (fun child hchild hcontainer room level value => ihFields child hchild room hcontainer)
            (by simpa using h)
        · next htable =>
          rw [if_neg htable]
          exact fails_checkRows_of_fails room h

end Field

/-! ## Entries -/

namespace Rendering

/-- Lines that cannot be joined to a text. -/
def Unjoined (lines : Except RenderError (List Json)) : Prop := Fails (lines >>= joinTexts "\n")

theorem unjoined_error (error : RenderError) : Unjoined (.error error) := fails_error error

theorem unjoined_ok_iff {lines : List Json} :
    Unjoined (.ok lines) ↔ ∃ line ∈ lines, ∀ text, line ≠ .str text :=
  fails_joinTexts_iff "\n"

theorem unjoined_append {lines others : Except RenderError (List Json)} :
    Unjoined (do let first ← lines; let rest ← others; return first ++ rest) ↔
      Unjoined lines ∨ Unjoined others := by
  cases lines with
  | error error => exact iff_of_true (unjoined_error error) (Or.inl (unjoined_error error))
  | ok first =>
    cases others with
    | error error => exact iff_of_true (unjoined_error error) (Or.inr (unjoined_error error))
    | ok rest =>
      change Unjoined (.ok (first ++ rest)) ↔ _
      simp only [unjoined_ok_iff, List.mem_append, or_and_right, exists_or]

variable {room : Nat} {options : RenderOptions} {members : Members} {fields : List Field}
  {field : Field} {value : Json}

theorem textLines_texts {key : String} {line : String → String} :
    ∀ shown ∈ textLines members key line, ∃ text, shown = .str text := by
  unfold textLines
  split
  · split <;> simp
  · simp

theorem entryFieldLines_str_texts (field : FieldInfo) (level : Int) (shown : String) :
    ∀ line ∈ entryFieldLines field level (.str shown), ∃ text, line = .str text := by
  unfold entryFieldLines
  split
  · simp
  · split <;> simp

/-- The lines of a field hold its rendering itself if it is a file or rich text. -/
theorem unjoined_entryFieldLines_iff {field : FieldInfo} {rendered : Json}
    (hnonText : NonText rendered) (level : Int) :
    Unjoined (.ok (entryFieldLines field level rendered)) ↔
      field.kind = some .file ∨ field.isJsonRte = true := by
  rw [unjoined_ok_iff]
  unfold entryFieldLines
  by_cases h : field.kind = some .file ∨ field.isJsonRte = true
  · rw [if_pos (by simpa using h)]
    exact iff_of_true ⟨rendered, by simp, hnonText.2⟩ h
  · rw [if_neg (by simpa using h)]
    refine iff_of_false ?_ h
    split <;> simp

theorem NamedByNonText.isJsonRte_eq {field : FieldInfo} {value : Json}
    (h : NamedByNonText field.kind value) : field.isJsonRte = false := by
  unfold FieldInfo.isJsonRte
  cases h' : field.kind == some .json with
  | false => rfl
  | true =>
    rw [beq_iff_eq.1 h'] at h
    cases h

/-- The lines of a group or blocks field cannot be joined if there are none. -/
theorem fails_checkStructured_of_unjoined (room : Nat)
    (hcontainer : (field.isGroup || field.isBlocks) = true)
    (h : Unjoined (entryField options value field)) :
    Fails (field.checkStructured options room value) := by
  unfold entryField at h
  rw [if_pos hcontainer] at h
  cases htext : field.structured options options.sectionLevel value with
  | error error => exact field.fails_checkStructured_of_fails room hcontainer ⟨error, htext⟩
  | ok text =>
    rw [htext] at h
    change Unjoined (.ok _) at h
    simp [unjoined_ok_iff] at h

section Formatters

variable (hdate : options.formatDate = Formatter.date)
  (hnumber : options.formatNumber = Formatter.number)

include hdate hnumber

/-- The lines of a plain field cannot be joined if its value is unshowable, or a file that is named
by what is no text. -/
theorem unjoined_entryField_iff (hplain : (field.isGroup || field.isBlocks) = false) :
    Unjoined (entryField options value field) ↔
      field.Unshowable value ∨ field.kind = some .file ∧ NamedByNonText field.kind value := by
  unfold entryField
  rw [if_neg (by simp [hplain])]
  have hshows := field.primitive_shows hdate hnumber value
  generalize primitive options field.toFieldInfo value = rendering at hshows
  cases hshows with
  | failed error h => exact iff_of_true (unjoined_error error) (Or.inl h)
  | @named _ _ rendered hshowable h hnonText =>
    change Unjoined (.ok (if rendered.isTruthy then _ else _)) ↔ _
    rw [if_pos hnonText.1, unjoined_entryFieldLines_iff hnonText, h.isJsonRte_eq]
    simp [hshowable, h]
  | text text hshowable h =>
    change Unjoined (.ok (if (Json.str text).isTruthy then _ else _)) ↔ _
    rw [unjoined_ok_iff]
    refine iff_of_false ?_ fun hor => hor.elim hshowable fun hfile => h hfile.2
    rintro ⟨line, hline, hnot⟩
    split at hline
    · obtain ⟨shown, hshown⟩ := entryFieldLines_str_texts _ _ text line hline
      exact hnot shown hshown
    · cases hline

/-- A field that is shown is refused, or its lines cannot be joined, just where it stumbles. -/
theorem fails_checkAlone_or_unjoined_iff :
    Fails (checkAlone room options value field) ∨ Unjoined (entryField options value field) ↔
      field.StumblesAlone room options value := by
  unfold checkAlone Field.StumblesAlone
  cases hcontainer : field.isGroup || field.isBlocks with
  | true =>
    rw [if_pos rfl, if_pos rfl,
      ← field.fails_checkStructured_iff hdate hnumber room value hcontainer]
    exact or_iff_left_of_imp (fails_checkStructured_of_unjoined room hcontainer)
  | false =>
    rw [if_neg Bool.false_ne_true, if_neg Bool.false_ne_true,
      unjoined_entryField_iff hdate hnumber hcontainer]
    by_cases hfile : field.kind = some .file
    · rw [if_pos hfile, if_pos hfile, fails_then, fails_primitiveWithin_iff,
        (field.primitive_shows hdate hnumber value).fails_iff, FieldInfo.StumblesInCell,
        FieldInfo.Unwritable]
      have hend : ¬ Fails (pure () : Except RenderError Unit) := not_fails_ok ()
      simp only [hfile, hend, true_and, or_false, or_assoc, or_self_left]
    · rw [if_neg hfile, if_neg hfile, fails_checkLine_iff_stumbles hdate hnumber,
        FieldInfo.StumblesInLine]
      simp only [hfile, false_and, or_false]
      exact or_iff_left_of_imp fun h => Or.inr (Or.inl h)

end Formatters

/-- The fields of an entry that are shown below its title and description. -/
def IsShown (options : RenderOptions) (members : Members) (field : Field) : Prop :=
  field.uid ≠ options.titleField ∧ field.uid ≠ options.descriptionField ∧
    hidden options field.uid = false ∧ skipped options (valueOf members field.uid) = false

theorem fails_checkField_iff : Fails (checkField room options members field) ↔
    IsShown options members field ∧
      Fails (checkAlone room options (valueOf members field.uid) field) := by
  unfold checkField IsShown
  dsimp only
  split
  · next h =>
    refine iff_of_false (not_fails_ok ()) ?_
    rintro ⟨⟨htitle, hdescription, hhidden, hskip⟩, -⟩
    simp [htitle, hdescription, hhidden, hskip] at h
  · next h => simp_all

theorem unjoined_entryFields_iff : Unjoined (entryFields options members fields) ↔
    ∃ field ∈ fields, IsShown options members field ∧
      Unjoined (entryField options (valueOf members field.uid) field) := by
  induction fields with
  | nil => simp [entryFields, unjoined_ok_iff]
  | cons field rest ih =>
    simp only [List.mem_cons, exists_eq_or_imp]
    rw [entryFields, ← ih]
    unfold IsShown
    split
    · next h =>
      refine (or_iff_right ?_).symm
      rintro ⟨⟨htitle, hdescription, hhidden, hskip⟩, -⟩
      simp [htitle, hdescription, hhidden, hskip] at h
    · next h =>
      rw [unjoined_append]
      simp_all

end Rendering

namespace ContentType

variable {room : Nat} {contentType : ContentType} {options : RenderOptions} {entry : Json}

/-- A rendering fails just where the lines of the fields that are shown cannot be joined. -/
theorem fails_render_iff : Fails (contentType.render options entry) ↔
    Unjoined (entryFields options entry.members contentType.fields) := by
  unfold render
  dsimp only
  cases entryFields options entry.members contentType.fields with
  | error error => exact iff_of_true (fails_error error) (unjoined_error error)
  | ok fields =>
    change Fails (joinTexts _ _ >>= fun text => pure (Text.strip text)) ↔ _
    simp only [bind_pure_comp, fails_functorMap, fails_joinTexts_iff, unjoined_ok_iff,
      List.mem_append]
    constructor
    · rintro ⟨line, (hline | hline) | hline, hnot⟩
      · obtain ⟨text, htext⟩ := textLines_texts line hline
        exact absurd htext (hnot text)
      · obtain ⟨text, htext⟩ := textLines_texts line hline
        exact absurd htext (hnot text)
      · exact ⟨line, hline, hnot⟩
    · rintro ⟨line, hline, hnot⟩
      exact ⟨line, Or.inr hline, hnot⟩

/-- Within the limits the document of an entry is the one that it has without them. -/
theorem render_of_renderWithin {text : String}
    (h : contentType.renderWithin room options entry = .ok text) :
    contentType.render options entry = .ok text := by
  unfold renderWithin at h
  cases hcheck : contentType.fields.forM (checkField room options entry.members) with
  | error error =>
    rw [hcheck] at h
    cases h
  | ok =>
    rw [hcheck] at h
    exact h

/-- **Entries without a document.** By the default formatters, an entry is rendered to a text just
when no field that is shown stumbles on its value. -/
theorem renderWithin_ok_iff (hdate : options.formatDate = Formatter.date)
    (hnumber : options.formatNumber = Formatter.number) :
    (∃ text, contentType.renderWithin room options entry = .ok text) ↔
      ¬ contentType.Stumbles room options entry := by
  rw [← not_fails_iff, renderWithin, fails_then, fails_forM_iff, fails_render_iff,
    unjoined_entryFields_iff]
  refine not_congr ?_
  have hfield (field : Field) :
      Fails (checkAlone room options (valueOf entry.members field.uid) field) ∨
          Unjoined (entryField options (valueOf entry.members field.uid) field) ↔
        field.StumblesAlone room options (valueOf entry.members field.uid) :=
    fails_checkAlone_or_unjoined_iff hdate hnumber
  simp only [fails_checkField_iff, Stumbles, ← hfield, ← exists_or, ← and_or_left, IsShown,
    and_assoc]

/-- A file without an address is joined with the lines by its name: a text will do, a number will
not. A text field does not show an integer of too many digits. -/
theorem renderWithin_ok_iff_file :
    let contentType : ContentType :=
      { fields := [⟨{ uid := "doc", dataType := some "file" }, [], []⟩,
          ⟨{ uid := "note", dataType := some "text" }, [], []⟩] }
    let file (title : Json) : Json := .obj [("doc", .obj [("title", title)])]
    let long : Json := .obj [("note", .int (10 ^ Digits.maxDigits : Nat))]
    (∀ entry ∈ [file (.int 5), long],
      ¬ ∃ text, contentType.renderWithin defaultRoom {} entry = .ok text) ∧
    ¬ contentType.Stumbles defaultRoom {} (file (.str "five")) := by
  intro contentType file long
  refine ⟨?_, (renderWithin_ok_iff rfl rfl).1 ⟨_, rfl⟩⟩
  have hstumbles : ∀ entry ∈ [file (.int 5), long],
      contentType.Stumbles defaultRoom {} entry := by
    refine List.forall_mem_cons.2 ⟨?_, List.forall_mem_singleton.2 ?_⟩
    · refine ⟨_, List.mem_cons_self, by decide, by decide, by decide, rfl, ?_⟩
      exact Or.inr (Or.inr (.file rfl ⟨rfl, nofun⟩))
    · refine ⟨_, List.mem_cons_of_mem _ List.mem_cons_self, by decide, by decide, by decide, rfl,
        ?_⟩
      exact Or.inl (.part List.mem_cons_self (.integer (Digits.isTooLong_iff.2 (Nat.le_refl _))))
  exact fun entry hentry hok => (renderWithin_ok_iff rfl rfl).1 hok (hstumbles entry hentry)

end ContentType

end ContentModel
