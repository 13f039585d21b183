import ContentModel.Proofs.Json.Form
import ContentModel.Proofs.Rendering.Validated

/-!
# System fields in the document of an entry

Unless the options ask for them, the document of an entry does not depend on what its records store
under system keys, but for the places where no field is looked at one by one: the title of a block,
and the groups and blocks that are shown as running text.

* `Field.SameContent` and `ContentType.SameContent` relate values that differ only in what their
  records store under system keys;
* `ContentType.VisibleTitles` says that no block is titled by a system field, and
  `ContentType.Sectioned` that no group or blocks field is shown as running text;
* `ContentType.SameContent.alike` says that related entries of a content type with both properties
  agree where running text is shown;
* `Field.structured_sameContent` says that related values of a group or blocks field are rendered
  the same, if they agree there;
* `ContentType.render_sameContent` says the same of entries.
-/

namespace ContentModel

open Rendering

/-! ## Values with the same content -/

/-- Two payloads of a block that stands for a shared field are both objects or both not, and agree
but for what they store under system keys other than `uid`, which names the shared entry. -/
def BlockOf.SameReference (payload other : Json) : Prop :=
  other.isObject = payload.isObject ∧ ∀ key, isSystemField key = false ∨ key = "uid" →
    valueOf other.members key = valueOf payload.members key

mutual

/-- Two values, records of the fields, agree but for what they and the records in them store under
system keys. -/
inductive Field.SameRecord : List Field → Json → Json → Prop
  | same (fields : List Field) (value : Json) : Field.SameRecord fields value value
  | obj {fields : List Field} {members others : Members}
      (declared : ∀ field ∈ fields, isSystemField field.uid = false →
        Field.SameContent field (valueOf members field.uid) (valueOf others field.uid))
      (undeclared : ∀ key, isSystemField key = false → (∀ field ∈ fields, field.uid ≠ key) →
        valueOf others key = valueOf members key) :
      Field.SameRecord fields (.obj members) (.obj others)

/-- Two values of a field agree but for what the records in them store under system keys. -/
inductive Field.SameContent : Field → Json → Json → Prop
  | same (field : Field) (value : Json) : Field.SameContent field value value
  | group {field : Field} {value other : Json} (kind : field.isGroup = true)
      (single : field.multiple = false) (record : Field.SameRecord field.fields value other) :
      Field.SameContent field value other
  | instances {field : Field} {items others : List Json} (kind : field.isGroup = true)
      (multiple : field.multiple = true) (length : others.length = items.length)
      (rows : ∀ (i : Nat) (item other : Json), items[i]? = some item → others[i]? = some other →
        Field.SameRecord field.fields item other) :
      Field.SameContent field (.arr items) (.arr others)
  | blocks {field : Field} {items others : List Json} (kind : field.isBlocks = true)
      (length : others.length = items.length)
      (tags : ∀ (i : Nat) (item other : Json), items[i]? = some item → others[i]? = some other →
        other.tag? = item.tag?)
      (payloads : ∀ (i : Nat) (item other : Json), items[i]? = some item →
        others[i]? = some other → ∀ block ∈ field.blocks, item.tag? = some block.uid →
        block.isReference = false → Field.SameRecord block.fields
          (valueOf item.members block.uid) (valueOf other.members block.uid))
      (references : ∀ (i : Nat) (item other : Json), items[i]? = some item →
        others[i]? = some other → ∀ block ∈ field.blocks, item.tag? = some block.uid →
        block.isReference = true → BlockOf.SameReference
          (valueOf item.members block.uid) (valueOf other.members block.uid)) :
      Field.SameContent field (.arr items) (.arr others)

end

/-- Two entries agree but for what they and the records in them store under system keys. -/
def ContentType.SameContent (contentType : ContentType) (entry other : Json) : Prop :=
  Field.SameRecord contentType.fields entry other

/-- No block is titled by a system field, here and in the groups below. -/
inductive Field.VisibleTitles : Field → Prop
  | intro {field : Field}
      (titles : ∀ block ∈ field.blocks, ∀ title, block.titleField = some title →
        isSystemField title.uid = false)
      (below : ∀ child ∈ field.fields, isSystemField child.uid = false →
        Field.VisibleTitles child) : Field.VisibleTitles field

/-- No block of a content type is titled by a system field. -/
def ContentType.VisibleTitles (contentType : ContentType) : Prop :=
  ∀ field ∈ contentType.fields, isSystemField field.uid = false → field.VisibleTitles

/-- No group or blocks field is shown as running text, here and in the groups below: none has a
column in the table of a repeatable group, and none belongs to a block. -/
inductive Field.Sectioned (options : RenderOptions) : Field → Prop
  | intro {field : Field}
      (rows : field.multiple = true → ∀ child ∈ columns options field.fields,
        (child.isGroup || child.isBlocks) = false)
      (blocks : ∀ block ∈ field.blocks, ∀ child ∈ block.fields, isSystemField child.uid = false →
        (child.isGroup || child.isBlocks) = false)
      (below : ∀ child ∈ field.fields, isSystemField child.uid = false →
        Field.Sectioned options child) : Field.Sectioned options field

/-- No group or blocks field of a content type is shown as running text. -/
def ContentType.Sectioned (options : RenderOptions) (contentType : ContentType) : Prop :=
  ∀ field ∈ contentType.fields, isSystemField field.uid = false → field.Sectioned options

/-! ## Values of fields -/

namespace Field

variable {fields : List Field} {field : Field} {value other : Json} {members : Members}
  {key : String}

theorem SameRecord.sameForm (h : SameRecord fields value other) : Json.SameForm value other := by
  cases h with
  | same => exact .refl value
  | obj => exact .obj _ _

theorem SameContent.sameForm (h : field.SameContent value other) : Json.SameForm value other := by
  cases h with
  | same => exact .refl value
  | group _ _ hrecord => exact hrecord.sameForm
  | instances _ _ hlength => exact .arr hlength.symm
  | blocks _ hlength => exact .arr hlength.symm

theorem SameContent.eq_of_plain (hplain : (field.isGroup || field.isBlocks) = false)
    (h : field.SameContent value other) : other = value := by
  cases h with
  | same => rfl
  | group hkind => simp [hkind] at hplain
  | instances hkind => simp [hkind] at hplain
  | blocks hkind => simp [hkind] at hplain

theorem SameRecord.member (h : SameRecord fields value other) (hfield : field ∈ fields)
    (hsystem : isSystemField field.uid = false) :
    field.SameContent (valueOf value.members field.uid) (valueOf other.members field.uid) := by
  cases h with
  | same => exact .same field _
  | obj hdeclared => exact hdeclared field hfield hsystem

/-- What two records store under a key that is no system key is related by the field with that uid,
or the same. -/
theorem SameRecord.valueOf_cases (h : SameRecord fields value other)
    (hsystem : isSystemField key = false) :
    (∃ field ∈ fields, field.uid = key ∧
      field.SameContent (valueOf value.members key) (valueOf other.members key)) ∨
      valueOf other.members key = valueOf value.members key := by
  by_cases hdeclared : ∃ field ∈ fields, field.uid = key
  · obtain ⟨field, hfield, rfl⟩ := hdeclared
    exact Or.inl ⟨field, hfield, rfl, h.member hfield hsystem⟩
  · refine Or.inr ?_
    cases h with
    | same => rfl
    | obj _ hundeclared =>
      exact hundeclared key hsystem fun field hfield huid => hdeclared ⟨field, hfield, huid⟩

theorem SameRecord.sameForm_valueOf (h : SameRecord fields value other)
    (hsystem : isSystemField key = false) :
    Json.SameForm (valueOf value.members key) (valueOf other.members key) := by
  rcases h.valueOf_cases hsystem with ⟨field, -, -, hmember⟩ | heq
  · exact hmember.sameForm
  · rw [heq]
    exact .refl _

/-- Two records store the same under a key that no group or blocks field has. -/
theorem SameRecord.valueOf_eq (h : SameRecord fields value other)
    (hsystem : isSystemField key = false)
    (hplain : ∀ field ∈ fields, field.uid = key → (field.isGroup || field.isBlocks) = false) :
    valueOf other.members key = valueOf value.members key := by
  rcases h.valueOf_cases hsystem with ⟨field, hfield, huid, hmember⟩ | heq
  · exact hmember.eq_of_plain (hplain field hfield huid)
  · exact heq

/-- The content of a record is the same after a change under a system key. -/
theorem SameRecord.put (hsystem : isSystemField key = true) (value : Json) :
    SameRecord fields (.obj members) (.obj (members.put key value)) := by
  have hvalueOf (uid : String) (huid : isSystemField uid = false) :
      valueOf (members.put key value) uid = valueOf members uid := by
    have hne : uid ≠ key := fun heq => by simp [heq, hsystem] at huid
    rw [valueOf, valueOf, Members.get?_put_of_ne members value hne]
  refine .obj (fun field _ hfield => ?_) fun uid huid _ => hvalueOf uid huid
  rw [hvalueOf field.uid hfield]
  exact .same field _

/-- The fields of two records with the same content are shown alike, if their groups and blocks
agree. -/
theorem SameRecord.shownAlike (options : RenderOptions) (h : SameRecord fields value other)
    (hfield : field ∈ fields) (hsystem : isSystemField field.uid = false)
    (hcontainer : (field.isGroup || field.isBlocks) = true →
      valueOf other.members field.uid = valueOf value.members field.uid) :
    ShownAlike options field (valueOf value.members field.uid)
      (valueOf other.members field.uid) := by
  have heq : valueOf other.members field.uid = valueOf value.members field.uid := by
    cases hkind : field.isGroup || field.isBlocks with
    | true => exact hcontainer hkind
    | false => exact (h.member hfield hsystem).eq_of_plain hkind
  rw [heq]
  exact .refl options field _

theorem SameContent.of_blocks (hkind : field.isBlocks = true)
    (h : field.SameContent value other) : other = value ∨
      ∃ items others, value = .arr items ∧ other = .arr others ∧ others.length = items.length ∧
        ∀ (i : Nat) (item other : Json), items[i]? = some item → others[i]? = some other →
          ∀ block ∈ field.blocks, item.tag? = some block.uid →
            (block.isReference = false → SameRecord block.fields
              (valueOf item.members block.uid) (valueOf other.members block.uid)) ∧
            (block.isReference = true → BlockOf.SameReference
              (valueOf item.members block.uid) (valueOf other.members block.uid)) := by
  cases h with
  | same => exact Or.inl rfl
  | group hgroup => simp [isBlocks_of_isGroup hgroup] at hkind
  | instances hgroup => simp [isBlocks_of_isGroup hgroup] at hkind
  | blocks _ hlength _ hpayloads hreferences =>
    exact Or.inr ⟨_, _, rfl, rfl, hlength, fun i item other hitem hother block hblock htag =>
      ⟨hpayloads i item other hitem hother block hblock htag,
        hreferences i item other hitem hother block hblock htag⟩⟩

theorem SameContent.of_group (hkind : field.isGroup = true) (hsingle : field.multiple = false)
    (h : field.SameContent value other) : SameRecord field.fields value other := by
  cases h with
  | same => exact .same _ _
  | group _ _ hrecord => exact hrecord
  | instances _ hmultiple => simp [hsingle] at hmultiple
  | blocks hblocks => simp [isBlocks_of_isGroup hkind] at hblocks

theorem SameContent.of_instances (hkind : field.isGroup = true) (hmultiple : field.multiple = true)
    (h : field.SameContent value other) : other = value ∨
      ∃ items others, value = .arr items ∧ other = .arr others ∧ others.length = items.length ∧
        ∀ (i : Nat) (item other : Json), items[i]? = some item → others[i]? = some other →
          SameRecord field.fields item other := by
  cases h with
  | same => exact Or.inl rfl
  | group _ hsingle => simp [hmultiple] at hsingle
  | instances _ _ hlength hrows => exact Or.inr ⟨_, _, rfl, rfl, hlength, hrows⟩
  | blocks hblocks => simp [isBlocks_of_isGroup hkind] at hblocks

end Field

/-! ## Blocks -/

namespace Rendering

theorem isSystemField_of_not_hidden {options : RenderOptions}
    (hoptions : options.includeSystemFields = false) {uid : String}
    (h : hidden options uid = false) : isSystemField uid = false := by
  simpa [hidden, hoptions] using h

theorem isSystemField_of_mem_columns {options : RenderOptions} {fields : List Field}
    {field : Field} (h : field ∈ columns options fields) : isSystemField field.uid = false := by
  simp only [columns, List.mem_filter, Bool.and_eq_true, Bool.not_eq_true'] at h
  exact h.2.1

end Rendering

namespace BlockOf

variable {options : RenderOptions} {block : BlockDefinition} {payload other : Json}

theorem blockHeading_sameContent (level : Int)
    (htitle : ∀ title, block.titleField = some title → isSystemField title.uid = false)
    (hinline : block.isReference = false → Field.SameRecord block.fields payload other)
    (hreference : block.isReference = true → SameReference payload other) :
    blockHeading block other.members level = blockHeading block payload.members level := by
  refine blockHeading_congr level fun field hfield title _ => ?_
  have hsystem := htitle field hfield
  cases h : block.isReference with
  | true => rw [(hreference h).2 field.uid (Or.inl hsystem)]
  | false => exact ((hinline h).sameForm_valueOf hsystem).str_iff title

theorem SameReference.referenceLines_eq (h : SameReference payload other) :
    referenceLines block other = referenceLines block payload := by
  have htext : referenceText other.members = referenceText payload.members := by
    rw [referenceText, referenceText, h.2 "title" (Or.inl (by decide)), h.2 "uid" (Or.inr rfl)]
  rw [referenceLines, referenceLines, htext, h.1]

/-- The lines of two payloads with the same content are the same, if the payloads agree where they
are shown as running text. -/
theorem blockLines_sameContent (hoptions : options.includeSystemFields = false) (level : Int)
    (htitle : ∀ title, block.titleField = some title → isSystemField title.uid = false)
    (hinline : block.isReference = false → Field.SameRecord block.fields payload other)
    (hreference : block.isReference = true → SameReference payload other)
    (h : block.PayloadAlike options payload.members other.members) :
    blockLines options level block.uid block other =
      blockLines options level block.uid block payload := by
  rw [blockLines_eq, blockLines_eq,
    blockHeading_sameContent level htitle hinline hreference]
  refine congrArg (Except.map _) ?_
  unfold blockBody
  by_cases hquote : block.uid = "quote"
  · rw [if_pos hquote, if_pos hquote, quoteLines_congr (h.quotation hquote "quote_text" (by simp))
      (h.quotation hquote "attribution" (by simp))]
  · rw [if_neg hquote, if_neg hquote]
    cases hkind : block.isReference with
    | true => rw [if_pos rfl, if_pos rfl, (hreference hkind).referenceLines_eq]
    | false =>
      rw [if_neg Bool.false_ne_true, if_neg Bool.false_ne_true]
      refine blockFieldLines_congr fun field hfield hhidden htitle => ?_
      exact (hinline hkind).shownAlike options hfield
        (isSystemField_of_not_hidden hoptions hhidden)
        (h.containers hquote hkind field hfield hhidden htitle)

end BlockOf

/-! ## Agreement where running text is shown -/

namespace BlockOf

variable {options : RenderOptions} {block : BlockDefinition} {payload other : Json}

/-- Payloads with the same content agree where they are shown as running text, if none of the
groups and blocks in them is. -/
theorem payloadAlike_of_sameContent (hoptions : options.includeSystemFields = false)
    (htitle : ∀ title, block.titleField = some title → isSystemField title.uid = false)
    (hplain : ∀ child ∈ block.fields, isSystemField child.uid = false →
      (child.isGroup || child.isBlocks) = false)
    (hinline : block.isReference = false → Field.SameRecord block.fields payload other)
    (hreference : block.isReference = true → SameReference payload other) :
    block.PayloadAlike options payload.members other.members := by
  have hvalueOf (key : String) (hsystem : isSystemField key = false) :
      valueOf other.members key = valueOf payload.members key := by
    cases h : block.isReference with
    | true => exact (hreference h).2 key (Or.inl hsystem)
    | false =>
      refine (hinline h).valueOf_eq hsystem fun child hchild huid => ?_
      exact hplain child hchild (by rwa [huid])
  refine ⟨fun _ title hfield => hvalueOf title.uid (htitle title hfield), fun _ key hkey => ?_,
    fun _ _ field _ hhidden _ _ =>
      hvalueOf field.uid (isSystemField_of_not_hidden hoptions hhidden)⟩
  simp only [List.mem_cons, List.not_mem_nil, or_false] at hkey
  rcases hkey with rfl | rfl
  · exact hvalueOf "quote_text" (by decide)
  · exact hvalueOf "attribution" (by decide)

end BlockOf

/-- Values with the same content agree where they are shown as running text, if none of the groups
and blocks in them is. -/
theorem Field.SameContent.alike {options : RenderOptions} {field : Field} {value other : Json}
    (hoptions : options.includeSystemFields = false) (htitles : field.VisibleTitles)
    (hsections : field.Sectioned options) (h : field.SameContent value other) :
    field.Alike options value other := by
  induction field using Field.induct generalizing value other with
  | node info fields blocks ihFields _ =>
    obtain ⟨htitle, htitlesBelow⟩ := htitles
    obtain ⟨hrows, hblocks, hbelow⟩ := hsections
    cases h with
    | same => exact .same _ _
    | group hkind hsingle hrecord =>
      refine .group hkind hsingle fun child hchild hhidden => ?_
      have hsystem := isSystemField_of_not_hidden hoptions hhidden
      exact ihFields child hchild (htitlesBelow child hchild hsystem)
        (hbelow child hchild hsystem) (hrecord.member hchild hsystem)
    | instances hkind hmultiple _ _ =>
      refine .instances hkind hmultiple fun _ _ _ _ _ child hchild hcontainer => ?_
      simp [hrows hmultiple child hchild] at hcontainer
    | blocks hkind _ htags hpayloads hreferences =>
      refine .blocks hkind fun i item other hitem hother => ⟨htags i item other hitem hother,
        fun block hblock htag => ?_⟩
      exact BlockOf.payloadAlike_of_sameContent hoptions (htitle block hblock)
        (hblocks block hblock) (hpayloads i item other hitem hother block hblock htag)
        (hreferences i item other hitem hother block hblock htag)

/-- Entries with the same content agree where they are shown as running text, if none of the groups
and blocks of the content type is. -/
theorem ContentType.SameContent.alike {options : RenderOptions} {contentType : ContentType}
    {entry other : Json} (hoptions : options.includeSystemFields = false)
    (htitles : contentType.VisibleTitles) (hsections : contentType.Sectioned options)
    (h : contentType.SameContent entry other) : contentType.Alike options entry other := by
  intro field hfield _ _ hhidden
  have hsystem := isSystemField_of_not_hidden hoptions hhidden
  exact Field.SameContent.alike hoptions (htitles field hfield hsystem)
    (hsections field hfield hsystem) (Field.SameRecord.member h hfield hsystem)

/-! ## Groups and blocks -/

namespace Field

variable {options : RenderOptions} {field : Field} {value other : Json}

theorem structured_sameContent_blocks (hoptions : options.includeSystemFields = false)
    (level : Int) (hkind : field.isBlocks = true) (htitles : field.VisibleTitles)
    (h : field.SameContent value other) (halike : field.Alike options value other) :
    field.structured options level other = field.structured options level value := by
  obtain ⟨htitle, -⟩ := htitles
  rcases h.of_blocks hkind with rfl | ⟨items, others, rfl, rfl, hlength, hpayload⟩
  · rfl
  rcases halike.of_blocks hkind with hsame | ⟨_, _, ⟨⟩, ⟨⟩, heach⟩
  · rw [hsame]
  rw [structured_blocks level hkind, structured_blocks level hkind]
  refine blocksText_congr hlength fun i item other hitem hother => ?_
  obtain ⟨htag, hitemAlike⟩ := heach i item other hitem hother
  refine itemSection_congr htag fun block hblock htag => ?_
  obtain ⟨hinline, hreference⟩ := hpayload i item other hitem hother block hblock htag
  exact BlockOf.blockLines_sameContent hoptions (level + 1) (htitle block hblock) hinline
    hreference (hitemAlike block hblock htag)

theorem structured_sameContent_instances (level : Int) (hkind : field.isGroup = true)
    (hmultiple : field.multiple = true) (h : field.SameContent value other)
    (halike : field.Alike options value other) :
    field.structured options level other = field.structured options level value := by
  rw [structured_instances level hkind hmultiple, structured_instances level hkind hmultiple]
  rcases h.of_instances hkind hmultiple with rfl | ⟨items, others, rfl, rfl, hlength, hrecord⟩
  · rfl
  rcases halike.of_instances hkind hmultiple with hsame | ⟨_, _, ⟨⟩, ⟨⟩, hrows⟩
  · rw [hsame]
  refine instanceTable_congr hlength fun i item other hitem hother child hchild => ?_
  exact (hrecord i item other hitem hother).shownAlike options (List.mem_filter.1 hchild).1
    (isSystemField_of_mem_columns hchild) (hrows i item other hitem hother child hchild)

theorem structured_sameContent_single (hoptions : options.includeSystemFields = false)
    (level : Int) (hkind : field.isGroup = true) (hsingle : field.multiple = false)
    (htitles : field.VisibleTitles) (h : field.SameContent value other)
    (halike : field.Alike options value other)
    (ih : ∀ child ∈ field.fields, ∀ level value other,
      (child.isGroup || child.isBlocks) = true → child.VisibleTitles →
      child.SameContent value other → child.Alike options value other →
      child.structured options level other = child.structured options level value) :
    field.structured options level other = field.structured options level value := by
  obtain ⟨-, hbelow⟩ := htitles
  have hrecord := h.of_group hkind hsingle
  rcases halike.of_group hkind hsingle with hsame | hchildren
  · rw [hsame]
  refine structured_single_congr level hkind hsingle
    (fun child hchild hhidden hcontainer => ?_) fun child hchild hhidden hcontainer => ?_
  · exact hrecord.shownAlike options hchild (isSystemField_of_not_hidden hoptions hhidden)
      (by simp [hcontainer])
  · have hsystem := isSystemField_of_not_hidden hoptions hhidden
    have hmember := hrecord.member hchild hsystem
    exact ⟨hmember.sameForm.isEmptyValue_eq, ih child hchild (level + 1) _ _ hcontainer
      (hbelow child hchild hsystem) hmember (hchildren child hchild hhidden)⟩

/-- Two values of a group or blocks field with the same content are rendered the same, if they
agree where they are shown as running text. -/
theorem structured_sameContent (hoptions : options.includeSystemFields = false) (level : Int)
    (hcontainer : (field.isGroup || field.isBlocks) = true) (htitles : field.VisibleTitles)
    (h : field.SameContent value other) (halike : field.Alike options value other) :
    field.structured options level other = field.structured options level value := by
  induction field using Field.induct generalizing level value other with
  | node info fields blocks ihFields _ =>
    cases hb : info.isBlocks with
    | true => exact structured_sameContent_blocks hoptions level hb htitles h halike
    | false =>
      have hgroup : info.isGroup = true := by simpa [hb] using hcontainer
      cases hmultiple : info.multiple with
      | true => exact structured_sameContent_instances level hgroup hmultiple h halike
      | false =>
        refine structured_sameContent_single hoptions level hgroup hmultiple htitles h halike ?_
        exact fun child hchild level value other => ihFields child hchild level

/-- Two values of a field of an entry with the same content are rendered the same, if they agree
where they are shown as running text. -/
theorem entryField_sameContent (hoptions : options.includeSystemFields = false)
    (htitles : field.VisibleTitles) (h : field.SameContent value other)
    (halike : field.Alike options value other) :
    entryField options other field = entryField options value field := by
  unfold entryField
  cases hcontainer : field.isGroup || field.isBlocks with
  | true =>
    rw [if_pos rfl, if_pos rfl,
      structured_sameContent hoptions _ hcontainer htitles h halike]
  | false => rw [h.eq_of_plain hcontainer]

end Field

/-- **System fields do not show.** By options that do not ask for system fields, two entries that
differ only in what their records store under system keys are rendered the same, with the same text
or the same error, if no block is titled by a system field and the two agree where groups and
blocks are shown as running text. -/
theorem ContentType.render_sameContent {contentType : ContentType} {options : RenderOptions}
    {entry other : Json} (hoptions : options.includeSystemFields = false)
    (htitle : isSystemField options.titleField = false)
    (hdescription : isSystemField options.descriptionField = false)
    (htitles : contentType.VisibleTitles) (h : contentType.SameContent entry other)
    (halike : contentType.Alike options entry other) :
    contentType.render options other = contentType.render options entry := by
  have hstr (key : String) (hsystem : isSystemField key = false) (text : String) :
      valueOf other.members key = .str text ↔ valueOf entry.members key = .str text :=
    (Field.SameRecord.sameForm_valueOf h hsystem).str_iff text
  have hfields : entryFields options other.members contentType.fields =
      entryFields options entry.members contentType.fields := by
    refine entryFields_congr fun field hfield hnotTitle hnotDescription hhidden => ?_
    have hsystem := isSystemField_of_not_hidden hoptions hhidden
    have hmember := Field.SameRecord.member h hfield hsystem
    exact ⟨hmember.sameForm.isEmptyValue_eq, Field.entryField_sameContent hoptions
      (htitles field hfield hsystem) hmember
      (halike field hfield hnotTitle hnotDescription hhidden)⟩
  unfold render titleLines descriptionLines
  simp only [hfields, textLines_congr fun text _ => hstr _ htitle text,
    textLines_congr fun text _ => hstr _ hdescription text]

/-! ## Records of one member -/

namespace Field

variable {field : Field} {value other : Json}

theorem getElem?_singleton_cases {first second item : Json} {i : Nat}
    (hitem : [first][i]? = some item) (hother : [second][i]? = some other) :
    item = first ∧ other = second := by
  cases i with
  | zero => exact ⟨(Option.some.inj hitem).symm, (Option.some.inj hother).symm⟩
  | succ i => simp at hitem

theorem SameContent.record (h : field.SameContent value other) :
    SameRecord [field] (.obj [(field.uid, value)]) (.obj [(field.uid, other)]) := by
  refine .obj (fun child hchild _ => ?_) fun key _ hdeclared => ?_
  · obtain rfl := List.mem_singleton.1 hchild
    simpa [valueOf, Members.get?] using h
  · have huid : field.uid ≠ key := hdeclared field (List.mem_singleton.2 rfl)
    simp [valueOf, Members.get?, huid]

theorem SameRecord.row (field : Field) (hkind : field.isGroup = true)
    (hmultiple : field.multiple = true)
    (h : SameRecord field.fields value other) : field.SameContent (.arr [value]) (.arr [other]) :=
  .instances hkind hmultiple rfl fun i item other hitem hother => by
    obtain ⟨rfl, rfl⟩ := getElem?_singleton_cases hitem hother
    exact h

theorem SameRecord.block (field : Field) (block : BlockDefinition) (hkind : field.isBlocks = true)
    (hblocks : field.blocks = [block]) (hinline : block.isReference = false)
    (h : SameRecord block.fields value other) :
    field.SameContent (.arr [.obj [(block.uid, value)]]) (.arr [.obj [(block.uid, other)]]) := by
  refine .blocks hkind rfl (fun i item other hitem hother => ?_)
    (fun i item other hitem hother block hblock _ _ => ?_)
    fun i item other hitem hother block hblock _ hreference => ?_
  all_goals obtain ⟨rfl, rfl⟩ := getElem?_singleton_cases hitem hother
  · rfl
  · obtain rfl : block = _ := by simpa [hblocks] using hblock
    simpa [valueOf, Members.get?, Json.members] using h
  · obtain rfl : block = _ := by simpa [hblocks] using hblock
    simp [hinline] at hreference

end Field

/-- The entry, a group, an instance of a repeatable group and a block of two entries differ under
system keys, and the entries are rendered the same. -/
theorem ContentType.render_sameContent_records :
    let text : Field := ⟨{ uid := "a", dataType := some "text" }, [], []⟩
    let more : Field := ⟨{ uid := "more", dataType := some "group" }, [text], []⟩
    let rows : Field :=
      ⟨{ uid := "rows", dataType := some "group", multiple := true }, [text], []⟩
    let sections : Field :=
      ⟨{ uid := "sections", dataType := some "blocks" }, [], [⟨{ uid := "hero" }, [text]⟩]⟩
    let contentType : ContentType := { fields := [more, rows, sections] }
    let record (uid : String) : Json := .obj [("a", .str "1"), ("uid", .str uid)]
    let entry (uid : String) : Json := .obj [("more", record uid), ("rows", .arr [record uid]),
      ("sections", .arr [.obj [("hero", record uid)]]), ("uid", .str uid)]
    entry "y" ≠ entry "x" ∧
      contentType.render {} (entry "y") = contentType.render {} (entry "x") := by
  intro text more rows sections contentType record entry
  have hsystem : isSystemField "uid" = true := by decide
  have hrecord : Field.SameRecord [text] (record "x") (record "y") := .put hsystem (.str "y")
  have hcontent : contentType.SameContent (entry "x") (entry "y") := by
    refine .obj (fun field hfield _ => ?_) fun key hkey hdeclared => ?_
    · simp only [contentType, List.mem_cons, List.not_mem_nil, or_false] at hfield
      rcases hfield with rfl | rfl | rfl
      · exact .group rfl rfl hrecord
      · exact hrecord.row rows rfl rfl
      · exact hrecord.block sections ⟨{ uid := "hero" }, [text]⟩ rfl rfl rfl
    · have huid : "uid" ≠ key := fun heq => by simp [← heq, hsystem] at hkey
      simp only [contentType, more, rows, sections, List.forall_mem_cons] at hdeclared
      simp [valueOf, Members.get?, huid, hdeclared]
  have htext : text.VisibleTitles ∧ text.Sectioned {} :=
    ⟨.intro (by simp [text]) (by simp [text]),
      .intro (by simp [text]) (by simp [text]) (by simp [text])⟩
  have hplain : text.isGroup = false ∧ text.isBlocks = false := by decide
  have htitles : contentType.VisibleTitles := by
    simp only [VisibleTitles, contentType, List.forall_mem_cons]
    refine ⟨fun _ => .intro (by simp [more]) (by simp [more, htext]),
      fun _ => .intro (by simp [rows]) (by simp [rows, htext]),
      fun _ => .intro ?_ (by simp [sections]), by simp⟩
    simp [sections, BlockOf.titleField, text]
  have hsections : contentType.Sectioned {} := by
    simp only [ContentType.Sectioned, contentType, List.forall_mem_cons]
    refine ⟨fun _ => .intro (by simp [more]) (by simp [more]) (by simp [more, htext]),
      fun _ => .intro ?_ (by simp [rows]) (by simp [rows, htext]),
      fun _ => .intro (by simp [sections]) ?_ (by simp [sections]), by simp⟩
    · exact fun _ child hchild => by
        obtain rfl := List.mem_singleton.1 (List.mem_filter.1 hchild).1
        simp [hplain]
    · simp [sections, hplain]
  exact ⟨by decide, render_sameContent rfl (by decide) (by decide) htitles hcontent
    (SameContent.alike rfl htitles hsections hcontent)⟩

/-- Two entries that differ only in what their records store under system keys, rendered in two
ways by the default options. -/
def ContentType.ShowsSystemFields (contentType : ContentType) : Prop :=
  ∃ entry other, contentType.SameContent entry other ∧
    contentType.render {} other ≠ contentType.render {} entry

theorem ContentType.ShowsSystemFields.intro {contentType : ContentType} {entry other : Json}
    (h : contentType.SameContent entry other)
    (hne : (contentType.render {} other).toOption ≠ (contentType.render {} entry).toOption) :
    contentType.ShowsSystemFields :=
  ⟨entry, other, h, fun h => hne (congrArg Except.toOption h)⟩

/-- System fields show in the title of a block, and in the groups that stand in a row, in a block or
in a quotation. -/
theorem ContentType.render_sameContent_ne :
    let named : Field := ⟨{ uid := "locale", dataType := some "text", mandatory := true }, [], []⟩
    let group (uid : String) : Field := ⟨{ uid, dataType := some "group" }, [], []⟩
    let rows : Field :=
      ⟨{ uid := "rows", dataType := some "group", multiple := true }, [group "cell"], []⟩
    let sections (block : BlockDefinition) : Field :=
      ⟨{ uid := "sections", dataType := some "blocks" }, [], [block]⟩
    ContentType.ShowsSystemFields { fields := [sections ⟨{ uid := "hero" }, [named]⟩] } ∧
    ContentType.ShowsSystemFields { fields := [rows] } ∧
    ContentType.ShowsSystemFields { fields := [sections ⟨{ uid := "hero" }, [group "cell"]⟩] } ∧
    ContentType.ShowsSystemFields
      { fields := [sections ⟨{ uid := "quote" }, [group "quote_text"]⟩] } := by
  intro named group rows sections
  have hsystem : isSystemField "locale" = true := by decide
  have hrecord (fields : List Field) : Field.SameRecord fields (.obj [("locale", .str "en")])
      (.obj [("locale", .str "de")]) := .put hsystem (.str "de")
  have hgroup (uid : String) : (group uid).SameContent (.obj [("locale", .str "en")])
      (.obj [("locale", .str "de")]) := .group rfl rfl (hrecord [])
  have hsections (block : BlockDefinition) (hinline : block.isReference = false)
      {payload other : Json} (h : Field.SameRecord block.fields payload other) :
      Field.SameRecord [sections block] (.obj [("sections", .arr [.obj [(block.uid, payload)]])])
        (.obj [("sections", .arr [.obj [(block.uid, other)]])]) :=
    (h.block (sections block) block rfl rfl hinline).record
  refine ⟨.intro (hsections _ rfl (hrecord [named])) ?_,
    .intro ((hgroup "cell").record.row rows rfl rfl).record ?_,
    .intro (hsections _ rfl (hgroup "cell").record) ?_,
    .intro (hsections _ rfl (hgroup "quote_text").record) ?_⟩
  all_goals decide +kernel

end ContentModel
