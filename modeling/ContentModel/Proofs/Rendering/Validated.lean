import ContentModel.Proofs.Rendering.Congruence

/-!
# Rendering the value of an accepted entry

The check of an entry puts the declared members of every record first. The rendering looks members
up and so does not see this, but for three places: the tag of a block item is its first key, a
group or blocks field inside a table row or a block is shown as running text, and so are the text
and the source of a quotation.

* `Field.Alike` and `ContentType.Alike` say that two values agree at these places;
* `Field.structured_value` says that the value of a field is then rendered the same after its
  check;
* `ContentType.render_value` says the same of entries.
-/

namespace ContentModel

open Rendering

/-! ## Values that agree where order shows -/

/-- The payloads of two items of a variant agree where they are shown as running text. -/
structure BlockOf.PayloadAlike (options : RenderOptions) (block : BlockDefinition)
    (payload other : Members) : Prop where
  heading : block.isReference = true → ∀ title, block.titleField = some title →
    valueOf other title.uid = valueOf payload title.uid
  quotation : block.uid = "quote" → ∀ key ∈ ["quote_text", "attribution"],
    valueOf other key = valueOf payload key
  containers : block.uid ≠ "quote" → block.isReference = false → ∀ field ∈ block.fields,
    hidden options field.uid = false → (block.titleField.map fun title => title.uid) ≠
      some field.uid → (field.isGroup || field.isBlocks) = true →
    valueOf other field.uid = valueOf payload field.uid

/-- Two items of a blocks field have the same tag, and their payloads agree. -/
def BlockOf.ItemAlike (options : RenderOptions) (blocks : List BlockDefinition)
    (item other : Json) : Prop :=
  other.tag? = item.tag? ∧ ∀ block ∈ blocks, item.tag? = some block.uid →
    block.PayloadAlike options (valueOf item.members block.uid).members
      (valueOf other.members block.uid).members

/-- Two instances of a repeatable group agree in the groups and blocks that have a column. -/
def Field.RowAlike (options : RenderOptions) (fields : List Field) (item other : Json) : Prop :=
  ∀ field ∈ columns options fields, (field.isGroup || field.isBlocks) = true →
    valueOf other.members field.uid = valueOf item.members field.uid

/-- Two values of a field agree where the order of members shows. -/
inductive Field.Alike (options : RenderOptions) : Field → Json → Json → Prop
  /-- A field that is neither group nor blocks. -/
  | plain {field : Field} {value other : Json}
      (kind : (field.isGroup || field.isBlocks) = false) : Field.Alike options field value other
  | same (field : Field) (value : Json) : Field.Alike options field value value
  | group {field : Field} {value other : Json} (kind : field.isGroup = true)
      (single : field.multiple = false)
      (children : ∀ child ∈ field.fields, hidden options child.uid = false →
        Field.Alike options child (valueOf value.members child.uid)
          (valueOf other.members child.uid)) :
      Field.Alike options field value other
  | instances {field : Field} {items others : List Json} (kind : field.isGroup = true)
      (multiple : field.multiple = true)
      (rows : ∀ (i : Nat) (item other : Json), items[i]? = some item → others[i]? = some other →
        Field.RowAlike options field.fields item other) :
      Field.Alike options field (.arr items) (.arr others)
  | blocks {field : Field} {items others : List Json} (kind : field.isBlocks = true)
      (each : ∀ (i : Nat) (item other : Json), items[i]? = some item → others[i]? = some other →
        BlockOf.ItemAlike options field.blocks item other) :
      Field.Alike options field (.arr items) (.arr others)

/-- An entry and another agree where the order of members shows. -/
def ContentType.Alike (options : RenderOptions) (contentType : ContentType)
    (entry other : Json) : Prop :=
  ∀ field ∈ contentType.fields, field.uid ≠ options.titleField →
    field.uid ≠ options.descriptionField → hidden options field.uid = false →
    field.Alike options (valueOf entry.members field.uid) (valueOf other.members field.uid)

/-! ## Fields -/

namespace Field

variable {options : RenderOptions} {draft : Bool} {field : Field} {fields : List Field}

theorem kind_of_not_container (h : (field.isGroup || field.isBlocks) = false) :
    field.kind ≠ some .group ∧ field.kind ≠ some .blocks := by
  simpa [FieldInfo.isGroup, FieldInfo.isBlocks] using h

/-- A plain field is shown alike after its check. -/
theorem shownAlike_value (h : (field.isGroup || field.isBlocks) = false) (value : Json) :
    ShownAlike options field value ((field.compiled .read draft).value value) := by
  obtain ⟨hg, hb⟩ := kind_of_not_container h
  exact ⟨(keepsForm_compiled .read draft field value).isEmptyValue_eq, primitive_value hg hb value,
    fun hfile => get?_value_file hfile value⟩

/-- The fields of a record are shown alike after its check, if its groups and blocks agree. -/
theorem shownAlike_record (shape : Shape) (withMetadata : Bool) (hdistinct : DistinctUids fields)
    (hfield : field ∈ fields) (value : Json)
    (h : (field.isGroup || field.isBlocks) = true →
      valueOf ((Checker.record shape (recordSlots .read draft withMetadata fields)).value
        value).members field.uid = valueOf value.members field.uid) :
    ShownAlike options field (valueOf value.members field.uid)
      (valueOf ((Checker.record shape (recordSlots .read draft withMetadata fields)).value
        value).members field.uid) := by
  cases hcontainer : field.isGroup || field.isBlocks with
  | false =>
    rw [valueOf_record .read draft shape withMetadata hdistinct hfield]
    exact shownAlike_value hcontainer _
  | true =>
    rw [h hcontainer]
    exact .refl options field _

end Field

namespace BlockOf

variable {options : RenderOptions} {draft : Bool} {block : BlockDefinition} {uid : String}

theorem blockHeading_value (hdistinct : Field.DistinctUids block.fields) (level : Int)
    (payload : Json) (h : block.isReference = true → ∀ title, block.titleField = some title →
      valueOf ((block.compiledPayload .read draft uid).value payload).members title.uid =
        valueOf payload.members title.uid) :
    blockHeading block ((block.compiledPayload .read draft uid).value payload).members level =
      blockHeading block payload.members level := by
  refine blockHeading_congr level fun field htitle title _ => ?_
  cases hreference : block.isReference with
  | true => rw [h hreference field htitle]
  | false =>
    have hfield : field ∈ block.fields := List.mem_of_find?_eq_some htitle
    rw [compiledPayload_inline hreference, Field.valueOf_record .read draft _ true hdistinct hfield]
    exact (Field.keepsForm_compiled .read draft field _).str_iff title

/-- The lines of a payload are the same after its check. -/
theorem blockLines_value (hdistinct : Field.DistinctUids block.fields) (level : Int)
    (payload : Json) (h : block.PayloadAlike options payload.members
      ((block.compiledPayload .read draft uid).value payload).members) :
    blockLines options level block.uid block
        ((block.compiledPayload .read draft uid).value payload) =
      blockLines options level block.uid block payload := by
  rw [blockLines_eq, blockLines_eq, blockHeading_value hdistinct level payload h.heading]
  refine congrArg (Except.map _) ?_
  unfold blockBody
  by_cases hquote : block.uid = "quote"
  · rw [if_pos hquote, if_pos hquote, quoteLines_congr (h.quotation hquote "quote_text" (by simp))
      (h.quotation hquote "attribution" (by simp))]
  · rw [if_neg hquote, if_neg hquote]
    cases hreference : block.isReference with
    | true =>
      have htext := referenceText_congr
        (ValueShape.get?_reference payload (by decide : "title" ≠ _) (by decide))
        (ValueShape.get?_reference payload (by decide : "uid" ≠ _) (by decide))
      have hobject : (ValueShape.reference.value payload).isObject = payload.isObject :=
        (Checker.KeepsForm.record _ _ payload).isObject_eq
      rw [compiledPayload_reference hreference, if_pos rfl, if_pos rfl, referenceLines,
        referenceLines, htext, hobject]
    | false =>
      have hcontainers := h.containers hquote hreference
      rw [compiledPayload_inline hreference] at hcontainers ⊢
      rw [if_neg Bool.false_ne_true, if_neg Bool.false_ne_true]
      refine blockFieldLines_congr fun field hfield hhidden htitle => ?_
      exact Field.shownAlike_record _ true hdistinct hfield payload
        (hcontainers field hfield hhidden htitle)

end BlockOf

namespace Field

variable {options : RenderOptions} {draft : Bool} {field : Field}

theorem Alike.of_blocks {value other : Json} (hkind : field.isBlocks = true)
    (h : field.Alike options value other) : other = value ∨
      ∃ items others, value = .arr items ∧ other = .arr others ∧
        ∀ (i : Nat) (item other : Json), items[i]? = some item → others[i]? = some other →
          BlockOf.ItemAlike options field.blocks item other := by
  cases h with
  | plain hplain => simp [hkind] at hplain
  | same => exact Or.inl rfl
  | group hgroup => simp [isBlocks_of_isGroup hgroup] at hkind
  | instances hgroup => simp [isBlocks_of_isGroup hgroup] at hkind
  | blocks _ heach => exact Or.inr ⟨_, _, rfl, rfl, heach⟩

theorem Alike.of_instances {value other : Json} (hkind : field.isGroup = true)
    (hmultiple : field.multiple = true) (h : field.Alike options value other) : other = value ∨
      ∃ items others, value = .arr items ∧ other = .arr others ∧
        ∀ (i : Nat) (item other : Json), items[i]? = some item → others[i]? = some other →
          RowAlike options field.fields item other := by
  cases h with
  | plain hplain => simp [hkind] at hplain
  | same => exact Or.inl rfl
  | group _ hsingle => simp [hmultiple] at hsingle
  | instances _ _ hrows => exact Or.inr ⟨_, _, rfl, rfl, hrows⟩
  | blocks hblocks => simp [isBlocks_of_isGroup hkind] at hblocks

theorem Alike.of_group {value other : Json} (hkind : field.isGroup = true)
    (hsingle : field.multiple = false) (h : field.Alike options value other) : other = value ∨
      ∀ child ∈ field.fields, hidden options child.uid = false →
        child.Alike options (valueOf value.members child.uid)
          (valueOf other.members child.uid) := by
  cases h with
  | plain hplain => simp [hkind] at hplain
  | same => exact Or.inl rfl
  | group _ _ hchildren => exact Or.inr hchildren
  | instances _ hmultiple => simp [hsingle] at hmultiple
  | blocks hblocks => simp [isBlocks_of_isGroup hkind] at hblocks

theorem structured_value_blocks (level : Int) (hkind : field.kind = some .blocks)
    (hnodup : (field.blocks.map fun block => block.uid).Nodup)
    (hdistinct : ∀ block ∈ field.blocks, DistinctUids block.fields) {value : Json}
    (h : field.Alike options value ((field.compiled .read draft).value value)) :
    field.structured options level ((field.compiled .read draft).value value) =
      field.structured options level value := by
  have hblocks : field.isBlocks = true := by simpa [FieldInfo.isBlocks] using hkind
  rcases h.of_blocks hblocks with hsame | ⟨items, others, rfl, hothers, heach⟩
  · rw [hsame]
  · rw [structured_blocks level hblocks, structured_blocks level hblocks, hothers]
    rw [compiled_blocks hkind] at hothers
    split at hothers
    · cases hothers
      exact congrArg (fun items => blocksText options (level + 1) field.blocks (.arr items))
        (List.map_id items)
    · cases hothers
      refine blocksText_congr (List.length_map _) fun i item other hitem hother => ?_
      obtain ⟨htag, hpayload⟩ := heach i item other hitem hother
      obtain rfl : (blockItemChecker field.uid (BlockOf.compiledSlots .read draft field.uid 0
        field.blocks)).value item = other := by simpa [hitem] using hother
      refine itemSection_congr htag fun block hblock htag => ?_
      have hvalue := BlockOf.valueOf_record .read draft
        { name := recordName "Blocks" (some field.uid), isTagged := true } field.uid hnodup
        hblock item
      have halike := hpayload block hblock htag
      rw [blockItemChecker, hvalue] at halike ⊢
      exact BlockOf.blockLines_value (hdistinct block hblock) _ _ halike

theorem structured_value_instances (level : Int) (hkind : field.kind = some .group)
    (hmultiple : field.multiple = true) (hdistinct : DistinctUids field.fields) {value : Json}
    (h : field.Alike options value ((field.compiled .read draft).value value)) :
    field.structured options level ((field.compiled .read draft).value value) =
      field.structured options level value := by
  have hgroup : field.isGroup = true := by simpa [FieldInfo.isGroup] using hkind
  rcases h.of_instances hgroup hmultiple with hsame | ⟨items, others, rfl, hothers, hrows⟩
  · rw [hsame]
  · rw [structured_instances level hgroup hmultiple, structured_instances level hgroup hmultiple,
      hothers]
    rw [compiled_instances hkind hmultiple, Checker.value_list_arr] at hothers
    cases hothers
    refine instanceTable_congr (List.length_map _) fun i item other hitem hother child hchild => ?_
    have hrow := hrows i item other hitem hother child hchild
    obtain rfl : (Checker.record { name := recordName "Group" (some field.uid) }
      (recordSlots .read draft true field.fields)).value item = other := by
        simpa [hitem] using hother
    exact shownAlike_record _ true hdistinct (List.mem_filter.1 hchild).1 item hrow

theorem structured_value_single (level : Int) (hkind : field.kind = some .group)
    (hsingle : field.multiple = false) (hdistinct : DistinctUids field.fields) {value : Json}
    (h : field.Alike options value ((field.compiled .read draft).value value))
    (ih : ∀ child ∈ field.fields, ∀ level value, (child.isGroup || child.isBlocks) = true →
      child.Alike options value ((child.compiled .read draft).value value) →
      child.structured options level ((child.compiled .read draft).value value) =
        child.structured options level value) :
    field.structured options level ((field.compiled .read draft).value value) =
      field.structured options level value := by
  have hgroup : field.isGroup = true := by simpa [FieldInfo.isGroup] using hkind
  rcases h.of_group hgroup hsingle with hsame | hchildren
  · rw [hsame]
  · rw [compiled_single hkind hsingle] at hchildren ⊢
    have hvalueOf (child : Field) (hchild : child ∈ field.fields) := valueOf_record .read draft
      { name := recordName "Group" (some field.uid) } false hdistinct hchild value
    refine structured_single_congr level hgroup hsingle
      (fun child hchild _ hcontainer => ?_) fun child hchild hhidden hcontainer => ?_
    · rw [hvalueOf child hchild]
      exact shownAlike_value hcontainer _
    · have halike := hchildren child hchild hhidden
      rw [hvalueOf child hchild] at halike ⊢
      exact ⟨(keepsForm_compiled .read draft child _).isEmptyValue_eq,
        ih child hchild (level + 1) _ hcontainer halike⟩

/-- The value of a group or blocks field is rendered the same after its check, if the two agree. -/
theorem structured_value (level : Int) (hdistinct : field.Distinct) {value : Json}
    (hcontainer : (field.isGroup || field.isBlocks) = true)
    (h : field.Alike options value ((field.compiled .read draft).value value)) :
    field.structured options level ((field.compiled .read draft).value value) =
      field.structured options level value := by
  induction field using Field.induct generalizing level value with
  | node info fields blocks ihFields _ =>
    obtain ⟨hfields, hblocks, hblockFields, hbelow, -⟩ := hdistinct
    cases hb : info.isBlocks with
    | true =>
      exact structured_value_blocks level (by simpa [FieldInfo.isBlocks] using hb) hblocks
        hblockFields h
    | false =>
      have hgroup : info.isGroup = true := by simpa [hb] using hcontainer
      have hkind : info.kind = some .group := by simpa [FieldInfo.isGroup] using hgroup
      cases hmultiple : info.multiple with
      | true => exact structured_value_instances level hkind hmultiple hfields h
      | false =>
        refine structured_value_single level hkind hmultiple hfields h ?_
        exact fun child hchild level value => ihFields child hchild level (hbelow child hchild)

/-- A field of an entry is rendered the same after its check, if the two agree. -/
theorem entryField_value (hdistinct : field.Distinct) {value : Json}
    (h : field.Alike options value ((field.compiled .read draft).value value)) :
    entryField options ((field.compiled .read draft).value value) field =
      entryField options value field := by
  unfold entryField
  cases hcontainer : field.isGroup || field.isBlocks with
  | true => rw [if_pos rfl, if_pos rfl, structured_value _ hdistinct hcontainer h]
  | false =>
    rw [if_neg Bool.false_ne_true, if_neg Bool.false_ne_true,
      (shownAlike_value hcontainer value).primitive]

end Field

/-- **Rendering the value of an entry.** The value of an entry that was accepted for reading is
rendered like the entry, with the same text or the same error, where no two siblings of the content
type have the same uid, the fields for title and description are declared, and the two agree where
the order of members shows. -/
theorem ContentType.render_value {contentType : ContentType} {options : RenderOptions}
    {draft : Bool} {validator : Validator} {entry value : Json} (hdistinct : contentType.Distinct)
    (htitle : ∃ field ∈ contentType.fields, field.uid = options.titleField)
    (hdescription : ∃ field ∈ contentType.fields, field.uid = options.descriptionField)
    (h : (Validator.build contentType .read draft).result = .ok validator)
    (haccepted : validator.check entry = .accepted value)
    (halike : contentType.Alike options entry value) :
    contentType.render options value = contentType.render options entry := by
  obtain rfl := Validator.eq_compiled h
  obtain ⟨-, rfl⟩ := Validator.check_eq_accepted.1 haccepted
  have hvalueOf (field : Field) (hfield : field ∈ contentType.fields) :
      valueOf ((contentType.compiled .read draft).value entry).members field.uid =
        (field.compiled .read draft).value (valueOf entry.members field.uid) := by
    rw [compiled_eq]
    exact Field.valueOf_record .read draft _ false hdistinct.1 hfield entry
  have hstr (uid : String) (hdeclared : ∃ field ∈ contentType.fields, field.uid = uid)
      (text : String) :
      valueOf ((contentType.compiled .read draft).value entry).members uid = .str text ↔
        valueOf entry.members uid = .str text := by
    obtain ⟨field, hfield, rfl⟩ := hdeclared
    rw [hvalueOf field hfield]
    exact (Field.keepsForm_compiled .read draft field _).str_iff text
  have hfields : entryFields options ((contentType.compiled .read draft).value entry).members
      contentType.fields = entryFields options entry.members contentType.fields := by
    refine entryFields_congr fun field hfield htitle hdescription hhidden => ?_
    have hfieldAlike := halike field hfield htitle hdescription hhidden
    change field.Alike options _ (valueOf ((contentType.compiled .read draft).value entry).members
      field.uid) at hfieldAlike
    rw [hvalueOf field hfield] at hfieldAlike ⊢
    exact ⟨(Field.keepsForm_compiled .read draft field _).isEmptyValue_eq,
      Field.entryField_value (hdistinct.2 field hfield) hfieldAlike⟩
  change contentType.render options ((contentType.compiled .read draft).value entry) = _
  unfold render titleLines descriptionLines
  simp only [hfields, textLines_congr fun text _ => hstr _ htitle text,
    textLines_congr fun text _ => hstr _ hdescription text]

/-- A group with a link whose address comes before its title, and a member of no field: the value
is another one, with the same rendering. -/
theorem ContentType.render_value_group :
    let link : Field := ⟨{ uid := "link", dataType := some "link" }, [], []⟩
    let more : Field := ⟨{ uid := "more", dataType := some "group" }, [link], []⟩
    let contentType : ContentType :=
      { fields := [⟨{ uid := "title" }, [], []⟩, ⟨{ uid := "meta_description" }, [], []⟩, more] }
    let entry : Json := .obj [("more", .obj [("link", .obj [("href", .str "/x"),
      ("title", .str "T")])]), ("locale", .str "en")]
    ∃ validator, (Validator.build contentType .read false).result = .ok validator ∧ ∃ value,
      validator.check entry = .accepted value ∧ value ≠ entry ∧
      contentType.render {} value = contentType.render {} entry := by
  intro link more contentType entry
  have h : (Validator.build contentType .read false).result =
      .ok (.compiled contentType .read false) := rfl
  have hdistinct : contentType.Distinct := by
    refine ⟨by simp [Field.DistinctUids, contentType, more], fun field hfield => ?_⟩
    have hfields : ∀ field ∈ contentType.fields, field.fields = [] ∨ field.fields = [link] := by
      simp [contentType, more]
    have hblocks : ∀ field ∈ contentType.fields, field.blocks = [] := by simp [contentType, more]
    have hlink : link.Distinct := .intro (by simp [Field.DistinctUids, link]) (by simp [link])
      (by simp [link]) (by simp [link]) (by simp [link])
    refine .intro ?_ (by simp [hblocks field hfield]) (by simp [hblocks field hfield]) ?_
      (by simp [hblocks field hfield])
    · rcases hfields field hfield with hfields | hfields <;> simp [hfields, Field.DistinctUids]
    · rcases hfields field hfield with hfields | hfields <;> simp [hfields, hlink]
  have haccepted : (Validator.compiled contentType .read false).check entry =
      .accepted (.obj [("more", .obj [("link", .obj [("title", .str "T"),
        ("href", .str "/x")])])]) := by decide
  refine ⟨_, h, _, haccepted, by decide, render_value hdistinct (by simp [contentType])
    (by simp [contentType]) h haccepted fun field hfield htitle hdescription _ => ?_⟩
  obtain rfl : field = more := by
    simp only [contentType, List.mem_cons, List.not_mem_nil, or_false] at hfield
    rcases hfield with rfl | rfl | rfl
    · exact absurd rfl htitle
    · exact absurd rfl hdescription
    · rfl
  refine .group rfl rfl fun child hchild _ => ?_
  obtain rfl : child = link := List.mem_singleton.1 hchild
  exact .plain rfl

/-- An accepted entry with a value that is rendered in another way, by the default options. -/
def ContentType.ShowsOrder (contentType : ContentType) (entry : Json) : Prop :=
  ∃ validator value, (Validator.build contentType .read false).result = .ok validator ∧
    validator.check entry = .accepted value ∧
    contentType.render {} value ≠ contentType.render {} entry

theorem ContentType.ShowsOrder.intro {contentType : ContentType} {entry : Json} (value : Json)
    (h : (Validator.build contentType .read false).result = .ok (.compiled contentType .read false))
    (haccepted : (Validator.compiled contentType .read false).check entry = .accepted value)
    (hne : (contentType.render {} value).toOption ≠ (contentType.render {} entry).toOption) :
    contentType.ShowsOrder entry :=
  ⟨_, value, h, haccepted, fun h => hne (congrArg Except.toOption h)⟩

/-- The order of members shows where a group stands in a row, in a block or in a quotation, the
name of a member in the heading of a block that stands for a shared field, the first key of an
item with two variants, and every member where two fields have one uid. -/
theorem ContentType.render_value_ne :
    let text (uid : String) : Field := ⟨{ uid, dataType := some "text" }, [], []⟩
    let named : Field :=
      ⟨{ uid := "content_type_uid", dataType := some "text", mandatory := true }, [], []⟩
    let group (uid : String) : Field :=
      ⟨{ uid, dataType := some "group" }, [text "a", text "b"], []⟩
    let rows : Field :=
      ⟨{ uid := "rows", dataType := some "group", multiple := true }, [group "cell"], []⟩
    let page (fields : List Field) : ContentType :=
      { fields := text "title" :: text "meta_description" :: fields }
    let blocks (definitions : List BlockDefinition) : ContentType :=
      page [⟨{ uid := "sections", dataType := some "blocks" }, [], definitions⟩]
    let pair : Json := .obj [("b", .str "2"), ("a", .str "1")]
    let sections (item : Members) : Json := .obj [("sections", .arr [.obj item])]
    (page [rows]).ShowsOrder (.obj [("rows", .arr [.obj [("cell", pair)]])]) ∧
    (blocks [⟨{ uid := "hero" }, [group "cell"]⟩]).ShowsOrder
      (sections [("hero", .obj [("cell", pair)])]) ∧
    (blocks [⟨{ uid := "quote" }, [group "quote_text"]⟩]).ShowsOrder
      (sections [("quote", .obj [("quote_text", pair)])]) ∧
    (blocks [⟨{ uid := "hero", referenceTo := some "shared" }, [named]⟩]).ShowsOrder
      (sections [("hero", .obj [("uid", .str "u"), ("content_type_uid", .str "c")])]) ∧
    (blocks [⟨{ uid := "hero" }, []⟩, ⟨{ uid := "quote" }, []⟩]).ShowsOrder
      (sections [("quote", .obj []), ("hero", .obj [])]) ∧
    (page [⟨{ uid := "more" }, [], []⟩,
      ⟨{ uid := "more", dataType := some "link" }, [], []⟩]).ShowsOrder
      (.obj [("more", .obj [("href", .str "/x"), ("title", .str "T")])]) := by
  intro text named group rows page blocks pair sections
  refine ⟨.intro (.obj [("rows", .arr [.obj [("cell", .obj [("a", .str "1"), ("b", .str "2")])]])])
      rfl ?_ ?_,
    .intro (sections [("hero", .obj [("cell", .obj [("a", .str "1"), ("b", .str "2")])])])
      rfl ?_ ?_,
    .intro (sections [("quote", .obj [("quote_text", .obj [("a", .str "1"), ("b", .str "2")])])])
      rfl ?_ ?_,
    .intro (sections [("hero", .obj [("uid", .str "u"), ("_content_type_uid", .str "c")])])
      rfl ?_ ?_,
    .intro (sections [("hero", .obj []), ("quote", .obj [])]) rfl ?_ ?_,
    .intro (.obj [("more", .obj [("title", .str "T"), ("href", .str "/x")])]) rfl ?_ ?_⟩
  all_goals decide +kernel

end ContentModel
