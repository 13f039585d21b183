import ContentModel.Proofs.Json.Replaced
import ContentModel.Proofs.Rendering.Congruence
import Mathlib.Data.List.Nodup

/-!
# Empty values in the document of an entry

An empty value is shown like an absent one, but for the places where a text or a record is shown
without a test for blank texts: the title and the description of an entry, the title of a block, a
quotation, and the reference to a shared entry. Below a value that is shown as running text every
member shows.

* `RecordPlace` is where a record of an entry stands, `RecordPlace.Shows` says which of its fields
  are shown there one by one, `RecordPlace.Heads` and `RecordPlace.Quotes` which of its keys are
  shown without a test;
* `Field.RecordDropsEmpty` and `Field.DropsEmpty` say that a record, or the value of a field,
  becomes another when a key with an empty value that does not show is taken out, there or below;
* `ShownAlike.of_sameOrEmpty` and `Field.structured_of_isEmptyValue` say that all empty values are
  shown alike;
* `Field.structured_dropsEmpty` says that a group or blocks field is rendered the same afterwards,
  `ContentType.render_dropsEmpty` says it of entries.
-/

namespace ContentModel

open Rendering

/-! ## Records without an empty value -/

/-- Where a record stands in an entry. -/
inductive RecordPlace
  | entry
  | group
  /-- An instance of a repeatable group. -/
  | row
  /-- The payload of a block. -/
  | payload (block : BlockDefinition)

namespace RecordPlace

variable (options : RenderOptions)

/-- A field of the record is shown where the fields are shown one by one. -/
def Shows : RecordPlace → Field → Prop
  | .entry, field => hidden options field.uid = false ∧ field.uid ≠ options.titleField ∧
      field.uid ≠ options.descriptionField
  | .group, field => hidden options field.uid = false
  | .row, field => field ∈ columns options [field]
  | .payload block, field => block.uid ≠ "quote" ∧ block.isReference = false ∧
      hidden options field.uid = false ∧
      (block.titleField.map fun title => title.uid) ≠ some field.uid

/-- The groups and blocks in the record are shown as sections. Elsewhere they are running text. -/
def IsSectioned : RecordPlace → Prop
  | .entry => True
  | .group => True
  | .row => False
  | .payload _ => False

/-- A nonempty text under the key is shown as a title or a description. -/
def Heads : RecordPlace → String → Prop
  | .entry, key => key = options.titleField ∨ key = options.descriptionField
  | .payload block, key => (block.titleField.map fun title => title.uid) = some key
  | _, _ => False

/-- What stands under the key is shown as running text, in a quotation or as a reference. -/
def Quotes : RecordPlace → Members → String → Prop
  | .payload block, members, key =>
    if block.uid = "quote" then
      key = "quote_text" ∨ key = "attribution" ∧ (valueOf members "quote_text").isTruthy = true
    else
      block.isReference = true ∧
        (key = "title" ∨ key = "uid" ∧ (valueOf members "title").isTruthy = false)
  | _, _, _ => False

/-- An empty value shows: a blank text that is shown as it is, or anything but null in place of the
uid of a shared entry. -/
def ShowsEmpty (place : RecordPlace) (members : Members) (key : String) (value : Json) : Prop :=
  (place.Heads options key ∨ place.Quotes members key) ∧ value.isTruthy = true ∨
    place.Quotes members key ∧ key = "uid" ∧ value ≠ .null

end RecordPlace

mutual

/-- A record of the fields becomes another when a key with an empty value is taken out of it or of a
record below. Where the record is shown, neither the value nor the record below may show in a place
that has no test for empty values. -/
inductive Field.RecordDropsEmpty (options : RenderOptions) :
    (shown : Bool) → RecordPlace → List Field → Json → Json → Prop
  | here {shown : Bool} {place : RecordPlace} {fields : List Field} {members : Members}
      {key : String} {value : Json} (given : members.get? key = some value)
      (empty : value.isEmptyValue = true)
      (unseen : shown = true → ¬ place.ShowsEmpty options members key value) :
      Field.RecordDropsEmpty options shown place fields (.obj members)
        (.obj (members.without key))
  | member {shown shownBelow : Bool} {place : RecordPlace} {fields : List Field}
      {members : Members} {field : Field} {value other : Json} (mem : field ∈ fields)
      (given : members.get? field.uid = some value)
      (deeper : Field.DropsEmpty options shownBelow field value other)
      (unquoted : shown = true → ¬ place.Quotes members field.uid)
      (sectioned : shown = true → ∀ sibling ∈ fields, sibling.uid = field.uid →
        place.Shows options sibling → place.IsSectioned)
      (siblings : shown = true → ∀ sibling ∈ fields, sibling.uid = field.uid →
        place.Shows options sibling → Field.DropsEmpty options true sibling value other) :
      Field.RecordDropsEmpty options shown place fields (.obj members)
        (.obj (members.put field.uid other))

/-- A value of a field becomes another when a key with an empty value is taken out of a record in
it. -/
inductive Field.DropsEmpty (options : RenderOptions) :
    (shown : Bool) → Field → Json → Json → Prop
  | group {shown : Bool} {field : Field} {value other : Json} (kind : field.isGroup = true)
      (single : field.multiple = false)
      (record : Field.RecordDropsEmpty options shown .group field.fields value other) :
      Field.DropsEmpty options shown field value other
  | row {shown : Bool} {field : Field} {items : List Json} {i : Nat} {item other : Json}
      (kind : field.isGroup = true) (multiple : field.multiple = true)
      (get : items[i]? = some item)
      (record : Field.RecordDropsEmpty options shown .row field.fields item other) :
      Field.DropsEmpty options shown field (.arr items) (.arr (items.set i other))
  | payload {shown : Bool} {field : Field} {items : List Json} {i : Nat} {members : Members}
      {key : String} {index : Nat} {block : BlockDefinition} {payload other : Json}
      (kind : field.isBlocks = true) (get : items[i]? = some (.obj members))
      (matched : BlockMatch.of (.obj members) field.blocks = .variant key index block payload)
      (record : Field.RecordDropsEmpty options shown (.payload block) block.fields payload other) :
      Field.DropsEmpty options shown field (.arr items)
        (.arr (items.set i (.obj (members.put key other))))

end

/-- An entry becomes another when a key with an empty value is taken out of it or of a record in
it, and neither the value nor the record shows in a place that has no test for empty values. -/
def ContentType.DropsEmpty (options : RenderOptions) (contentType : ContentType)
    (entry other : Json) : Prop :=
  Field.RecordDropsEmpty options true .entry contentType.fields entry other

/-! ## Empty values -/

namespace Json

variable {value other : Json}

theorem members_of_isEmptyValue (h : value.isEmptyValue = true) : value.members = [] := by
  cases value with
  | obj members => cases h
  | _ => rfl

/-- Two values are the same, or both are empty. -/
def SameOrEmpty (value other : Json) : Prop :=
  other = value ∨ value.isEmptyValue = true ∧ other.isEmptyValue = true

theorem SameOrEmpty.isEmptyValue_eq (h : SameOrEmpty value other) :
    other.isEmptyValue = value.isEmptyValue := by
  rcases h with rfl | ⟨hvalue, hother⟩
  · rfl
  · rw [hvalue, hother]

end Json

namespace Rendering

variable {options : RenderOptions} {members : Members} {key name : String} {value other : Json}

theorem valueOf_without (members : Members) (key name : String) :
    valueOf (members.without key) name = if name = key then .null else valueOf members name := by
  rw [valueOf, valueOf, Members.get?_without]
  by_cases h : name = key <;> simp [h]

theorem valueOf_put_of_ne (h : name ≠ key) : valueOf (members.put key value) name =
    valueOf members name := by
  rw [valueOf, valueOf, Members.get?_put_of_ne members value h]

theorem valueOf_of_get? (h : members.get? key = some value) : valueOf members key = value := by
  rw [valueOf, h, Option.getD_some]

/-- Empty values are shown alike. -/
theorem ShownAlike.of_sameOrEmpty {field : Field} (h : Json.SameOrEmpty value other) :
    ShownAlike options field value other := by
  rcases h with rfl | ⟨hvalue, hother⟩
  · exact .refl options field _
  · refine ⟨by rw [hvalue, hother], ?_, fun _ key => ?_⟩
    · rw [primitive_of_isEmptyValue hvalue, primitive_of_isEmptyValue hother]
    · rw [Json.get?, Json.get?, Json.members_of_isEmptyValue hvalue,
        Json.members_of_isEmptyValue hother]

theorem blocksText_of_isEmptyValue {level : Int} {definitions : List BlockDefinition}
    (h : value.isEmptyValue = true) : blocksText options level definitions value = .ok "" := by
  cases value with
  | arr items =>
    obtain rfl := List.isEmpty_iff.1 h
    rfl
  | _ => rfl

theorem instanceTable_of_isEmptyValue {fields : List Field} (h : value.isEmptyValue = true) :
    instanceTable options fields value = .ok "" := by
  cases value with
  | arr items =>
    obtain rfl := List.isEmpty_iff.1 h
    rfl
  | _ => rfl

end Rendering

namespace Field

variable {options : RenderOptions} {field : Field} {value other : Json}

/-- A group or blocks field is rendered the same with any two empty values. -/
theorem structured_of_isEmptyValue (level : Int)
    (hcontainer : (field.isGroup || field.isBlocks) = true) (hvalue : value.isEmptyValue = true)
    (hother : other.isEmptyValue = true) :
    field.structured options level other = field.structured options level value := by
  cases hblocks : field.isBlocks with
  | true =>
    rw [structured_blocks level hblocks, structured_blocks level hblocks,
      blocksText_of_isEmptyValue hvalue, blocksText_of_isEmptyValue hother]
  | false =>
    have hgroup : field.isGroup = true := by simpa [hblocks] using hcontainer
    cases hmultiple : field.multiple with
    | true =>
      rw [structured_instances level hgroup hmultiple, structured_instances level hgroup hmultiple,
        instanceTable_of_isEmptyValue hvalue, instanceTable_of_isEmptyValue hother]
    | false =>
      rw [structured_single level hgroup hmultiple, structured_single level hgroup hmultiple,
        Json.members_of_isEmptyValue hvalue, Json.members_of_isEmptyValue hother]

theorem structured_sameOrEmpty (level : Int)
    (hcontainer : (field.isGroup || field.isBlocks) = true) (h : Json.SameOrEmpty value other) :
    field.structured options level other = field.structured options level value := by
  rcases h with rfl | ⟨hvalue, hother⟩
  · rfl
  · exact structured_of_isEmptyValue level hcontainer hvalue hother

end Field

/-! ## Records -/

namespace Field

variable {options : RenderOptions} {field : Field} {fields : List Field} {place : RecordPlace}
  {shown : Bool} {value other : Json}

theorem RecordDropsEmpty.exists_members
    (h : RecordDropsEmpty options shown place fields value other) :
    ∃ members others, value = .obj members ∧ other = .obj others := by
  cases h <;> exact ⟨_, _, rfl, rfl⟩

/-- Only groups and blocks hold records. -/
theorem DropsEmpty.isContainer (h : field.DropsEmpty options shown value other) :
    (field.isGroup || field.isBlocks) = true := by
  cases h with
  | group kind => rw [kind, Bool.true_or]
  | row kind => rw [kind, Bool.true_or]
  | payload kind => rw [kind, Bool.or_true]

/-- What holds a record is an object, or a list that keeps its length. -/
theorem DropsEmpty.sameForm (h : field.DropsEmpty options shown value other) :
    Json.SameForm value other := by
  cases h with
  | group _ _ record =>
    obtain ⟨members, others, rfl, rfl⟩ := record.exists_members
    exact .obj members others
  | row => exact .arr List.length_set.symm
  | payload => exact .arr List.length_set.symm

theorem DropsEmpty.ne_str (h : field.DropsEmpty options shown value other) (text : String) :
    value ≠ .str text ∧ other ≠ .str text := by
  cases h with
  | group _ _ record =>
    obtain ⟨members, others, rfl, rfl⟩ := record.exists_members
    exact ⟨nofun, nofun⟩
  | row => exact ⟨nofun, nofun⟩
  | payload => exact ⟨nofun, nofun⟩

/-- Where no two fields of an entry or a group have the same uid, an empty value may be taken out of
a record in any of them. -/
theorem RecordDropsEmpty.of_distinct {members : Members} (hdistinct : DistinctUids fields)
    (hplace : place.IsSectioned) (hfield : field ∈ fields)
    (given : members.get? field.uid = some value) (h : field.DropsEmpty options true value other) :
    RecordDropsEmpty options true place fields (.obj members)
      (.obj (members.put field.uid other)) := by
  refine .member hfield given h (fun _ hquotes => ?_) (fun _ _ _ _ _ => hplace)
    fun _ sibling hsibling huid _ => ?_
  · cases place with
    | entry => exact hquotes
    | group => exact hquotes
    | row => exact hplace
    | payload => exact hplace
  · rwa [List.inj_on_of_nodup_map hdistinct hsibling hfield huid]

/-- A field that is shown holds what it held before, or something as empty, or what a record was
changed in if the record is shown as a section. -/
theorem RecordDropsEmpty.valueOf_cases (h : RecordDropsEmpty options true place fields value other)
    (hfield : field ∈ fields) (hshows : place.Shows options field) :
    Json.SameOrEmpty (valueOf value.members field.uid) (valueOf other.members field.uid) ∨
      place.IsSectioned ∧ field.DropsEmpty options true (valueOf value.members field.uid)
        (valueOf other.members field.uid) := by
  cases h with
  | @here _ _ _ members key value given empty _ =>
    refine Or.inl ?_
    simp only [Json.members, valueOf_without]
    by_cases huid : field.uid = key
    · rw [huid, if_pos rfl, valueOf_of_get? given]
      exact Or.inr ⟨empty, rfl⟩
    · rw [if_neg huid]
      exact Or.inl rfl
  | @member _ _ _ _ members holder value other _ given _ _ sectioned siblings =>
    simp only [Json.members]
    by_cases huid : field.uid = holder.uid
    · refine Or.inr ⟨sectioned rfl field hfield huid hshows, ?_⟩
      rw [huid, valueOf_of_get? given, valueOf_of_get? (Members.get?_put_self members _ other)]
      exact siblings rfl field hfield huid hshows
    · exact Or.inl (Or.inl (valueOf_put_of_ne huid))

/-- A plain field is shown alike, and where records are not sections every field is. -/
theorem RecordDropsEmpty.shownAlike (h : RecordDropsEmpty options true place fields value other)
    (hfield : field ∈ fields) (hshows : place.Shows options field)
    (hplain : place.IsSectioned → (field.isGroup || field.isBlocks) = false) :
    ShownAlike options field (valueOf value.members field.uid)
      (valueOf other.members field.uid) := by
  rcases h.valueOf_cases hfield hshows with hsame | ⟨hsectioned, hdrops⟩
  · exact .of_sameOrEmpty hsame
  · have hcontainer := hdrops.isContainer
    simp [hplain hsectioned] at hcontainer

/-- A title or description is the same nonempty text as before, or no nonempty text as before. -/
theorem RecordDropsEmpty.valueOf_str_iff {key text : String}
    (h : RecordDropsEmpty options true place fields value other) (hkey : place.Heads options key)
    (htext : text ≠ "") :
    valueOf other.members key = .str text ↔ valueOf value.members key = .str text := by
  cases h with
  | @here _ _ _ members name value given _ unseen =>
    simp only [Json.members, valueOf_without]
    by_cases hname : key = name
    · subst hname
      rw [if_pos rfl, valueOf_of_get? given]
      refine ⟨nofun, fun hvalue => absurd (Or.inl ⟨Or.inl hkey, ?_⟩) (unseen rfl)⟩
      simpa [hvalue, Json.isTruthy] using htext
    · rw [if_neg hname]
  | @member _ _ _ _ members holder value other _ given deeper _ _ _ =>
    simp only [Json.members]
    by_cases hname : key = holder.uid
    · rw [hname, valueOf_of_get? given, valueOf_of_get? (Members.get?_put_self members _ other)]
      exact iff_of_false (deeper.ne_str text).2 (deeper.ne_str text).1
    · rw [valueOf_put_of_ne hname]

/-- What is shown as running text is the same as before, or counts as false as before and is not the
uid of a shared entry. -/
theorem RecordDropsEmpty.quoted {key : String}
    (h : RecordDropsEmpty options true place fields value other)
    (hkey : place.Quotes value.members key) :
    valueOf other.members key = valueOf value.members key ∨
      key ≠ "uid" ∧ (valueOf value.members key).isTruthy = false ∧
        (valueOf other.members key).isTruthy = false := by
  cases h with
  | @here _ _ _ members name value given _ unseen =>
    simp only [Json.members, valueOf_without] at hkey ⊢
    by_cases hname : key = name
    · subst hname
      rw [if_pos rfl, valueOf_of_get? given]
      by_cases hnull : value = .null
      · exact Or.inl hnull.symm
      · refine Or.inr ⟨fun huid => unseen rfl (Or.inr ⟨hkey, huid, hnull⟩), ?_, rfl⟩
        rw [← Bool.not_eq_true]
        exact fun htruthy => unseen rfl (Or.inl ⟨Or.inr hkey, htruthy⟩)
    · rw [if_neg hname]
      exact Or.inl rfl
  | @member _ _ _ _ members holder value other _ _ _ unquoted _ _ =>
    refine Or.inl (valueOf_put_of_ne ?_)
    rintro rfl
    exact unquoted rfl hkey

end Field

/-! ## Blocks -/

namespace Field.RecordDropsEmpty

variable {options : RenderOptions} {block : BlockDefinition} {payload other : Json}

theorem blockHeading_eq (level : Int)
    (h : RecordDropsEmpty options true (.payload block) block.fields payload other) :
    blockHeading block other.members level = blockHeading block payload.members level :=
  blockHeading_congr level fun field hfield _ htext =>
    h.valueOf_str_iff (by simp [RecordPlace.Heads, hfield]) htext

theorem quoteLines_eq (hquote : block.uid = "quote")
    (h : RecordDropsEmpty options true (.payload block) block.fields payload other) :
    quoteLines other.members = quoteLines payload.members := by
  have htext : (RecordPlace.payload block).Quotes payload.members "quote_text" := by
    simp [RecordPlace.Quotes, hquote]
  unfold quoteLines
  rcases h.quoted htext with heq | ⟨-, hfalse, hfalse'⟩
  · cases htruthy : (valueOf payload.members "quote_text").isTruthy with
    | false => simp [heq, htruthy]
    | true =>
      -- The attribution is looked up only under a quotation.
      have hsource : (RecordPlace.payload block).Quotes payload.members "attribution" := by
        simp [RecordPlace.Quotes, hquote, htruthy]
      rcases h.quoted hsource with hsame | ⟨-, hnone, hnone'⟩
      · simp [heq, hsame]
      · simp [heq, hnone, hnone']
  · simp [hfalse, hfalse']

theorem referenceLines_eq (hquote : block.uid ≠ "quote") (hreference : block.isReference = true)
    (h : RecordDropsEmpty options true (.payload block) block.fields payload other) :
    referenceLines block other = referenceLines block payload := by
  have htitle : (RecordPlace.payload block).Quotes payload.members "title" := by
    simp [RecordPlace.Quotes, hquote, hreference]
  have huid (hfalse : (valueOf payload.members "title").isTruthy = false) :
      valueOf other.members "uid" = valueOf payload.members "uid" := by
    have hkey : (RecordPlace.payload block).Quotes payload.members "uid" := by
      simp [RecordPlace.Quotes, hquote, hreference, hfalse]
    exact (h.quoted hkey).resolve_right fun hne => hne.1 rfl
  have htext : referenceText other.members = referenceText payload.members := by
    unfold referenceText orElse
    cases htruthy : (valueOf payload.members "title").isTruthy with
    | true =>
      obtain heq | ⟨-, hfalse, -⟩ := h.quoted htitle
      · simp [heq, htruthy]
      · simp [hfalse] at htruthy
    | false =>
      obtain heq | ⟨-, -, hfalse⟩ := h.quoted htitle
      · simp [heq, htruthy, huid htruthy]
      · simp [hfalse, huid htruthy]
  obtain ⟨members, others, rfl, rfl⟩ := h.exists_members
  rw [referenceLines, referenceLines, htext]
  rfl

/-- The lines of a block are the same. -/
theorem blockLines_eq (level : Int)
    (h : RecordDropsEmpty options true (.payload block) block.fields payload other) :
    blockLines options level block.uid block other =
      blockLines options level block.uid block payload := by
  rw [Rendering.blockLines_eq, Rendering.blockLines_eq, h.blockHeading_eq level]
  refine congrArg (Except.map _) ?_
  unfold blockBody
  by_cases hquote : block.uid = "quote"
  · rw [if_pos hquote, if_pos hquote, h.quoteLines_eq hquote]
  · rw [if_neg hquote, if_neg hquote]
    cases hreference : block.isReference with
    | true => rw [if_pos rfl, if_pos rfl, h.referenceLines_eq hquote hreference]
    | false =>
      rw [if_neg Bool.false_ne_true, if_neg Bool.false_ne_true]
      exact blockFieldLines_congr fun field hfield hhidden htitle =>
        h.shownAlike hfield ⟨hquote, hreference, hhidden, htitle⟩ False.elim

end Field.RecordDropsEmpty

/-- An item stays of its variant when its payload is replaced. -/
theorem BlockMatch.of_put {members : Members} {blocks : List BlockDefinition} {key : String}
    {index : Nat} {block : BlockDefinition} {payload : Json} (other : Json)
    (h : of (.obj members) blocks = .variant key index block payload) :
    key = block.uid ∧
      of (.obj (members.put key other)) blocks = .variant key index block other := by
  rcases of_cases (.obj members) blocks with ⟨i, found, -, htag, hof⟩ | ⟨-, _, hof⟩
  · rw [hof] at h
    cases h
    have hkeys : Members.keys (members.put block.uid other) = Members.keys members :=
      Members.keys_put_of_has (Members.has_iff.2 (Members.isTag_of_tag? htag).2)
    have htag' : (Json.obj (members.put block.uid other)).tag? = some block.uid :=
      (Members.tag?_eq_of_keys hkeys).trans htag
    refine ⟨rfl, ?_⟩
    unfold of at hof ⊢
    rw [htag] at hof
    rw [htag']
    rcases find_cases block.uid 0 blocks with ⟨j, first, -, -, hfind⟩ | ⟨-, hfind⟩
    · simp only [hfind] at hof ⊢
      cases hof
      simp [Json.get?, Json.members, Members.get?_put_self]
    · simp only [hfind] at hof
      cases hof
  · rw [hof] at h
    cases h

/-! ## Groups and blocks -/

namespace Field

variable {options : RenderOptions} {field : Field} {value other : Json}

/-- A list in which one item is replaced agrees with itself at the other places. -/
theorem getElem?_set_cases {items : List Json} {i j : Nat} {part item : Json}
    (hpart : items[j]? = some part) (hother : (items.set i item)[j]? = some other) :
    other = part ∨ j = i ∧ other = item := by
  by_cases hj : i = j
  · subst hj
    obtain ⟨hlt, -⟩ := List.getElem?_eq_some_iff.1 hpart
    rw [List.getElem?_set_self hlt] at hother
    exact Or.inr ⟨rfl, (Option.some.inj hother).symm⟩
  · rw [List.getElem?_set_ne hj, hpart] at hother
    exact Or.inl (Option.some.inj hother).symm

/-- A group or blocks field is rendered the same when an empty value that does not show is taken
out of a record in it. -/
theorem structured_dropsEmpty (level : Int) (h : field.DropsEmpty options true value other) :
    field.structured options level other = field.structured options level value := by
  induction field using Field.induct generalizing level value other with
  | node info fields blocks ihFields _ =>
    cases h with
    | group kind single record =>
      refine structured_single_congr level kind single
        (fun child hchild hhidden hplain => record.shownAlike hchild hhidden fun _ => hplain)
        fun child hchild hhidden hcontainer => ?_
      rcases record.valueOf_cases hchild hhidden with hsame | ⟨-, hdrops⟩
      · exact ⟨hsame.isEmptyValue_eq, structured_sameOrEmpty (level + 1) hcontainer hsame⟩
      · exact ⟨hdrops.sameForm.isEmptyValue_eq, ihFields child hchild (level + 1) hdrops⟩
    | @row _ _ items i item other kind multiple get record =>
      rw [structured_instances level kind multiple, structured_instances level kind multiple]
      refine instanceTable_congr List.length_set fun j part changed hpart hchanged => ?_
      intro child hchild
      -- A row shows a table's columns and nothing else, so groups in it are running text.
      obtain rfl | ⟨rfl, rfl⟩ := getElem?_set_cases hpart hchanged
      · exact .refl options child _
      · obtain rfl : part = item := by simpa [hpart] using get
        obtain ⟨hmem, hcolumn⟩ := List.mem_filter.1 hchild
        exact record.shownAlike hmem (List.mem_filter.2 ⟨List.mem_singleton.2 rfl, hcolumn⟩)
          False.elim
    | @payload _ _ items i members key index block payload other kind get matched record =>
      rw [structured_blocks level kind, structured_blocks level kind]
      refine blocksText_congr List.length_set fun j part changed hpart hchanged => ?_
      obtain rfl | ⟨rfl, rfl⟩ := getElem?_set_cases hpart hchanged
      · rfl
      · obtain rfl : part = .obj members := by simpa [hpart] using get
        -- The item keeps its tag, so it is of the same variant as before.
        obtain ⟨rfl, hother⟩ := BlockMatch.of_put other matched
        change itemSection options (level + 1) blocks _ = itemSection options (level + 1) blocks _
        change BlockMatch.of (.obj members) blocks = _ at matched
        simp only [itemSection, matched, hother, record.blockLines_eq]

end Field

/-! ## Entries -/

theorem Field.entryField_congr {options : RenderOptions} {field : Field} {value other : Json}
    (h : Json.SameOrEmpty value other ∨ field.DropsEmpty options true value other) :
    other.isEmptyValue = value.isEmptyValue ∧
      entryField options other field = entryField options value field := by
  unfold entryField
  rcases h with hsame | hdrops
  · refine ⟨hsame.isEmptyValue_eq, ?_⟩
    cases hcontainer : field.isGroup || field.isBlocks with
    | true => rw [if_pos rfl, if_pos rfl, structured_sameOrEmpty _ hcontainer hsame]
    | false =>
      rw [if_neg Bool.false_ne_true, if_neg Bool.false_ne_true,
        (ShownAlike.of_sameOrEmpty hsame).primitive]
  · rw [hdrops.isContainer, structured_dropsEmpty _ hdrops]
    exact ⟨hdrops.sameForm.isEmptyValue_eq, rfl⟩

/-- **An empty value is as good as an absent one**: an entry is rendered the same, with the same
text or the same error, when a key with an empty value is taken out of it, or out of a group, an
instance of a repeatable group or a block in it, if the value does not show in a place that takes
blank texts for texts and the record is not shown as running text. -/
theorem ContentType.render_dropsEmpty {contentType : ContentType} {options : RenderOptions}
    {entry other : Json} (h : contentType.DropsEmpty options entry other) :
    contentType.render options other = contentType.render options entry := by
  have hfields : entryFields options other.members contentType.fields =
      entryFields options entry.members contentType.fields :=
    entryFields_congr fun field hfield htitle hdescription hhidden =>
      Field.entryField_congr ((h.valueOf_cases hfield ⟨hhidden, htitle, hdescription⟩).imp_right
        And.right)
  unfold render titleLines descriptionLines
  simp only [hfields, textLines_congr fun _ => h.valueOf_str_iff (Or.inl rfl),
    textLines_congr fun _ => h.valueOf_str_iff (Or.inr rfl)]

/-- A null title, a blank text in a row of a group and an empty list in a block, taken out one after
another. -/
theorem ContentType.render_dropsEmpty_records :
    let text (uid : String) : Field := ⟨{ uid, dataType := some "text" }, [], []⟩
    let rows : Field :=
      ⟨{ uid := "rows", dataType := some "group", multiple := true }, [text "a", text "b"], []⟩
    let more : Field := ⟨{ uid := "more", dataType := some "group" }, [rows], []⟩
    let hero : BlockDefinition := ⟨{ uid := "hero" }, [text "a", text "b"]⟩
    let sections : Field := ⟨{ uid := "sections", dataType := some "blocks" }, [], [hero]⟩
    let contentType : ContentType := { fields := [text "title", more, sections] }
    let record (values : Members) : Json := .obj (("b", .str "1") :: values)
    let entry (title row block : Members) : Json :=
      .obj (("more", .obj [("rows", .arr [record row])]) ::
        ("sections", .arr [.obj [("hero", record block)]]) :: title)
    contentType.render {} (entry [] [] []) =
      contentType.render {} (entry [("title", .null)] [("a", .str " ")] [("a", .arr [])]) := by
  intro text rows more hero sections contentType record entry
  have hrecord {fields : List Field} {place : RecordPlace} {value : Json}
      (empty : value.isEmptyValue = true) (unseen : ¬ place.Heads {} "a")
      (unquoted : ¬ place.Quotes [("b", .str "1"), ("a", value)] "a") :
      Field.RecordDropsEmpty {} true place fields (record [("a", value)]) (record []) := by
    have hget : Members.get? [("b", .str "1"), ("a", value)] "a" = some value := rfl
    exact .here hget empty fun _ => by simp [RecordPlace.ShowsEmpty, unquoted, unseen]
  have hdistinct : Field.DistinctUids contentType.fields ∧ Field.DistinctUids more.fields := by
    simp [Field.DistinctUids, contentType, text, more, sections]
  have htitle : contentType.DropsEmpty {} (entry [("title", .null)] [] []) (entry [] [] []) := by
    have hget : (entry [("title", .null)] [] []).members.get? "title" = some .null := rfl
    refine .here hget rfl fun _ => ?_
    simp [RecordPlace.ShowsEmpty, RecordPlace.Quotes, Json.isTruthy]
  have hrow : contentType.DropsEmpty {} (entry [("title", .null)] [("a", .str " ")] [])
      (entry [("title", .null)] [] []) := by
    have hrows : rows.DropsEmpty {} true (.arr [record [("a", .str " ")]]) (.arr [record []]) :=
      .row rfl rfl (i := 0) rfl (hrecord rfl id id)
    have hmore : more.DropsEmpty {} true (.obj [("rows", .arr [record [("a", .str " ")]])])
        (.obj [("rows", .arr [record []])]) := by
      have hplace : RecordPlace.group.IsSectioned := trivial
      exact .group rfl rfl (.of_distinct hdistinct.2 hplace (List.mem_singleton.2 rfl) rfl hrows)
    have hplace : RecordPlace.entry.IsSectioned := trivial
    exact .of_distinct hdistinct.1 hplace (by simp [contentType]) rfl hmore
  have hblock : contentType.DropsEmpty {}
      (entry [("title", .null)] [("a", .str " ")] [("a", .arr [])])
      (entry [("title", .null)] [("a", .str " ")] []) := by
    have hhero : Field.RecordDropsEmpty {} true (.payload hero) hero.fields
        (record [("a", .arr [])]) (record []) := by
      refine hrecord rfl ?_ ?_
      · simp [RecordPlace.Heads, BlockOf.titleField, hero, text]
      · simp [RecordPlace.Quotes, hero, BlockInfo.isReference]
    have hmatched : BlockMatch.of (.obj [("hero", record [("a", .arr [])])]) sections.blocks =
        .variant "hero" 0 hero (record [("a", .arr [])]) := rfl
    have hsections : sections.DropsEmpty {} true
        (.arr [.obj [("hero", record [("a", .arr [])])]]) (.arr [.obj [("hero", record [])]]) :=
      .payload rfl (i := 0) rfl hmatched hhero
    have hplace : RecordPlace.entry.IsSectioned := trivial
    exact .of_distinct hdistinct.1 hplace (by simp [contentType]) rfl hsections
  exact (render_dropsEmpty htitle).trans
    ((render_dropsEmpty hrow).trans (render_dropsEmpty hblock))

/-- An entry that the default options render in another way when a key with an empty value is taken
out of an object in it. -/
def ContentType.ShowsEmpty (contentType : ContentType) (entry : Json) : Prop :=
  ∃ (members : Members) (key : String) (value : Json) (location : Location) (other : Json),
    members.get? key = some value ∧ value.isEmptyValue = true ∧
    Json.Replaced (.obj members) (.obj (members.without key)) location entry other ∧
    contentType.render {} other ≠ contentType.render {} entry

theorem ContentType.ShowsEmpty.intro {contentType : ContentType} {members : Members}
    {value entry other : Json} (location : Location) (key : String)
    (h : Json.Replaced (.obj members) (.obj (members.without key)) location entry other)
    (given : members.get? key = some value) (empty : value.isEmptyValue = true)
    (hne : contentType.render {} other ≠ contentType.render {} entry) :
    contentType.ShowsEmpty entry :=
  ⟨members, key, value, location, other, given, empty, h, hne⟩

/-- Empty values show in the title and the description of an entry, in the title of a block, in a
quotation, in the reference to a shared entry, and in a group that stands in a row, in a block or
in a quotation, or shares its uid. -/
theorem ContentType.render_dropsEmpty_ne :
    let text (uid : String) : Field := ⟨{ uid, dataType := some "text", mandatory := true }, [], []⟩
    let group (uid : String) : Field := ⟨{ uid, dataType := some "group" }, [], []⟩
    let rows : Field :=
      ⟨{ uid := "rows", dataType := some "group", multiple := true }, [group "cell"], []⟩
    let page (fields : List Field) : ContentType := { fields }
    let sections (block : BlockDefinition) : ContentType :=
      page [⟨{ uid := "sections", dataType := some "blocks" }, [], [block]⟩]
    let item (uid : String) (payload : Members) : Json :=
      .obj [("sections", .arr [.obj [(uid, .obj payload)]])]
    let inner : Json := .obj [("a", .null)]
    (page []).ShowsEmpty (.obj [("title", .str " ")]) ∧
    (page []).ShowsEmpty (.obj [("meta_description", .str " ")]) ∧
    (sections ⟨{ uid := "hero" }, [text "name"]⟩).ShowsEmpty (item "hero" [("name", .str " ")]) ∧
    (sections ⟨{ uid := "quote" }, []⟩).ShowsEmpty (item "quote" [("quote_text", .str " ")]) ∧
    (sections ⟨{ uid := "quote" }, []⟩).ShowsEmpty
      (item "quote" [("quote_text", .str "a"), ("attribution", .str " ")]) ∧
    (sections ⟨{ uid := "hero", referenceTo := some "shared" }, []⟩).ShowsEmpty
      (item "hero" [("title", .str " "), ("uid", .str "u")]) ∧
    (sections ⟨{ uid := "hero", referenceTo := some "shared" }, []⟩).ShowsEmpty
      (item "hero" [("uid", .str "")]) ∧
    (page [rows]).ShowsEmpty (.obj [("rows", .arr [.obj [("cell", inner)]])]) ∧
    (sections ⟨{ uid := "hero" }, [group "cell"]⟩).ShowsEmpty (item "hero" [("cell", inner)]) ∧
    (sections ⟨{ uid := "quote" }, []⟩).ShowsEmpty (item "quote" [("quote_text", inner)]) ∧
    (page [group "more", text "more"]).ShowsEmpty (.obj [("more", inner)]) := by
  intro text group rows page sections item inner
  let payload (uid : String) : Location := [.key "sections", .index 0, .key uid]
  refine ⟨.intro [] "title" .here rfl rfl ?_, .intro [] "meta_description" .here rfl rfl ?_,
    .intro (payload "hero") "name" (.member rfl (.item rfl (.member rfl .here))) rfl rfl ?_,
    .intro (payload "quote") "quote_text" (.member rfl (.item rfl (.member rfl .here))) rfl rfl ?_,
    .intro (payload "quote") "attribution" (.member rfl (.item rfl (.member rfl .here))) rfl rfl ?_,
    .intro (payload "hero") "title" (.member rfl (.item rfl (.member rfl .here))) rfl rfl ?_,
    .intro (payload "hero") "uid" (.member rfl (.item rfl (.member rfl .here))) rfl rfl ?_,
    .intro [.key "rows", .index 0, .key "cell"] "a"
      (.member rfl (.item rfl (.member rfl .here))) rfl rfl ?_,
    .intro (payload "hero" ++ [.key "cell"]) "a"
      (.member rfl (.item rfl (.member rfl (.member rfl .here)))) rfl rfl ?_,
    .intro (payload "quote" ++ [.key "quote_text"]) "a"
      (.member rfl (.item rfl (.member rfl (.member rfl .here)))) rfl rfl ?_,
    .intro [.key "more"] "a" (.member rfl .here) rfl rfl ?_⟩
  all_goals decide +kernel

end ContentModel
