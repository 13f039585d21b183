import ContentModel.Proofs.Json.Replaced
import ContentModel.Schema.Diagnosis
import ContentModel.Schema.Reader

/-!
# Null attributes of definitions

A content type is made of definitions of several sorts, one inside the other. An attribute that may
be absent may as well be null.

* `DefinitionKind` are the sorts, `DefinitionKind.read` reads a definition of each;
* `DefinitionKind.DropsNull` says that a definition becomes another when a null attribute is taken
  out of it, or of a definition somewhere below;
* `Decode.member_without` and `Decode.extras_without` say what this does to the attributes that are
  read, `Decode.member_put` and `Decode.extras_put` what a change in a part does;
* `DefinitionKind.read_dropsNull` is the main statement: the same is read, or the same is found
  wrong at the same place; `DefinitionKind.report_dropsNull_ne` shows that the report of an error,
  which quotes what was found there, may yet differ.
-/

namespace ContentModel

/-! ## Definitions and their parts -/

/-- The sorts of definitions. -/
inductive DefinitionKind
  | contentType
  | field
  | block
  | choices
  | choice
  | metadata
  | taxonomy

namespace DefinitionKind

/-- What is read of a definition. -/
abbrev Outcome : DefinitionKind → Type
  | .contentType => Except ContentTypeError ContentType
  | .field => Checked Field
  | .block => Checked BlockDefinition
  | .choices => Checked FieldEnum
  | .choice => Checked EnumChoice
  | .metadata => Checked FieldMetadata
  | .taxonomy => Checked TaxonomyConfig

/-- Reads a definition. -/
def read : (kind : DefinitionKind) → Json → kind.Outcome
  | .contentType => ContentType.read
  | .field => Field.read
  | .block => BlockOf.read
  | .choices => FieldEnum.read
  | .choice => EnumChoice.read
  | .metadata => FieldMetadata.read
  | .taxonomy => TaxonomyConfig.read

/-- The attributes that may be absent, in all spellings. -/
def optionalKeys : DefinitionKind → List String
  | .contentType => ["uid", "title"]
  | .field =>
    ["data_type", "display_name", "mandatory", "multiple", "unique", "enum", "schema", "fields",
      "blocks", "field_metadata", "format", "startDate", "start_date", "endDate", "end_date",
      "max_instance", "reference_to", "taxonomies"]
  | .block => ["title", "reference_to", "schema", "fields"]
  | .choices => ["choices", "advanced"]
  | .choice => ["key"]
  | .metadata =>
    ["description", "instruction", "markdown", "allow_rich_text", "allow_json_rte", "multiline",
      "rich_text_type", "default_value", "_default", "is_default"]
  | .taxonomy => ["max_terms", "mandatory", "non_localizable"]

/-- The attributes of two spellings. -/
def spellings : DefinitionKind → List (String × String)
  | .field => [("schema", "fields"), ("startDate", "start_date"), ("endDate", "end_date")]
  | .block => [("schema", "fields")]
  | .metadata => [("_default", "is_default")]
  | _ => []

/-- The attributes that hold a definition of another sort. -/
inductive HasPart : DefinitionKind → String → DefinitionKind → Prop
  | choices : HasPart .field "enum" .choices
  | metadata : HasPart .field "field_metadata" .metadata

/-- The attributes that hold a list of definitions. Fields under the second spelling are read where
there are none under the first. -/
inductive HasList : DefinitionKind → Members → String → DefinitionKind → Prop
  | contentType (members : Members) : HasList .contentType members "schema" .field
  | blocks (members : Members) : HasList .field members "blocks" .block
  | taxonomies (members : Members) : HasList .field members "taxonomies" .taxonomy
  | choices (members : Members) : HasList .choices members "choices" .choice
  | fields {kind : DefinitionKind} (members : Members) (h : kind = .field ∨ kind = .block) :
      HasList kind members (Decode.spelling members "schema" "fields") .field

/-- An attribute is not given in another spelling as well. -/
def GivenOnce (kind : DefinitionKind) (members : Members) (key : String) : Prop :=
  ∀ names ∈ kind.spellings,
    (key = names.1 → members.has names.2 = false) ∧ (key = names.2 → members.has names.1 = false)

/-- A definition becomes another when an attribute that may be absent and is null, and is not given
in another spelling as well, is taken out, here or in a definition below. -/
inductive DropsNull : DefinitionKind → Json → Json → Prop
  | here {kind : DefinitionKind} {members : Members} {key : String}
      (optional : key ∈ kind.optionalKeys) (null : members.get? key = some .null)
      (alone : kind.GivenOnce members key) :
      DropsNull kind (.obj members) (.obj (members.without key))
  | part {kind sub : DefinitionKind} {members : Members} {key : String} {value other : Json}
      (part : kind.HasPart key sub) (given : members.get? key = some value)
      (deeper : DropsNull sub value other) :
      DropsNull kind (.obj members) (.obj (members.put key other))
  | item {kind sub : DefinitionKind} {members : Members} {key : String} {items : List Json}
      {i : Nat} {item other : Json} (part : kind.HasList members key sub)
      (given : members.get? key = some (.arr items)) (get : items[i]? = some item)
      (deeper : DropsNull sub item other) :
      DropsNull kind (.obj members) (.obj (members.put key (.arr (items.set i other))))

end DefinitionKind

/-! ## Attributes that are read -/

namespace Decode

variable {α : Type} {members : Members} {key : String}

theorem has_of_get? {value : Json} (h : members.get? key = some value) :
    members.has key = true := by
  rw [Members.has, h]
  rfl

theorem spelling_of_has {a b : String} (h : members.has a = true) : spelling members a b = a :=
  if_pos h

theorem spelling_of_not_has {a b : String} (h : members.has a = false) :
    spelling members a b = b :=
  if_neg (by simp [h])

theorem spelling_ne {a b : String} (ha : a ≠ key) (hb : b ≠ key) : spelling members a b ≠ key := by
  unfold spelling
  split
  · exact ha
  · exact hb

/-! ### Without a null attribute -/

/-- An attribute that may be null is read as if it were absent when it is. -/
theorem member_without (h : members.get? key = some .null) (decode : Json → Checked α)
    {default : α} (hnull : decode .null = .valid default) (name : String) :
    member (members.without key) name default decode = member members name default decode := by
  unfold member
  rw [Members.get?_without]
  by_cases hname : name = key
  · subst hname
    simp [h, hnull, Checked.under]
  · simp [hname]

theorem optionalText_without (h : members.get? key = some .null) (name : String) :
    optionalText (members.without key) name = optionalText members name :=
  member_without h (optional text) rfl name

theorem flag_without (h : members.get? key = some .null) (name : String) :
    flag (members.without key) name = flag members name :=
  member_without h (orDefault false boolean) rfl name

theorem required_without {name : String} (h : name ≠ key) (decode : Json → Checked α) :
    required (members.without key) name decode = required members name decode := by
  unfold required
  rw [Members.get?_without]
  simp [h]

theorem getD_without (h : members.get? key = some .null) (name : String) :
    (Members.get? (members.without key) name).getD .null =
      (Members.get? members name).getD .null := by
  rw [Members.get?_without]
  by_cases hname : name = key
  · simp [hname, h]
  · simp [hname]

theorem has_without (members : Members) (key name : String) :
    (members.without key).has name = (name != key && members.has name) := by
  unfold Members.has
  rw [Members.get?_without]
  cases name != key <;> simp

theorem spelling_without_of_ne {a b : String} (h : a ≠ key) :
    spelling (members.without key) a b = spelling members a b := by
  unfold spelling
  rw [has_without]
  simp [h]

/-- The second spelling counts when the first one is taken out. -/
theorem spelling_without_self {b : String} : spelling (members.without key) key b = b :=
  spelling_of_not_has (by simp [has_without])

/-- A null attribute that is not given in its other spelling is read the same in both. -/
theorem member_spelling_without (h : members.get? key = some .null) {a b : String}
    (alone : key = a → members.has b = false) (decode : Json → Checked α) {default : α}
    (hnull : decode .null = .valid default) :
    member members (spelling (members.without key) a b) default decode =
      member members (spelling members a b) default decode := by
  by_cases hkey : key = a
  · subst hkey
    have habsent : members.get? b = none := by simpa [Members.has] using alone rfl
    rw [spelling_without_self, spelling_of_has (has_of_get? h)]
    simp [member, habsent, h, hnull, Checked.under]
  · rw [spelling_without_of_ne (Ne.symm hkey)]

/-- The attributes that are left over do not change when one that is read is taken out. -/
theorem extras_without {names others : List String} (hkey : key ∈ names)
    (hnames : ∀ name, members.has name = true → name ≠ key → (name ∈ others ↔ name ∈ names)) :
    extras (members.without key) others = extras members names := by
  unfold extras Members.without
  rw [List.filter_filter]
  refine List.filter_congr fun pair hpair => ?_
  by_cases hname : pair.1 = key
  · simp [hname, hkey]
  · have hhas : members.has pair.1 = true :=
      Members.has_iff.2 (List.mem_map_of_mem hpair)
    simp [hname, hnames _ hhas hname]

/-- Of the attributes that are left, the same one is read under one of two spellings. -/
theorem eq_spelling_without (h : members.get? key = some .null) {a b name : String}
    (alone : key = a → members.has b = false) (hname : members.has name = true)
    (hne : name ≠ key) : name = spelling (members.without key) a b ↔
      name = spelling members a b := by
  by_cases hkey : key = a
  · subst hkey
    rw [spelling_without_self, spelling_of_has (has_of_get? h)]
    have hb : name ≠ b := by
      rintro rfl
      simp [alone rfl] at hname
    simp [hb, hne]
  · rw [spelling_without_of_ne (Ne.symm hkey)]

/-- An attribute that is there in one of two spellings only is read in this one. -/
theorem eq_spelling (h : members.has key = true) {a b : String} (hkey : key = a ∨ key = b)
    (alone : key = b → members.has a = false) : key = spelling members a b := by
  rcases hkey with rfl | rfl
  · exact (spelling_of_has h).symm
  · exact (spelling_of_not_has (alone rfl)).symm

/-! ### With a part replaced -/

variable {value other : Json}

/-- An attribute is read as before if a new value under its key reads like the old one. -/
theorem member_put (given : members.get? key = some value) {name : String}
    {decode : Json → Checked α} (hsame : name = key → decode other = decode value) (default : α) :
    member (members.put key other) name default decode = member members name default decode := by
  unfold member
  by_cases hname : name = key
  · subst hname
    rw [Members.get?_put_self, given]
    simp only [hsame rfl]
  · rw [Members.get?_put_of_ne members other hname]

theorem member_put_of_ne {name : String} (h : name ≠ key) (default : α)
    (decode : Json → Checked α) :
    member (members.put key other) name default decode = member members name default decode := by
  unfold member
  rw [Members.get?_put_of_ne members other h]

theorem required_put_of_ne {name : String} (h : name ≠ key) (decode : Json → Checked α) :
    required (members.put key other) name decode = required members name decode := by
  unfold required
  rw [Members.get?_put_of_ne members other h]

theorem spelling_put (given : members.get? key = some value) (a b : String) :
    spelling (members.put key other) a b = spelling members a b := by
  have hkeys : Members.keys (members.put key other) = Members.keys members :=
    Members.keys_put_of_has (has_of_get? given)
  have hhas : (members.put key other).has a = members.has a := by
    rw [Bool.eq_iff_iff, Members.has_iff, Members.has_iff, hkeys]
  unfold spelling
  rw [hhas]

theorem extras_put (given : members.get? key = some value) {names : List String}
    (hkey : key ∈ names) : extras (members.put key other) names = extras members names :=
  Members.filter_put (fun name => !names.contains name) (has_of_get? given) (by simpa using hkey)

/-- A list reads the same when one of its items is replaced by one that reads the same. -/
theorem itemsFrom_set {decode : Json → Checked α} {items : List Json} {i : Nat}
    (get : items[i]? = some value) (hsame : decode other = decode value) (index : Nat) :
    itemsFrom decode index (items.set i other) = itemsFrom decode index items := by
  induction items generalizing i index with
  | nil => simp at get
  | cons item rest ih =>
    cases i with
    | zero =>
      obtain rfl : item = value := by simpa using get
      simp only [List.set_cons_zero, itemsFrom, hsame]
    | succ i =>
      simp only [List.set_cons_succ, itemsFrom, ih (by simpa using get)]

end Decode

/-! ## Nested definitions -/

open Decode

theorem Field.listUnder_eq (key : String) (members : Members) :
    Field.listUnder key members =
      (members.get? key).map fun value => (Field.readList value).under (.key key) := by
  induction members with
  | nil => rfl
  | cons pair rest ih =>
    obtain ⟨k, value⟩ := pair
    by_cases h : k = key <;> simp [Field.listUnder, Members.get?, h, ih]

theorem BlockOf.listUnder_eq (key : String) (members : Members) :
    BlockOf.listUnder key members =
      (members.get? key).map fun value => (BlockOf.readList value).under (.key key) := by
  induction members with
  | nil => rfl
  | cons pair rest ih =>
    obtain ⟨k, value⟩ := pair
    by_cases h : k = key <;> simp [BlockOf.listUnder, Members.get?, h, ih]

theorem Field.readItems_eq (index : Nat) (items : List Json) :
    Field.readItems index items = itemsFrom Field.read index items := by
  induction items generalizing index with
  | nil => simp only [Field.readItems, itemsFrom]
  | cons item rest ih => simp only [Field.readItems, itemsFrom, ih]

theorem BlockOf.readItems_eq (index : Nat) (items : List Json) :
    BlockOf.readItems index items = itemsFrom BlockOf.read index items := by
  induction items generalizing index with
  | nil => simp only [BlockOf.readItems, itemsFrom]
  | cons item rest ih => simp only [BlockOf.readItems, itemsFrom, ih]

/-- The fields of a field or a block are an attribute of two spellings. -/
theorem Field.listUnder_or (members : Members) :
    ((Field.listUnder "schema" members).or (Field.listUnder "fields" members)).getD
        (.valid none) =
      member members (spelling members "schema" "fields") none Field.readList := by
  simp only [Field.listUnder_eq]
  cases h : members.get? "schema" with
  | some value => simp [spelling_of_has (has_of_get? h), member, h]
  | none =>
    have hhas : members.has "schema" = false := by rw [Members.has, h]; rfl
    rw [spelling_of_not_has hhas, member]
    cases members.get? "fields" <;> rfl

/-- The blocks of a field are an attribute of one spelling. -/
theorem BlockOf.listUnder_getD (members : Members) :
    (BlockOf.listUnder "blocks" members).getD (.valid none) =
      member members "blocks" none BlockOf.readList := by
  rw [BlockOf.listUnder_eq, member]
  cases members.get? "blocks" <;> rfl

theorem Field.read_obj (members : Members) : Field.read (.obj members) =
    Field.assemble members
      (member members (spelling members "schema" "fields") none Field.readList)
      (member members "blocks" none BlockOf.readList) := by
  rw [Field.read, Field.listUnder_or, BlockOf.listUnder_getD]

theorem BlockOf.read_obj (members : Members) : BlockOf.read (.obj members) =
    BlockOf.assemble members
      (member members (spelling members "schema" "fields") none Field.readList) := by
  rw [BlockOf.read, Field.listUnder_or]

/-! ## Definitions without a null attribute -/

/-- The attributes that the metadata of a field are read from. -/
def FieldMetadata.attributes (members : Members) : List String :=
  ["description", "instruction", "markdown", "allow_rich_text", "allow_json_rte", "multiline",
    "rich_text_type", "default_value", spelling members "_default" "is_default"]

/-- The attributes that a block is read from. -/
def BlockOf.attributes (members : Members) : List String :=
  ["uid", "title", "reference_to", spelling members "schema" "fields"]

/-- The attributes that a field is read from. -/
def Field.attributes (members : Members) : List String :=
  ["uid", "data_type", "display_name", "mandatory", "multiple", "unique", "enum",
    spelling members "schema" "fields", "blocks", "field_metadata", "format",
    spelling members "startDate" "start_date", spelling members "endDate" "end_date",
    "max_instance", "reference_to", "taxonomies"]

section Without

variable {members : Members} {key : String}

theorem EnumChoice.read_without (h : members.get? key = some .null) (hkey : key = "key") :
    EnumChoice.read (.obj (members.without key)) = EnumChoice.read (.obj members) := by
  have hextras : extras (members.without key) ["value", "key"] = extras members ["value", "key"] :=
    extras_without (by simp [hkey]) fun _ _ _ => Iff.rfl
  have hvalue : "value" ≠ key := by simp [hkey]
  simp only [EnumChoice.read, required_without hvalue, optionalText_without h, hextras]

theorem FieldEnum.read_without (h : members.get? key = some .null)
    (hkey : key ∈ DefinitionKind.choices.optionalKeys) :
    FieldEnum.read (.obj (members.without key)) = FieldEnum.read (.obj members) := by
  have hextras : extras (members.without key) ["choices", "advanced"] =
      extras members ["choices", "advanced"] := extras_without hkey fun _ _ _ => Iff.rfl
  simp only [FieldEnum.read, member_without h (orDefault [] (listOf EnumChoice.read)) rfl,
    flag_without h, hextras]

theorem TaxonomyConfig.read_without (h : members.get? key = some .null)
    (hkey : key ∈ DefinitionKind.taxonomy.optionalKeys) :
    TaxonomyConfig.read (.obj (members.without key)) = TaxonomyConfig.read (.obj members) := by
  have huid : "taxonomy_uid" ≠ key := by rintro rfl; simp [DefinitionKind.optionalKeys] at hkey
  have hextras : extras (members.without key)
        ["taxonomy_uid", "max_terms", "mandatory", "non_localizable"] =
      extras members ["taxonomy_uid", "max_terms", "mandatory", "non_localizable"] :=
    extras_without (List.mem_cons_of_mem _ hkey) fun _ _ _ => Iff.rfl
  simp only [TaxonomyConfig.read, required_without huid, member_without h (optional integer) rfl,
    flag_without h, hextras]

theorem FieldMetadata.read_without (h : members.get? key = some .null)
    (hkey : key ∈ DefinitionKind.metadata.optionalKeys)
    (alone : DefinitionKind.metadata.GivenOnce members key) :
    FieldMetadata.read (.obj (members.without key)) = FieldMetadata.read (.obj members) := by
  have hdefault := alone ("_default", "is_default") (by simp [DefinitionKind.spellings])
  have hmem : key ∈ FieldMetadata.attributes members := by
    have hspelled (hkey : key = "_default" ∨ key = "is_default") :=
      eq_spelling (has_of_get? h) hkey hdefault.2
    simp only [DefinitionKind.optionalKeys, FieldMetadata.attributes, List.mem_cons] at hkey ⊢
    grind
  have hextras : extras (members.without key) (attributes (members.without key)) =
      extras members (attributes members) :=
    extras_without hmem fun name hname hne => by
      simp only [attributes, List.mem_cons, eq_spelling_without h hdefault.1 hname hne]
  simp only [attributes] at hextras
  simp only [FieldMetadata.read, optionalText_without h, getD_without h, flag,
    member_without h (orDefault false boolean) rfl,
    member_spelling_without h hdefault.1 (orDefault false boolean) rfl, hextras]

theorem BlockOf.read_without (h : members.get? key = some .null)
    (hkey : key ∈ DefinitionKind.block.optionalKeys)
    (alone : DefinitionKind.block.GivenOnce members key) :
    BlockOf.read (.obj (members.without key)) = BlockOf.read (.obj members) := by
  have hfields := alone ("schema", "fields") (by simp [DefinitionKind.spellings])
  have huid : "uid" ≠ key := by rintro rfl; simp [DefinitionKind.optionalKeys] at hkey
  have hnull : Field.readList .null = .valid none := by simp only [Field.readList]
  have hmem : key ∈ BlockOf.attributes members := by
    have hspelled (hkey : key = "schema" ∨ key = "fields") :=
      eq_spelling (has_of_get? h) hkey hfields.2
    simp only [DefinitionKind.optionalKeys, BlockOf.attributes, List.mem_cons] at hkey ⊢
    grind
  have hextras : extras (members.without key) (attributes (members.without key)) =
      extras members (attributes members) :=
    extras_without hmem fun name hname hne => by
      simp only [attributes, List.mem_cons, eq_spelling_without h hfields.1 hname hne]
  simp only [attributes] at hextras
  simp only [BlockOf.read_obj, BlockOf.assemble, required_without huid, optionalText_without h,
    member_without h Field.readList hnull, member_spelling_without h hfields.1 Field.readList hnull,
    hextras]

theorem Field.read_without (h : members.get? key = some .null)
    (hkey : key ∈ DefinitionKind.field.optionalKeys)
    (alone : DefinitionKind.field.GivenOnce members key) :
    Field.read (.obj (members.without key)) = Field.read (.obj members) := by
  have hfields := alone ("schema", "fields") (by simp [DefinitionKind.spellings])
  have hstart := alone ("startDate", "start_date") (by simp [DefinitionKind.spellings])
  have hend := alone ("endDate", "end_date") (by simp [DefinitionKind.spellings])
  have huid : "uid" ≠ key := by rintro rfl; simp [DefinitionKind.optionalKeys] at hkey
  have hnull : Field.readList .null = .valid none := by simp only [Field.readList]
  have hnullBlocks : BlockOf.readList .null = .valid none := by simp only [BlockOf.readList]
  -- Of two spellings only the one that is given is read, and the null one is given alone.
  have hmem : key ∈ Field.attributes members := by
    have hspelled {a b : String} (hsecond : key = b → members.has a = false)
        (hkey : key = a ∨ key = b) := eq_spelling (has_of_get? h) hkey hsecond
    have hfieldsKey := hspelled hfields.2
    have hstartKey := hspelled hstart.2
    have hendKey := hspelled hend.2
    simp only [DefinitionKind.optionalKeys, Field.attributes, List.mem_cons] at hkey ⊢
    grind
  have hextras : extras (members.without key) (attributes (members.without key)) =
      extras members (attributes members) :=
    extras_without hmem fun name hname hne => by
      simp only [attributes, List.mem_cons, eq_spelling_without h hfields.1 hname hne,
        eq_spelling_without h hstart.1 hname hne, eq_spelling_without h hend.1 hname hne]
  simp only [attributes] at hextras
  simp only [Field.read_obj, Field.assemble, required_without huid, optionalText, flag_without h,
    member_without h (optional text) rfl, member_without h (optional integer) rfl,
    member_without h (optional FieldEnum.read) rfl,
    member_without h (orDefault {} FieldMetadata.read) rfl,
    member_without h (optional ReferenceTarget.read) rfl,
    member_without h (orDefault [] (listOf TaxonomyConfig.read)) rfl,
    member_without h Field.readList hnull, member_without h BlockOf.readList hnullBlocks,
    member_spelling_without h hfields.1 Field.readList hnull,
    member_spelling_without h hstart.1 (optional text) rfl,
    member_spelling_without h hend.1 (optional text) rfl, hextras]

theorem ContentType.read_without (h : members.get? key = some .null)
    (hkey : key ∈ DefinitionKind.contentType.optionalKeys) :
    ContentType.read (.obj (members.without key)) = ContentType.read (.obj members) := by
  have hschema : "schema" ≠ key := by rintro rfl; simp [DefinitionKind.optionalKeys] at hkey
  have hextras : extras (members.without key) ["uid", "title", "schema"] =
      extras members ["uid", "title", "schema"] :=
    extras_without (List.mem_append_left ["schema"] hkey) fun _ _ _ => Iff.rfl
  have hget : (Json.obj (members.without key)).get? "schema" =
      (Json.obj members).get? "schema" := by
    simp [Json.get?, Json.members, Members.get?_without, hschema]
  simp only [ContentType.read, hget, ContentType.readMembers, Json.members,
    optionalText_without h, hextras]

end Without

/-! ## Definitions with a part replaced -/

section Put

variable {members : Members} {key : String} {value other : Json}

theorem FieldEnum.read_put (given : members.get? "choices" = some value)
    (hsame : orDefault [] (listOf EnumChoice.read) other =
      orDefault [] (listOf EnumChoice.read) value) :
    FieldEnum.read (.obj (members.put "choices" other)) = FieldEnum.read (.obj members) := by
  simp only [FieldEnum.read, flag, member_put given fun _ => hsame,
    member_put_of_ne (show "advanced" ≠ "choices" by decide),
    extras_put given (show "choices" ∈ ["choices", "advanced"] by simp)]

theorem BlockOf.read_put (hkey : key = spelling members "schema" "fields")
    (given : members.get? key = some value) (hsame : Field.readList other = Field.readList value) :
    BlockOf.read (.obj (members.put key other)) = BlockOf.read (.obj members) := by
  have hne (name : String) (hschema : "schema" ≠ name) (hfields : "fields" ≠ name) : name ≠ key :=
    hkey ▸ (spelling_ne hschema hfields).symm
  have hextras : extras (members.put key other) (attributes members) =
      extras members (attributes members) := extras_put given (by simp [attributes, hkey])
  simp only [attributes] at hextras
  simp only [BlockOf.read_obj, BlockOf.assemble, optionalText, spelling_put given,
    required_put_of_ne (hne "uid" (by decide) (by decide)),
    member_put_of_ne (hne "title" (by decide) (by decide)),
    member_put_of_ne (hne "reference_to" (by decide) (by decide)),
    member_put given fun _ => hsame, hextras]

/-- The parts of a field are its choices, its metadata, its blocks, its taxonomies and its
fields. -/
theorem Field.read_put (given : members.get? key = some value)
    (hkey : key ∈ ["enum", "field_metadata", "blocks", "taxonomies",
      spelling members "schema" "fields"])
    (choices : "enum" = key → optional FieldEnum.read other = optional FieldEnum.read value)
    (metadata : "field_metadata" = key →
      orDefault {} FieldMetadata.read other = orDefault {} FieldMetadata.read value)
    (blocks : "blocks" = key → BlockOf.readList other = BlockOf.readList value)
    (taxonomies : "taxonomies" = key → orDefault [] (listOf TaxonomyConfig.read) other =
      orDefault [] (listOf TaxonomyConfig.read) value)
    (fields : spelling members "schema" "fields" = key →
      Field.readList other = Field.readList value) :
    Field.read (.obj (members.put key other)) = Field.read (.obj members) := by
  have hparts : key ∈ ["enum", "field_metadata", "blocks", "taxonomies", "schema", "fields"] := by
    have hspelling : spelling members "schema" "fields" = "schema" ∨
        spelling members "schema" "fields" = "fields" := by
      unfold spelling
      split <;> simp
    simp only [List.mem_cons] at hkey ⊢
    grind
  have hne (name : String) (hname : name ∉
      ["enum", "field_metadata", "blocks", "taxonomies", "schema", "fields"]) : name ≠ key :=
    fun heq => hname (heq ▸ hparts)
  have hstart : spelling members "startDate" "start_date" ≠ key :=
    spelling_ne (hne _ (by decide)) (hne _ (by decide))
  have hend : spelling members "endDate" "end_date" ≠ key :=
    spelling_ne (hne _ (by decide)) (hne _ (by decide))
  have hextras : extras (members.put key other) (attributes members) =
      extras members (attributes members) := by
    refine extras_put given ?_
    simp only [attributes, List.mem_cons] at hkey ⊢
    grind
  simp only [attributes] at hextras
  simp only [Field.read_obj, Field.assemble, flag, optionalText, spelling_put given, hextras,
    member_put given choices, member_put given metadata, member_put given blocks,
    member_put given taxonomies, member_put given fields, member_put_of_ne hstart,
    member_put_of_ne hend, required_put_of_ne (hne "uid" (by decide)),
    member_put_of_ne (hne "data_type" (by decide)),
    member_put_of_ne (hne "display_name" (by decide)),
    member_put_of_ne (hne "mandatory" (by decide)), member_put_of_ne (hne "multiple" (by decide)),
    member_put_of_ne (hne "unique" (by decide)), member_put_of_ne (hne "format" (by decide)),
    member_put_of_ne (hne "max_instance" (by decide)),
    member_put_of_ne (hne "reference_to" (by decide))]

theorem ContentType.read_put {items others : List Json}
    (given : members.get? "schema" = some (.arr items))
    (hsame : itemsFrom Field.read 0 others = itemsFrom Field.read 0 items) :
    ContentType.read (.obj (members.put "schema" (.arr others))) =
      ContentType.read (.obj members) := by
  have hextras : extras (members.put "schema" (.arr others)) ["uid", "title", "schema"] =
      extras members ["uid", "title", "schema"] := extras_put given (by simp)
  simp only [ContentType.read, Json.get?, Json.members, Members.get?_put_self, given,
    ContentType.readMembers, listOf, hsame, hextras, optionalText,
    member_put_of_ne (show "uid" ≠ "schema" by decide),
    member_put_of_ne (show "title" ≠ "schema" by decide)]

end Put

/-! ## Definitions that drop nulls -/

theorem Field.readList_set {items : List Json} {i : Nat} {item other : Json}
    (get : items[i]? = some item) (hsame : Field.read other = Field.read item) :
    Field.readList (.arr (items.set i other)) = Field.readList (.arr items) := by
  simp only [Field.readList, Field.readItems_eq, itemsFrom_set get hsame]

theorem BlockOf.readList_set {items : List Json} {i : Nat} {item other : Json}
    (get : items[i]? = some item) (hsame : BlockOf.read other = BlockOf.read item) :
    BlockOf.readList (.arr (items.set i other)) = BlockOf.readList (.arr items) := by
  simp only [BlockOf.readList, BlockOf.readItems_eq, itemsFrom_set get hsame]

namespace DefinitionKind

variable {kind sub : DefinitionKind} {members : Members} {key : String} {value other : Json}

theorem DropsNull.exists_members (h : DropsNull kind value other) :
    ∃ members others, value = .obj members ∧ other = .obj others := by
  cases h <;> exact ⟨_, _, rfl, rfl⟩

/-- The step of the induction for a null attribute of the definition itself. -/
theorem read_without (optional : key ∈ kind.optionalKeys) (null : members.get? key = some .null)
    (alone : kind.GivenOnce members key) :
    kind.read (.obj (members.without key)) = kind.read (.obj members) := by
  cases kind with
  | contentType => exact ContentType.read_without null optional
  | field => exact Field.read_without null optional alone
  | block => exact BlockOf.read_without null optional alone
  | choices => exact FieldEnum.read_without null optional
  | choice => exact EnumChoice.read_without null (List.mem_singleton.1 optional)
  | metadata => exact FieldMetadata.read_without null optional alone
  | taxonomy => exact TaxonomyConfig.read_without null optional

/-- The step of the induction for an attribute that is a definition. -/
theorem read_put (part : kind.HasPart key sub) (given : members.get? key = some value)
    (deeper : DropsNull sub value other) (hsame : sub.read other = sub.read value) :
    kind.read (.obj (members.put key other)) = kind.read (.obj members) := by
  obtain ⟨below, others, rfl, rfl⟩ := deeper.exists_members
  cases part with
  | choices =>
    refine Field.read_put given (by simp) (fun _ => ?_) (by simp) (by simp) (by simp) fun heq => ?_
    · exact congrArg (some <$> ·) hsame
    · exact absurd heq (spelling_ne (by decide) (by decide))
  | metadata =>
    refine Field.read_put given (by simp) (by simp) (fun _ => hsame) (by simp) (by simp)
      fun heq => ?_
    exact absurd heq (spelling_ne (by decide) (by decide))

/-- The step of the induction for an attribute that is a list of definitions. -/
theorem read_put_item {items : List Json} {i : Nat} {item : Json}
    (part : kind.HasList members key sub) (given : members.get? key = some (.arr items))
    (get : items[i]? = some item) (hsame : sub.read other = sub.read item) :
    kind.read (.obj (members.put key (.arr (items.set i other)))) = kind.read (.obj members) := by
  cases part with
  | contentType => exact ContentType.read_put given (itemsFrom_set get hsame 0)
  | blocks =>
    refine Field.read_put given (by simp) (by simp) (by simp)
      (fun _ => BlockOf.readList_set get hsame) (by simp) fun heq => ?_
    exact absurd heq (spelling_ne (by decide) (by decide))
  | taxonomies =>
    refine Field.read_put given (by simp) (by simp) (by simp) (by simp)
      (fun _ => itemsFrom_set get hsame 0) fun heq => ?_
    exact absurd heq (spelling_ne (by decide) (by decide))
  | choices => exact FieldEnum.read_put given (itemsFrom_set get hsame 0)
  | fields _ hkind =>
    have hlist := Field.readList_set get hsame
    rcases hkind with rfl | rfl
    · have hne (name : String) (hschema : "schema" ≠ name) (hfields : "fields" ≠ name)
          (heq : name = spelling members "schema" "fields") : False :=
        spelling_ne hschema hfields heq.symm
      exact Field.read_put given (by simp) (fun h => (hne _ (by decide) (by decide) h).elim)
        (fun h => (hne _ (by decide) (by decide) h).elim)
        (fun h => (hne _ (by decide) (by decide) h).elim)
        (fun h => (hne _ (by decide) (by decide) h).elim) fun _ => hlist
    · exact BlockOf.read_put rfl given hlist

/-- **Null means absent**: a definition from which null attributes are taken out, here or in the
definitions below it, is read the same, or the same is found wrong. -/
theorem read_dropsNull (h : DropsNull kind value other) : kind.read other = kind.read value := by
  induction h with
  | here optional null alone => exact read_without optional null alone
  | part part given deeper ih => exact read_put part given deeper ih
  | item part given get _ ih => exact read_put_item part given get ih

/-- The key of a choice of a field of a block of a content type is null, and taken out. -/
theorem read_dropsNull_choice :
    let choices (choice : Members) : Members := [("choices", .arr [.obj choice])]
    let size (choice : Members) : Members :=
      [("uid", .str "size"), ("enum", .obj (choices choice))]
    let hero (choice : Members) : Members :=
      [("uid", .str "hero"), ("fields", .arr [.obj (size choice)])]
    let sections (choice : Members) : Members :=
      [("uid", .str "sections"), ("blocks", .arr [.obj (hero choice)])]
    let page (choice : Members) : Members := [("schema", .arr [.obj (sections choice)])]
    let small : Members := [("value", .str "S")]
    let unnamed : Members := [("value", .str "S"), ("key", .null)]
    DropsNull .contentType (.obj (page unnamed)) (.obj (page small)) ∧
      ContentType.read (.obj (page small)) = ContentType.read (.obj (page unnamed)) := by
  intro choices size hero sections page small unnamed
  have hnull : unnamed.get? "key" = some .null := rfl
  have hchoice : DropsNull .choice (.obj unnamed) (.obj small) :=
    .here (by simp [optionalKeys]) hnull (by simp [GivenOnce, spellings])
  have hsize : DropsNull .field (.obj (size unnamed)) (.obj (size small)) :=
    .part .choices rfl (.item (.choices (choices unnamed)) rfl (i := 0) rfl hchoice)
  have hhero : DropsNull .block (.obj (hero unnamed)) (.obj (hero small)) :=
    .item (.fields (hero unnamed) (Or.inr rfl)) rfl (i := 0) rfl hsize
  have hsections : DropsNull .field (.obj (sections unnamed)) (.obj (sections small)) :=
    .item (.blocks (sections unnamed)) rfl (i := 0) rfl hhero
  have hpage : DropsNull .contentType (.obj (page unnamed)) (.obj (page small)) :=
    .item (.contentType (page unnamed)) rfl (i := 0) rfl hsections
  exact ⟨hpage, read_dropsNull hpage⟩

/-- A field without a uid: the report quotes it with its null attribute, or without. -/
theorem report_dropsNull_ne :
    let value : Json := .obj [("schema", .arr [.obj [("mandatory", .null)]])]
    let other : Json := .obj [("schema", .arr [.obj []])]
    DropsNull .contentType value other ∧
      ∃ error, ContentType.read value = .error error ∧ ContentType.read other = .error error ∧
        error.report value ≠ error.report other := by
  intro value other
  have hoptional : "mandatory" ∈ DefinitionKind.field.optionalKeys := by simp [optionalKeys]
  have hfield : DropsNull .field (.obj [("mandatory", .null)]) (.obj []) :=
    .here hoptional rfl (by simp [GivenOnce, spellings])
  have hpage : DropsNull .contentType value other :=
    .item (.contentType [("schema", .arr [.obj [("mandatory", .null)]])]) rfl (i := 0) rfl hfield
  exact ⟨hpage, _, rfl, rfl, by decide +kernel⟩

end DefinitionKind

end ContentModel
