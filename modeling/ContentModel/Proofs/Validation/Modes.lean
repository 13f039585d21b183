import Mathlib.Data.List.Forall2
import ContentModel.Proofs.Validation.Frame
import ContentModel.Proofs.Validation.Governed

/-!
# The two modes of validators

The validators of the two modes differ at the values of file fields only.

* `RecordSchema.Contains` says that a field stands in a record or in one below it,
  `RecordSchema.AtFile` that a location leads to the value of a file field of a record, or further
  down;
* `Checker.SameOutside` says that two checks find the same in a value but for hidden places, with
  one lemma for every way to build checks;
* `Field.sameOutside_compiled` compares the compiled checks of a field for two modes, and
  `Field.compiled_eq_of_no_file` says that they are one check where no file field is contained;
* `Validator.check_modes` says what this means for the two validators of a content type.
-/

namespace ContentModel

variable {mode mode' : Mode} {draft : Bool}

/-! ## File fields -/

namespace RecordSchema

/-- A field stands in a record, or in a group or an inline block within it. -/
inductive Contains : RecordSchema → Field → Prop
  | own {record : RecordSchema} {field : Field} (mem : field ∈ record.fields) :
      Contains record field
  | group {record : RecordSchema} {parent field : Field} (mem : parent ∈ record.fields)
      (kind : parent.kind = some .group) (deeper : Contains parent.record field) :
      Contains record field
  | payload {record : RecordSchema} {parent field : Field} {block : BlockDefinition}
      (mem : parent ∈ record.fields) (kind : parent.kind = some .blocks)
      (block_mem : block ∈ parent.blocks) (inline : block.isReference = false)
      (deeper : Contains block.record field) : Contains record field

/-- In a value that a record governs, a location leads to the value of a file field, or to a part of
it. -/
def AtFile (record : RecordSchema) (value : Json) (location : Location) : Prop :=
  ∃ (front rest : Location) (target : RecordSchema) (members : Members) (field : Field),
    record.Reaches value front target ∧ value.at? front = some (.obj members) ∧
      field ∈ target.fields ∧ field.kind = some .file ∧ members.has field.uid = true ∧
      location = front ++ .key field.uid :: rest

variable {record : RecordSchema} {members : Members} {field : Field} {value : Json}
  {location : Location}

theorem AtFile.own (mem : field ∈ record.fields) (kind : field.kind = some .file)
    (given : members.get? field.uid = some value) (rest : Location) :
    record.AtFile (.obj members) (.key field.uid :: rest) :=
  ⟨[], rest, record, members, field, .here record members, rfl, mem, kind,
    by rw [Members.has, given]; rfl, rfl⟩

theorem AtFile.group (mem : field ∈ record.fields) (kind : field.kind = some .group)
    (single : field.multiple = false) (given : members.get? field.uid = some value)
    (h : field.record.AtFile value location) :
    record.AtFile (.obj members) (.key field.uid :: location) := by
  obtain ⟨front, rest, target, inner, file, hreach, hat, hfile⟩ := h
  refine ⟨.key field.uid :: front, rest, target, inner, file,
    .group mem kind single given hreach, ?_, ?_⟩
  · rw [Json.at?_member given, hat]
  · obtain ⟨hmem, hkind, hhas, rfl⟩ := hfile
    exact ⟨hmem, hkind, hhas, rfl⟩

theorem AtFile.groupItem {items : List Json} {i : Nat} {item : Json}
    (mem : field ∈ record.fields) (kind : field.kind = some .group)
    (multiple : field.multiple = true) (given : members.get? field.uid = some (.arr items))
    (get : items[i]? = some item) (h : field.record.AtFile item location) :
    record.AtFile (.obj members) (.key field.uid :: .index i :: location) := by
  obtain ⟨front, rest, target, inner, file, hreach, hat, hfile⟩ := h
  refine ⟨.key field.uid :: .index i :: front, rest, target, inner, file,
    .groupItem mem kind multiple given get hreach, ?_, ?_⟩
  · rw [Json.at?_member given, Json.at?_item get, hat]
  · obtain ⟨hmem, hkind, hhas, rfl⟩ := hfile
    exact ⟨hmem, hkind, hhas, rfl⟩

theorem AtFile.payload {items : List Json} {i : Nat} {itemMembers : Members}
    {block : BlockDefinition} (mem : field ∈ record.fields) (kind : field.kind = some .blocks)
    (given : members.get? field.uid = some (.arr items))
    (get : items[i]? = some (.obj itemMembers)) (block_mem : block ∈ field.blocks)
    (inline : block.isReference = false) (payload_given : itemMembers.get? block.uid = some value)
    (h : block.record.AtFile value location) :
    record.AtFile (.obj members) (.key field.uid :: .index i :: .key block.uid :: location) := by
  obtain ⟨front, rest, target, inner, file, hreach, hat, hfile⟩ := h
  refine ⟨.key field.uid :: .index i :: .key block.uid :: front, rest, target, inner, file,
    .payload mem kind given get block_mem inline payload_given hreach, ?_, ?_⟩
  · rw [Json.at?_member given, Json.at?_item get, Json.at?_member payload_given, hat]
  · obtain ⟨hmem, hkind, hhas, rfl⟩ := hfile
    exact ⟨hmem, hkind, hhas, rfl⟩

end RecordSchema

/-! ## Two checks of one value -/

namespace Checker

open Finding

variable {hidden : Location → Bool} {first second : Checker} {value : Json}

/-- But for hidden places, two checks find the same in a value, in the same order. -/
def SameOutside (hidden : Location → Bool) (first second : Checker) (value : Json) : Prop :=
  outside hidden (first.findings value) = outside hidden (second.findings value)

theorem SameOutside.of_hidden (h : ∀ location, hidden location = true) :
    SameOutside hidden first second value := by
  have hnil : ∀ findings, outside hidden findings = [] := fun findings =>
    outside_eq_nil fun finding _ => h finding.location
  rw [SameOutside, hnil, hnil]

theorem SameOutside.nullable (h : SameOutside hidden first second value) :
    SameOutside hidden first.nullable second.nullable value := by
  cases value with
  | null => rfl
  | _ => exact h

theorem outside_itemFindings {index : Nat} {items : List Json}
    (h : ∀ (i : Nat) (item : Json), items[i]? = some item →
      SameOutside (fun rest => hidden (.index (index + i : Nat) :: rest)) first second item) :
    outside hidden (itemFindings first.findings index items) =
      outside hidden (itemFindings second.findings index items) := by
  induction items generalizing index with
  | nil => rfl
  | cons item rest ih =>
    have hitem := h 0 item rfl
    have hrest := @ih (index + 1) fun i other hget => by
      have hother := h (i + 1) other hget
      rwa [← Nat.add_assoc, Nat.add_right_comm] at hother
    rw [SameOutside, Nat.add_zero] at hitem
    rw [itemFindings, itemFindings, outside_append, outside_append, outside_under, outside_under,
      hitem, hrest]

/-- Two lists of one length limit find the same if their checks do in every item. -/
theorem sameOutside_list (most : Option Nat)
    (h : ∀ items, value = .arr items → ∀ (i : Nat) (item : Json), items[i]? = some item →
      SameOutside (fun rest => hidden (.index i :: rest)) first second item) :
    SameOutside hidden (list most first) (list most second) value := by
  cases value with
  | arr items =>
    simp only [SameOutside, list]
    split
    · rfl
    · refine outside_itemFindings fun i item hget => ?_
      rw [Nat.zero_add]
      exact h items rfl i item hget
  | _ => rfl

end Checker

/-- Two slots for one member, whose checks find the same in it but for hidden places. -/
structure Slot.SameOutside (hidden : Location → Bool) (members : Members) (first second : Slot) :
    Prop where
  key_eq : first.key = second.key
  otherKey_eq : first.otherKey = second.otherKey
  required_eq : first.required = second.required
  checker : ∀ key value, second.read members = some (key, value) →
    Checker.SameOutside (fun rest => hidden (.key key :: rest)) first.checker second.checker value

namespace Slot

open Finding

variable {hidden : Location → Bool} {members : Members} {slots others : List Slot}

theorem SameOutside.refl (slot : Slot) : SameOutside hidden members slot slot :=
  ⟨rfl, rfl, rfl, fun _ _ _ => rfl⟩

theorem SameOutside.findings {first second : Slot} (h : SameOutside hidden members first second) :
    outside hidden (first.findings members) = outside hidden (second.findings members) := by
  have hread : first.read members = second.read members := by
    rw [read, read, h.key_eq, h.otherKey_eq]
  rw [Slot.findings, Slot.findings, hread, h.required_eq, h.key_eq]
  split
  · next key value hvalue =>
    have hchecker := h.checker key value hvalue
    rw [Checker.SameOutside] at hchecker
    rw [outside_under, outside_under, hchecker]
  · rfl

theorem keys_eq_of_sameOutside (h : List.Forall₂ (SameOutside hidden members) slots others) :
    (slots.map fun slot => slot.key) = others.map fun slot => slot.key := by
  induction h with
  | nil => rfl
  | cons first _ ih => rw [List.map_cons, List.map_cons, first.key_eq, ih]

theorem findings_of_sameOutside (h : List.Forall₂ (SameOutside hidden members) slots others) :
    outside hidden (slots.flatMap fun slot => slot.findings members) =
      outside hidden (others.flatMap fun slot => slot.findings members) := by
  induction h with
  | nil => rfl
  | cons first _ ih =>
    rw [List.flatMap_cons, List.flatMap_cons, outside_append, outside_append, first.findings, ih]

/-- Whether a tag is declared depends on the keys of the slots alone. -/
theorem tagDeclared_congr (h : (slots.map fun slot => slot.key) = others.map fun slot => slot.key)
    (members : Members) : tagDeclared slots members = tagDeclared others members := by
  have hany (tag : String) : (slots.any fun slot => slot.key == tag) =
      others.any fun slot => slot.key == tag := by
    have hkeys := congrArg (fun keys => keys.any (· == tag)) h
    simpa only [List.any_map, Function.comp_def] using hkeys
  simp only [tagDeclared, hany]

end Slot

/-- Two records of one shape find the same if their slots do, one by one. -/
theorem Checker.sameOutside_record {hidden : Location → Bool} (shape : Shape)
    {slots others : List Slot} {value : Json}
    (h : ∀ members, value = .obj members →
      List.Forall₂ (Slot.SameOutside hidden members) slots others) :
    SameOutside hidden (record shape slots) (record shape others) value := by
  cases value with
  | obj members =>
    have hslots := h members rfl
    have htag := Slot.tagDeclared_congr (Slot.keys_eq_of_sameOutside hslots) members
    simp only [SameOutside, record, htag]
    split
    · rfl
    · exact Slot.findings_of_sameOutside hslots
  | _ => rfl

/-! ## The checks of one field for two modes -/

namespace RecordSchema

/-- The checks of a record for two modes find the same if the checks of its fields do. -/
theorem sameOutside_checker {record : RecordSchema} {hidden : Location → Bool} {name : String}
    {value : Json}
    (h : ∀ members : Members, value = .obj members → ∀ field ∈ record.fields, ∀ member,
      members.get? field.uid = some member →
        Checker.SameOutside (fun rest => hidden (.key field.uid :: rest))
          (field.compiled mode draft) (field.compiled mode' draft) member) :
    Checker.SameOutside hidden (record.checker mode draft name)
      (record.checker mode' draft name) value := by
  refine Checker.sameOutside_record _ fun members hvalue => ?_
  refine List.rel_append ?_ (List.forall₂_same.2 fun slot _ => .refl slot)
  rw [Field.compiledSlots_eq, Field.compiledSlots_eq, List.forall₂_map_left_iff,
    List.forall₂_map_right_iff]
  refine List.forall₂_same.2 ?_
  rintro ⟨field, i⟩ hpair
  dsimp only
  refine ⟨rfl, rfl, rfl, fun key member hread => ?_⟩
  have hmem : field ∈ record.fields := List.fst_mem_of_mem_zipIdx hpair
  obtain ⟨rfl, given⟩ := (Slot.read_eq_some_iff rfl).1 hread
  have hfield := h members hvalue field hmem member given
  rw [FieldInfo.checker_slotWith, FieldInfo.checker_slotWith]
  split
  · exact hfield
  · exact hfield.nullable

end RecordSchema

/-- The check of a plain field that is no file does not depend on the mode. -/
theorem FieldInfo.compiledPlain_eq_of_not_file {info : FieldInfo} (h : info.kind ≠ some .file)
    (mode mode' : Mode) : info.compiledPlain mode = info.compiledPlain mode' := by
  have hplain : info.plainChecker mode = info.plainChecker mode' := by
    unfold plainChecker
    split
    case h_5 hfile => exact absurd hfile h
    all_goals rfl
  rw [compiledPlain, compiledPlain, hplain]

namespace Field

open RecordSchema

/-- In the value of a field of a record, the checks of the field for two modes find the same, but
for the values of file fields. -/
theorem sameOutside_compiled (mode mode' : Mode) (draft : Bool) (field : Field)
    {record : RecordSchema} {members : Members} {value : Json} {hidden : Location → Bool}
    (mem : field ∈ record.fields) (given : members.get? field.uid = some value)
    (hfiles : ∀ rest, record.AtFile (.obj members) (.key field.uid :: rest) →
      hidden rest = true) :
    Checker.SameOutside hidden (field.compiled mode draft) (field.compiled mode' draft) value := by
  induction field using Field.induct generalizing record members value hidden with
  | node info fields blocks ihFields ihBlocks =>
    by_cases hg : info.kind = some .group
    · cases hmultiple : info.multiple with
      | false =>
        rw [RecordSchema.compiled_single hg hmultiple, RecordSchema.compiled_single hg hmultiple]
        refine sameOutside_checker fun inner hvalue child hchild member hmember => ?_
        refine ihFields child hchild hchild hmember fun rest hfile => hfiles _ ?_
        rw [hvalue] at given
        exact .group mem hg hmultiple given hfile
      | true =>
        rw [RecordSchema.compiled_instances hg hmultiple,
          RecordSchema.compiled_instances hg hmultiple]
        refine Checker.sameOutside_list _ fun items hvalue i item hget => ?_
        refine sameOutside_checker fun inner hitem child hchild member hmember => ?_
        refine ihFields child hchild hchild hmember fun rest hfile => hfiles _ ?_
        rw [hvalue] at given
        rw [hitem] at hget
        exact .groupItem mem hg hmultiple given hget hfile
    · by_cases hb : info.kind = some .blocks
      · rw [compiled_blocks hb, compiled_blocks hb]
        split
        · rfl
        · refine Checker.sameOutside_list _ fun items hvalue i item hget => ?_
          refine Checker.sameOutside_record _ fun inner hitem => ?_
          rw [BlockOf.compiledSlots_eq, BlockOf.compiledSlots_eq, List.forall₂_map_left_iff,
            List.forall₂_map_right_iff]
          refine List.forall₂_same.2 ?_
          rintro ⟨block, j⟩ hpair
          dsimp only
          refine ⟨rfl, rfl, rfl, fun key payload hread => ?_⟩
          have hblock : block ∈ blocks := List.fst_mem_of_mem_zipIdx hpair
          obtain ⟨rfl, hpayload⟩ := (Slot.read_eq_some_iff rfl).1 hread
          cases hinline : block.isReference with
          | true =>
            simp only [variantSlot, BlockOf.compiledPayload_reference hinline]
            rfl
          | false =>
            simp only [variantSlot, compiledPayload_inline hinline]
            refine sameOutside_checker fun last hlast child hchild member hmember => ?_
            refine ihBlocks block hblock child hchild hchild hmember
              fun rest hfile => hfiles _ ?_
            rw [hvalue] at given
            rw [hitem] at hget
            rw [hlast] at hpayload
            exact .payload mem hb given hget hblock hinline hpayload hfile
      · by_cases hf : info.kind = some .file
        · exact .of_hidden fun rest => hfiles rest (.own mem hf given rest)
        · rw [compiled_plain hg hb, compiled_plain hg hb]
          simp only [info.compiledPlain_eq_of_not_file hf mode mode']
          rfl

/-- Slots of fields whose checks are the same for two modes. -/
theorem compiledSlots_congr {fields : List Field}
    (h : ∀ field ∈ fields, field.compiled mode draft = field.compiled mode' draft) :
    compiledSlots mode draft 0 fields = compiledSlots mode' draft 0 fields := by
  rw [compiledSlots_eq, compiledSlots_eq]
  refine List.map_congr_left fun pair hpair => ?_
  have hfield := h pair.1 (List.fst_mem_of_mem_zipIdx hpair)
  simp only [hfield]

/-- The checks of a field for two modes are one check, if no file field is contained. -/
theorem compiled_eq_of_no_file (mode mode' : Mode) (draft : Bool) (field : Field)
    {record : RecordSchema} (mem : field ∈ record.fields)
    (hnone : ∀ inner, record.Contains inner → inner.kind ≠ some .file) :
    field.compiled mode draft = field.compiled mode' draft := by
  induction field using Field.induct generalizing record with
  | node info fields blocks ihFields ihBlocks =>
    by_cases hg : info.kind = some .group
    · have hslots : compiledSlots mode draft 0 fields = compiledSlots mode' draft 0 fields :=
        compiledSlots_congr fun child hchild =>
          @ihFields child hchild (Field.record ⟨info, fields, blocks⟩) hchild
            fun inner hinner => hnone inner (.group mem hg hinner)
      rw [compiled_group hg, compiled_group hg]
      simp only [hslots]
    · by_cases hb : info.kind = some .blocks
      · have hpayload : ∀ block ∈ blocks, block.compiledPayload mode draft info.uid =
            block.compiledPayload mode' draft info.uid := by
          intro block hblock
          cases hinline : block.isReference with
          | true => rw [BlockOf.compiledPayload_reference hinline,
              BlockOf.compiledPayload_reference hinline]
          | false =>
            have hslots : compiledSlots mode draft 0 block.fields =
                compiledSlots mode' draft 0 block.fields :=
              compiledSlots_congr fun child hchild =>
                @ihBlocks block hblock child hchild block.record hchild
                  fun inner hinner => hnone inner (.payload mem hb hblock hinline hinner)
            rw [BlockOf.compiledPayload_inline hinline, BlockOf.compiledPayload_inline hinline,
              recordSlots, recordSlots, hslots]
        have hslots : BlockOf.compiledSlots mode draft info.uid 0 blocks =
            BlockOf.compiledSlots mode' draft info.uid 0 blocks := by
          rw [BlockOf.compiledSlots_eq, BlockOf.compiledSlots_eq]
          refine List.map_congr_left fun pair hpair => ?_
          have hblock := hpayload pair.1 (List.fst_mem_of_mem_zipIdx hpair)
          simp only [hblock]
        rw [compiled_blocks hb, compiled_blocks hb]
        simp only [hslots]
      · rw [compiled_plain hg hb, compiled_plain hg hb]
        have hf : info.kind ≠ some .file := hnone _ (.own mem)
        simp only [info.compiledPlain_eq_of_not_file hf mode mode']

end Field

namespace Validator

/-- The findings of the two validators of a content type, but for the values of file fields. -/
theorem sameOutside_checker (contentType : ContentType) (mode mode' : Mode) (draft : Bool)
    {entry : Json} {hidden : Location → Bool}
    (hfiles : ∀ location, contentType.record.AtFile entry location → hidden location = true) :
    Checker.SameOutside hidden (compiled contentType mode draft).checker
      (compiled contentType mode' draft).checker entry := by
  rw [checker_compiled, checker_compiled]
  refine RecordSchema.sameOutside_checker fun members hentry field hmem member given => ?_
  refine Field.sameOutside_compiled mode mode' draft field hmem given fun rest hfile => ?_
  exact hfiles _ (hentry ▸ hfile)

open scoped Classical in
/-- **The two modes.** A content type that has a validator for one mode has one for either. For
every entry the issues of the two validators are the same, in the same order, but for those at the
value of a file field or below it; if no file field is contained in the content type, then the two
verdicts are the same. -/
theorem check_modes {contentType : ContentType} {validator : Validator}
    (h : (build contentType mode draft).result = .ok validator) :
    ∃ read upsert, (build contentType .read draft).result = .ok read ∧
      (build contentType .upsert draft).result = .ok upsert ∧
      (∀ entry,
        ((read.check entry).issues.filter fun issue =>
            ¬ contentType.record.AtFile entry issue.location) =
          ((upsert.check entry).issues.filter fun issue =>
            ¬ contentType.record.AtFile entry issue.location)) ∧
      ((∀ field, contentType.record.Contains field → field.kind ≠ some .file) →
        ∀ entry, read.check entry = upsert.check entry) := by
  refine ⟨_, _, result_build .read draft h, result_build .upsert draft h, fun entry => ?_,
    fun hnone entry => ?_⟩
  · have hfiles : ∀ location, contentType.record.AtFile entry location →
        decide (contentType.record.AtFile entry location) = true := fun _ => decide_eq_true
    have hsame := sameOutside_checker contentType .read .upsert draft hfiles
    rw [check, check, Checker.issues_verdict, Checker.issues_verdict]
    simpa only [Checker.SameOutside, Finding.outside, ← decide_not] using hsame
  · have hfields : ∀ field ∈ contentType.record.fields,
        field.compiled .read draft = field.compiled .upsert draft := fun field hmem =>
      field.compiled_eq_of_no_file .read .upsert draft hmem hnone
    have hslots := Field.compiledSlots_congr hfields
    have hchecker : contentType.compiled .read draft = contentType.compiled .upsert draft := by
      rw [ContentType.compiled, ContentType.compiled]
      exact congrArg _ hslots
    rw [check, check]
    exact congrArg (fun checker => Checker.verdict checker entry) hchecker

open scoped Classical in
/-- An instance of a group that names a file and has a text for a number, and an entry with a text
for a number under a content type without files. -/
theorem check_modes_rows :
    let number : Field := ⟨{ uid := "n", dataType := some "number" }, [], []⟩
    let icon : Field := ⟨{ uid := "icon", dataType := some "file" }, [], []⟩
    let rows : Field :=
      ⟨{ uid := "rows", dataType := some "group", multiple := true }, [icon, number], []⟩
    let page : ContentType := { fields := [rows] }
    let entry : Json := .obj [("rows", .arr [.obj [("icon", .str "a"), ("n", .str "5")]])]
    (∃ read upsert, (build page .read false).result = .ok read ∧
      (build page .upsert false).result = .ok upsert ∧
      (read.check entry).issues = [⟨[.key "rows", .index 0, .key "icon"], .notARecord "Asset"⟩,
        ⟨[.key "rows", .index 0, .key "n"], .notANumber⟩] ∧
      (upsert.check entry).issues = [⟨[.key "rows", .index 0, .key "n"], .notANumber⟩] ∧
      page.record.AtFile entry [.key "rows", .index 0, .key "icon"] ∧
      ((read.check entry).issues.filter fun issue => ¬ page.record.AtFile entry issue.location) =
        ((upsert.check entry).issues.filter fun issue =>
          ¬ page.record.AtFile entry issue.location)) ∧
    ∃ read upsert, (build { fields := [number] } .read false).result = .ok read ∧
      (build { fields := [number] } .upsert false).result = .ok upsert ∧
      read.check (.obj [("n", .str "5")]) = upsert.check (.obj [("n", .str "5")]) := by
  intro number icon rows page entry
  constructor
  · have h : (build page .read false).result = .ok (compiled page .read false) := rfl
    obtain ⟨read, upsert, hread, hupsert, hissues, -⟩ := check_modes h
    obtain rfl := eq_compiled hread
    obtain rfl := eq_compiled hupsert
    have hicon : icon ∈ rows.record.fields := List.mem_cons_self
    have hfile : rows.record.AtFile (.obj [("icon", .str "a"), ("n", .str "5")]) [.key icon.uid] :=
      .own hicon rfl rfl []
    exact ⟨_, _, hread, hupsert, by decide, by decide,
      .groupItem (i := 0) List.mem_cons_self rfl rfl rfl rfl hfile, hissues entry⟩
  · have h : (build { fields := [number] } .read false).result =
        .ok (compiled { fields := [number] } .read false) := rfl
    obtain ⟨read, upsert, hread, hupsert, -, hsame⟩ := check_modes h
    refine ⟨read, upsert, hread, hupsert, hsame (fun field hfield => ?_) _⟩
    -- the only field of the record is a number
    cases hfield with
    | own mem => cases List.mem_singleton.1 mem; decide
    | group mem kind => cases List.mem_singleton.1 mem; cases kind
    | payload mem kind => cases List.mem_singleton.1 mem; cases kind

end Validator

end ContentModel
