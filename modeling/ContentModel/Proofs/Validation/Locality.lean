import ContentModel.Proofs.Validation.Frame
import ContentModel.Proofs.Validation.Governed

/-!
# Checking is local

What stands under one key of a record changes only what is found there and what comes out there.
There is one exception: a member that no field declares, spelled like the handle of a slot that is
not given, brings the slot in as null.

* `RecordSchema.Reaches.delegates` says that the check of an entry hands every record in it on to
  the check of that record;
* `RecordSchema.agreeOutside` and `RecordSchema.recordMembers_without_iff` are the two statements
  for one record, in which the exception is `RecordSchema.Invents`;
* `Validator.check_local` puts these together.
-/

namespace ContentModel

variable {mode : Mode} {draft : Bool}

/-! ## Slots of one record -/

namespace Slot

variable {slot : Slot} {slots : List Slot} {shape : Shape} {members others : Members} {key : String}

/-- Two records that agree but for a key agree on the slots of all other keys. -/
theorem read_eq_of_without (hother : slot.otherKey = none) (hne : slot.key ≠ key)
    (h : members.without key = others.without key) : slot.read members = slot.read others := by
  rw [read_of_otherKey hother, read_of_otherKey hother, Members.get?_eq_of_without h hne]

theorem kept_without (hother : ∀ slot ∈ slots, slot.otherKey = none)
    (h : members.without key = others.without key) :
    (kept shape slots members).without key = (kept shape slots others).without key := by
  have hcomm : ∀ given : Members, (undeclared slots given).without key =
      (given.without key).filter fun pair =>
        !(slots.map fun slot => slot.key).contains pair.1 := by
    intro given
    rw [undeclared_of_noOther hother, Members.without, Members.without, List.filter_filter,
      List.filter_filter]
    exact List.filter_congr fun _ _ => Bool.and_comm ..
  unfold kept
  split
  · rw [hcomm, hcomm, h]
  · rfl

/-- In two records that agree but for a key, the same comes out of a slot of another key, unless the
key is the handle of the slot, which is not given, and is one of the undeclared members of one
record only. -/
theorem result_kept_eq_iff (hother : ∀ slot ∈ slots, slot.otherKey = none) (hs : slot ∈ slots)
    (hne : slot.key ≠ key) (h : members.without key = others.without key) :
    slot.result members (kept shape slots members) = slot.result others (kept shape slots others) ↔
      ¬ (shape.isOpen = true ∧ key ∉ slots.map (fun slot => slot.key) ∧
        members.has key ≠ others.has key ∧ members.get? slot.key = none ∧ slot.handle = key) := by
  have hread := read_eq_of_without (hother slot hs) hne h
  cases hget : members.get? slot.key with
  | some value =>
    refine iff_of_true ?_ fun hinvented => nomatch hinvented.2.2.2.1
    rw [result_of_read (read_of_get? hget), result_of_read (hread ▸ read_of_get? hget)]
  | none =>
    have hnone : slot.read members = none := by rw [read_of_otherKey (hother slot hs), hget]; rfl
    have hresult : slot.result members (kept shape slots members) =
        slot.result others (kept shape slots others) ↔
          (kept shape slots members).has slot.handle =
            (kept shape slots others).has slot.handle := by
      rw [result_of_read_none hnone, result_of_read_none (hread ▸ hnone)]
      cases (kept shape slots members).has slot.handle <;>
        cases (kept shape slots others).has slot.handle <;> simp
    rw [hresult]
    by_cases hhandle : slot.handle = key
    · rw [hhandle]
      cases hopen : shape.isOpen with
      | false => simp [kept, hopen]
      | true =>
        rw [kept, kept, if_pos hopen, if_pos hopen, Bool.eq_iff_iff, has_undeclared_iff hother,
          has_undeclared_iff hother]
        cases members.has key <;> cases others.has key <;> simp
    · refine iff_of_true ?_ fun hinvented => hhandle hinvented.2.2.2.2
      rw [Members.has, Members.has, Members.get?_eq_of_without (kept_without hother h) hhandle]

/-- What comes out of two records that agree but for a key agrees but for the key just when the same
comes out of the slots of other keys. -/
theorem recordMembers_without_iff (hnodup : (slots.map fun slot => slot.key).Nodup)
    (hother : ∀ slot ∈ slots, slot.otherKey = none)
    (h : members.without key = others.without key) :
    (Checker.recordMembers shape slots members).without key =
        (Checker.recordMembers shape slots others).without key ↔
      ∀ slot ∈ slots, slot.key ≠ key → slot.result members (kept shape slots members) =
        slot.result others (kept shape slots others) := by
  have hseparate := Separate.of_noOther hnodup hother
  constructor
  · intro heq slot hs hne
    have hget := Members.get?_eq_of_without heq hne
    rwa [hseparate.get?_recordMembers hs, hseparate.get?_recordMembers hs] at hget
  · intro hresults
    have hpairs : ∀ slot ∈ slots,
        (slot.pairs members (kept shape slots members)).filter (fun pair => pair.1 != key) =
          (slot.pairs others (kept shape slots others)).filter fun pair => pair.1 != key := by
      intro slot hs
      by_cases hkey : slot.key = key
      · simp [pairs_eq, List.filter_map, Function.comp_def, hkey]
      · rw [pairs_eq, pairs_eq, hresults slot hs hkey]
    rw [hseparate.recordMembers_eq, hseparate.recordMembers_eq, Members.without, Members.without,
      List.filter_append, List.filter_append, results, results, List.filter_flatMap,
      List.filter_flatMap, List.flatMap_congr hpairs]
    exact congrArg _ (kept_without hother h)

end Slot

/-! ## One record -/

namespace RecordSchema

variable {record target : RecordSchema} {members others : Members} {key name : String}

/-- A key that is undeclared and given in one version of a record only is spelled like the handle of
a field that is not given, or of the metadata. -/
structure Invents (record : RecordSchema) (key : String) (members others : Members) : Prop where
  isOpen : record.isOpen = true
  undeclared : ¬ record.Declares key
  changes : members.has key ≠ others.has key
  handle : (∃ (i : Nat) (field : Field), record.fields[i]? = some field ∧
      members.get? field.uid = none ∧ key = "f" ++ Digits.intText i) ∨
    (record.hasMetadata = true ∧ (∀ field ∈ record.fields, field.uid ≠ "_metadata") ∧
      members.get? "_metadata" = none ∧ key = "item_metadata")

/-- What is found in a record but for hidden places does not depend on the value under a key, if the
places below the key are hidden, or nothing is declared under it. -/
theorem agreeOutside {hidden : Location → Bool} (h : members.without key = others.without key)
    (hhidden : record.Declares key → ∀ rest, hidden (.key key :: rest) = true) :
    (record.checker mode draft name).AgreeOutside hidden (.obj members) (.obj others) := by
  have hslots : ∀ slot ∈ record.slots mode draft,
      Finding.outside hidden (slot.findings members) =
        Finding.outside hidden (slot.findings others) := by
    intro slot hs
    by_cases hkey : slot.key = key
    · have hdeclared : record.Declares key :=
        (mem_keys_slots_iff mode draft record key).1 (hkey ▸ List.mem_map_of_mem hs)
      have hall : ∀ given : Members, Finding.outside hidden (slot.findings given) = [] := by
        refine fun given => Finding.outside_eq_nil fun finding hfinding => ?_
        rcases Slot.findings_cases hfinding with ⟨_, _, inner, hread, -, rfl⟩ | ⟨-, rfl⟩
        · obtain ⟨rfl, -⟩ := (Slot.read_eq_some_iff (otherKey_slots slot hs)).1 hread
          exact hkey ▸ hhidden hdeclared inner.location
        · exact hkey ▸ hhidden hdeclared []
      rw [hall, hall]
    · rw [Slot.findings, Slot.findings, Slot.read_eq_of_without (otherKey_slots slot hs) hkey h]
  have hfindings : ∀ given : Members, (record.checker mode draft name).findings (.obj given) =
      (record.slots mode draft).flatMap fun slot => slot.findings given := fun _ => rfl
  rw [Checker.AgreeOutside, hfindings, hfindings, Finding.outside_flatMap, Finding.outside_flatMap]
  exact List.flatMap_congr hslots

/-- What comes out of two versions of a record that agree but for a key agrees but for the key,
unless the key brings in a slot that is not given. -/
theorem recordMembers_without_iff (hdistinct : record.Distinct)
    (h : members.without key = others.without key) :
    (Checker.recordMembers (record.shape name) (record.slots mode draft) members).without key =
        (Checker.recordMembers (record.shape name) (record.slots mode draft) others).without key ↔
      ¬ record.Invents key members others := by
  rw [Slot.recordMembers_without_iff hdistinct.keys_nodup otherKey_slots h]
  constructor
  · rintro hresults ⟨hopen, hundeclared, hchanges, hhandle⟩
    have hnotMem : key ∉ (record.slots mode draft).map fun slot => slot.key := fun hmem =>
      hundeclared ((mem_keys_slots_iff mode draft record key).1 hmem)
    obtain ⟨slot, hs, habsent, hspelled⟩ : ∃ slot ∈ record.slots mode draft,
        members.get? slot.key = none ∧ slot.handle = key := by
      rcases hhandle with ⟨i, field, hget, habsent, rfl⟩ | ⟨hmetadata, hnone, habsent, rfl⟩
      · exact ⟨_, mem_slots_iff.2 (Or.inl ⟨i, field, hget, rfl⟩), habsent, rfl⟩
      · exact ⟨_, mem_slots_iff.2 (Or.inr ⟨hmetadata, hnone, rfl⟩), habsent, rfl⟩
    have hne : slot.key ≠ key := fun heq => hnotMem (heq ▸ List.mem_map_of_mem hs)
    exact (Slot.result_kept_eq_iff otherKey_slots hs hne h).1 (hresults slot hs hne)
      ⟨hopen, hnotMem, hchanges, habsent, hspelled⟩
  · intro hnot slot hs hne
    refine (Slot.result_kept_eq_iff otherKey_slots hs hne h).2 ?_
    rintro ⟨hopen, hnotMem, hchanges, habsent, hspelled⟩
    refine hnot ⟨hopen, fun hdeclared => ?_, hchanges, ?_⟩
    · exact hnotMem ((mem_keys_slots_iff mode draft record key).2 hdeclared)
    · rcases mem_slots_iff.1 hs with ⟨i, field, hget, rfl⟩ | ⟨hmetadata, hnone, rfl⟩
      · exact Or.inl ⟨i, field, hget, habsent, hspelled.symm⟩
      · exact Or.inr ⟨hmetadata, hnone, habsent, hspelled.symm⟩

/-- A closed record takes no notice of what stands under a key that it does not declare. -/
theorem value_of_closed (hdistinct : record.Distinct) (hclosed : record.isOpen = false)
    (hundeclared : ¬ record.Declares key) (h : members.without key = others.without key) :
    (record.checker mode draft name).value (.obj members) =
      (record.checker mode draft name).value (.obj others) := by
  have hseparate : Slot.Separate (record.slots mode draft) :=
    .of_noOther hdistinct.keys_nodup otherKey_slots
  have hvalue : ∀ given : Members, (record.checker mode draft name).value (.obj given) =
      .obj (Slot.results (record.slots mode draft) given []) := by
    intro given
    have hkept : Slot.kept (record.shape name) (record.slots mode draft) given = [] :=
      if_neg (Bool.eq_false_iff.1 hclosed)
    show Json.obj (Checker.recordMembers _ _ given) = _
    rw [hseparate.recordMembers_eq, hkept, List.append_nil]
  rw [hvalue, hvalue, (Slot.results_eq_iff hseparate.keys_nodup).2 fun slot hs => ?_]
  have hne : slot.key ≠ key := fun heq =>
    hundeclared ((mem_keys_slots_iff mode draft record key).1 (heq ▸ List.mem_map_of_mem hs))
  rw [Slot.result, Slot.result, Slot.read_eq_of_without (otherKey_slots slot hs) hne h]

/-! ## Records within records -/

/-- A record hands the value of a field on to the check of the field, unless it is null. -/
theorem delegates_field (mode : Mode) (draft : Bool) (name : String)
    (hdistinct : record.Distinct) {field : Field} {value : Json} (hmem : field ∈ record.fields)
    (given : members.get? field.uid = some value) (hvalue : value ≠ .null) :
    (record.checker mode draft name).Delegates (field.compiled mode draft) [.key field.uid]
      (.obj members) value := by
  obtain ⟨i, hget⟩ := List.mem_iff_getElem?.1 hmem
  have hs : field.slotWith draft i (field.compiled mode draft) ∈ record.slots mode draft :=
    mem_slots_iff.2 (Or.inl ⟨i, field, hget, rfl⟩)
  have hslot := Checker.delegates_record (record.shape name) hdistinct.keys_nodup otherKey_slots hs
    given
  rw [FieldInfo.checker_slotWith] at hslot
  split at hslot
  · exact hslot
  · exact hslot.trans (Checker.delegates_nullable _ hvalue)

/-- A block item hands a payload on to the check of its variant. -/
theorem delegates_payload (mode : Mode) (draft : Bool) {field : Field} {itemMembers : Members}
    {block : BlockDefinition} {payload : Json}
    (hnodup : (field.blocks.map fun block => block.uid).Nodup) (hmem : block ∈ field.blocks)
    (hinline : block.isReference = false) (given : itemMembers.get? block.uid = some payload) :
    (blockItemChecker field.uid
      (BlockOf.compiledSlots mode draft field.uid 0 field.blocks)).Delegates
      (block.record.checker mode draft (recordName ("Block_" ++ field.uid) (some block.uid)))
      [.key block.uid] (.obj itemMembers) payload := by
  obtain ⟨i, hget⟩ := List.mem_iff_getElem?.1 hmem
  have hs : variantSlot block.uid i (block.compiledPayload mode draft field.uid) ∈
      BlockOf.compiledSlots mode draft field.uid 0 field.blocks :=
    BlockOf.mem_compiledSlots.2 ⟨i, block, hget, rfl⟩
  have hslot := Checker.delegates_record
    { name := recordName "Blocks" (some field.uid), isTagged := true }
    (BlockOf.separate_compiledSlots field.uid hnodup).keys_nodup
    (fun _ => BlockOf.otherKey_compiledSlots) hs given
  rwa [variantSlot, compiledPayload_inline hinline] at hslot

/-- The check of a record hands every record within it on to the check of that record. -/
theorem Reaches.delegates {value : Json} {location : Location}
    (h : record.Reaches value location target) (hdistinct : record.Distinct) (mode : Mode)
    (draft : Bool) (name : String) : ∃ part name', (record.checker mode draft name).Delegates
      (target.checker mode draft name') location value part := by
  induction h generalizing name with
  | here record members => exact ⟨_, name, Checker.delegates_self _ _⟩
  | @group record target members field value rest mem kind single given deeper ih =>
    obtain ⟨part, name', hdeeper⟩ := ih (hdistinct.of_group mem) (recordName "Group" field.uid)
    obtain ⟨_, rfl⟩ := deeper.exists_members
    have hfield := delegates_field mode draft name hdistinct mem given nofun
    rw [compiled_single kind single] at hfield
    exact ⟨part, name', hfield.trans hdeeper⟩
  | @groupItem record target members field items i item rest mem kind multiple given get deeper
      ih =>
    obtain ⟨part, name', hdeeper⟩ := ih (hdistinct.of_group mem) (recordName "Group" field.uid)
    have hfield := delegates_field mode draft name hdistinct mem given nofun
    rw [compiled_instances kind multiple] at hfield
    exact ⟨part, name', (hfield.trans (Checker.delegates_list _ get)).trans hdeeper⟩
  | @payload record target members itemMembers field items i block value rest mem kind given get
      block_mem inline payload_given deeper ih =>
    obtain ⟨part, name', hdeeper⟩ := ih (hdistinct.of_block mem block_mem)
      (recordName ("Block_" ++ field.uid) block.uid)
    have hfield := delegates_field mode draft name hdistinct mem given nofun
    have hblocks : ¬ field.blocks.isEmpty = true := by
      rw [List.isEmpty_iff]
      exact List.ne_nil_of_mem block_mem
    rw [Field.compiled_blocks kind, if_neg hblocks] at hfield
    have hpayload := delegates_payload mode draft (hdistinct.blocks_nodup mem) block_mem inline
      payload_given
    have hitem := (hfield.trans (Checker.delegates_list _ get)).trans hpayload
    exact ⟨part, name', hitem.trans hdeeper⟩

end RecordSchema

namespace Validator

/-- The check of an entry hands a record in it on to the check of that record. -/
theorem delegates_compiled {contentType : ContentType} (hdistinct : contentType.Distinct)
    {entry : Json} {location : Location} {record : RecordSchema} {members : Members}
    (hreach : contentType.record.Reaches entry location record)
    (hat : entry.at? location = some (.obj members)) (mode : Mode) (draft : Bool) :
    ∃ name, (compiled contentType mode draft).checker.Delegates (record.checker mode draft name)
      location entry (.obj members) := by
  obtain ⟨part, name, hdelegates⟩ := hreach.delegates (show contentType.record.Distinct from
    hdistinct) mode draft (recordName "Entry" contentType.uid)
  obtain rfl : .obj members = part := Option.some.inj (hat.symm.trans hdelegates.at_location)
  exact ⟨name, checker_compiled contentType mode draft ▸ hdelegates⟩

/-- **Checking is local.** Let two entries differ in one record at most, and there in one key at
most. The issues at places that do not lead through the key are the same, in the same order; all
issues are, if nothing is declared under the key. If both entries are accepted, then the values
differ at most in the key of the record, unless the key brings in a slot that is not given; they are
the same if the record is the entry itself and nothing is declared under the key. -/
theorem check_local {contentType : ContentType} {validator : Validator}
    (hdistinct : contentType.Distinct)
    (h : (build contentType mode draft).result = .ok validator) {entry other : Json}
    {location : Location} {record : RecordSchema} {members others : Members} {key : String}
    (hreach : contentType.record.Reaches entry location record)
    (hreplaced : Json.Replaced (.obj members) (.obj others) location entry other)
    (hkey : members.without key = others.without key) :
    ((validator.check entry).issues.filter fun issue =>
        ¬ (location ++ [.key key]) <+: issue.location) =
      ((validator.check other).issues.filter fun issue =>
        ¬ (location ++ [.key key]) <+: issue.location) ∧
    (¬ record.Declares key → (validator.check entry).issues = (validator.check other).issues) ∧
    ∀ value value', validator.check entry = .accepted value →
      validator.check other = .accepted value' →
      (Json.DifferAt location key value value' ↔ ¬ record.Invents key members others) ∧
      (location = [] → ¬ record.Declares key → value = value') := by
  obtain rfl := eq_compiled h
  have hrecord : contentType.record.Distinct := hdistinct
  obtain ⟨name, hdelegates⟩ := delegates_compiled hdistinct hreach hreplaced.at?_left mode draft
  have hobject : Json.obj others ≠ .null := nofun
  have hissues (hidden : Location → Bool)
      (hhidden : record.Declares key → ∀ rest, hidden (location ++ .key key :: rest) = true) :
      (compiled contentType mode draft).checker.AgreeOutside hidden entry other :=
    hdelegates.findings hobject hreplaced (RecordSchema.agreeOutside hkey hhidden)
  refine ⟨?_, fun hundeclared => ?_, fun value value' haccepted haccepted' => ⟨?_, ?_⟩⟩
  · have hplaces := hissues (fun place => (location ++ [.key key]) <+: place) fun _ rest =>
      decide_eq_true ⟨rest, List.append_assoc ..⟩
    rw [check, check, Checker.issues_verdict, Checker.issues_verdict]
    simpa only [Checker.AgreeOutside, Finding.outside, ← decide_not] using hplaces
  · have hall := hissues (fun _ => false) fun hdeclared => absurd hdeclared hundeclared
    rw [check, check, Checker.issues_verdict, Checker.issues_verdict]
    exact Checker.agreeOutside_none_iff.1 hall
  · obtain ⟨-, rfl⟩ := check_eq_accepted.1 haccepted
    obtain ⟨-, rfl⟩ := check_eq_accepted.1 haccepted'
    rw [(hdelegates.value hobject hreplaced).differAt_iff]
    exact RecordSchema.recordMembers_without_iff (hreach.distinct hrecord) hkey
  · rintro rfl hundeclared
    obtain ⟨-, rfl⟩ := check_eq_accepted.1 haccepted
    obtain ⟨-, rfl⟩ := check_eq_accepted.1 haccepted'
    cases hreplaced
    cases hreach
    rw [checker_compiled]
    exact RecordSchema.value_of_closed hrecord rfl hundeclared hkey

/-- In a group, a member spelled like the handle of a field that is not given: nothing is found with
it or without it, and what comes out differs in the field as well. -/
theorem check_local_handle :
    let title : Field := ⟨{ uid := "title", dataType := some "text" }, [], []⟩
    let seo : Field := ⟨{ uid := "seo", dataType := some "group" }, [title], []⟩
    let contentType : ContentType := { fields := [seo] }
    let entry : Json := .obj [("seo", .obj [])]
    let other : Json := .obj [("seo", .obj [("f0", .int 1)])]
    ∃ validator, (build contentType .read false).result = .ok validator ∧
      (validator.check entry).issues = (validator.check other).issues ∧
      ∃ value value', validator.check entry = .accepted value ∧
        validator.check other = .accepted value' ∧
        ¬ Json.DifferAt [.key "seo"] "f0" value value' := by
  intro title seo contentType entry other
  have h : (build contentType .read false).result = .ok (compiled contentType .read false) := rfl
  have hdistinct : contentType.Distinct := by
    have htitle : title.Distinct := .of_fields List.nodup_nil nofun
    have hseo : seo.Distinct := .of_fields (List.nodup_singleton _) (by simpa [seo] using htitle)
    exact ⟨List.nodup_singleton _, by simpa [contentType] using hseo⟩
  have hreach : contentType.record.Reaches entry [.key seo.uid] seo.record :=
    .group List.mem_cons_self rfl rfl rfl (.here _ _)
  have hreplaced : Json.Replaced (.obj []) (.obj [("f0", .int 1)]) [.key "seo"] entry other :=
    .member rfl .here
  obtain ⟨-, hissues, hvalues⟩ := check_local hdistinct h hreach hreplaced
    (show Members.without [] "f0" = Members.without [("f0", .int 1)] "f0" from rfl)
  have hundeclared : ¬ seo.record.Declares "f0" := by
    rintro (⟨field, hfield, huid⟩ | ⟨hmetadata, -⟩)
    · obtain rfl := List.mem_singleton.1 hfield
      exact absurd huid (by decide)
    · cases hmetadata
  have hinvents : seo.record.Invents "f0" [] [("f0", .int 1)] :=
    ⟨rfl, hundeclared, by decide, Or.inl ⟨0, title, rfl, rfl, by decide⟩⟩
  have haccepted : (compiled contentType .read false).check entry =
      .accepted (.obj [("seo", .obj [])]) := by decide
  have haccepted' : (compiled contentType .read false).check other =
      .accepted (.obj [("seo", .obj [("title", .null), ("f0", .int 1)])]) := by decide
  refine ⟨_, h, hissues hundeclared, _, _, haccepted, haccepted', fun hdiffer => ?_⟩
  exact (hvalues _ _ haccepted haccepted').1.1 hdiffer hinvents

end Validator

end ContentModel
