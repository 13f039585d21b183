import ContentModel.Proofs.Json.Form
import ContentModel.Proofs.Validation.Records
import ContentModel.Validation.Values

/-!
# Values that settle

A check settles on a value when it accepts what comes out of it and leaves that as it is.

* `Checker.Settles` is this property, with one lemma for every way to build checks;
  `Checker.settles_record_iff` is the one for records;
* `Checker.KeepsForm` says that a check takes lists to lists, objects to objects, and leaves other
  values as they are;
* `Checker.Stable` says that a check settles on every value it accepts. The shapes of structured
  values and of rich text are stable.
-/

namespace ContentModel

namespace Checker

variable {checker : Checker} {value : Json}

/-! ## Form -/

/-- What comes out of a value has the form of the value. -/
def KeepsForm (checker : Checker) : Prop := ∀ value, Json.SameForm value (checker.value value)

theorem KeepsForm.leaf (problem? : Json → Option Problem) : (leaf problem?).KeepsForm :=
  fun value => .refl value

theorem KeepsForm.nullable (h : checker.KeepsForm) : checker.nullable.KeepsForm := by
  intro value
  cases value with
  | null => exact .refl _
  | _ => exact h _

theorem KeepsForm.list (most : Option Nat) (checker : Checker) :
    (list most checker).KeepsForm := by
  intro value
  cases value with
  | arr items => exact .arr (by simp)
  | _ => exact .refl _

theorem KeepsForm.record (shape : Shape) (slots : List Slot) :
    (record shape slots).KeepsForm := by
  intro value
  cases value with
  | obj members => exact .obj _ _
  | _ => exact .refl _

theorem KeepsForm.value_null (h : checker.KeepsForm) : checker.value .null = .null :=
  (h .null).null_iff.2 rfl

/-! ## Settling -/

/-- What comes out of a value is accepted, and comes out of itself. -/
def Settles (checker : Checker) (value : Json) : Prop :=
  checker.findings (checker.value value) = [] ∧
    checker.value (checker.value value) = checker.value value

theorem settles_leaf {problem? : Json → Option Problem}
    (h : (leaf problem?).findings value = []) : (leaf problem?).Settles value :=
  ⟨h, rfl⟩

theorem settles_nullable_null (checker : Checker) : checker.nullable.Settles .null := ⟨rfl, rfl⟩

theorem settles_nullable_iff (hform : checker.KeepsForm) (hvalue : value ≠ .null) :
    checker.nullable.Settles value ↔ checker.Settles value := by
  have hout : checker.value value ≠ .null := fun h => hvalue ((hform value).null_iff.1 h)
  have hvalue_eq := value_nullable hform.value_null
  simp only [Settles, hvalue_eq, findings_nullable_eq_nil, hout, false_or]

theorem settles_list_iff {most : Option Nat} {items : List Json}
    (h : exceeds items.length most = false) :
    (list most checker).Settles (.arr items) ↔ ∀ item ∈ items, checker.Settles item := by
  have hfindings : (list most checker).findings (.arr (items.map checker.value)) = [] ↔
      ∀ item ∈ items, checker.findings (checker.value item) = [] := by
    rw [findings_list_eq_nil]
    simp [h]
  have hvalue : (list most checker).value (.arr (items.map checker.value)) =
      .arr (items.map checker.value) ↔
        ∀ item ∈ items, checker.value (checker.value item) = checker.value item := by
    simp [list]
  rw [Settles]
  refine (and_congr hfindings hvalue).trans ⟨?_, ?_⟩
  · rintro ⟨haccepted, heq⟩ item hitem
    exact ⟨haccepted item hitem, heq item hitem⟩
  · intro hall
    exact ⟨fun item hitem => (hall item hitem).1, fun item hitem => (hall item hitem).2⟩

end Checker

/-! ## Records -/

namespace Slot

variable {slot : Slot} {slots : List Slot} {members others : Members} {shape : Shape}

theorem result_of_read {key : String} {value : Json} (h : slot.read members = some (key, value)) :
    slot.result members others = some (slot.checker.value value) := by
  rw [result, h]

theorem result_of_read_none (h : slot.read members = none) :
    slot.result members others = if others.has slot.handle then some .null else none := by
  rw [result, h]

/-- Where nothing comes out of a slot, the slot is not given and its handle is not either. -/
theorem result_eq_none_iff : slot.result members others = none ↔
    slot.read members = none ∧ others.has slot.handle = false := by
  unfold result
  split
  · next h => simp [h]
  · next h => simp [h]

theorem results_eq_iff {given given' : Members} (hnodup : (slots.map fun slot => slot.key).Nodup) :
    results slots given others = results slots given' others ↔
      ∀ slot ∈ slots, slot.result given others = slot.result given' others := by
  constructor
  · intro h slot hslot
    rw [← get?_results hnodup hslot, h, get?_results hnodup hslot]
  · intro h
    induction slots with
    | nil => rfl
    | cons first rest ih =>
      rw [List.map_cons, List.nodup_cons] at hnodup
      rw [results_cons, results_cons, h first List.mem_cons_self,
        ih hnodup.2 fun slot hslot => h slot (List.mem_cons_of_mem _ hslot)]

namespace Separate

theorem kept_recordMembers (h : Separate slots) :
    kept shape slots (Checker.recordMembers shape slots members) = kept shape slots members := by
  conv => lhs; rw [kept]
  split
  · exact h.undeclared_recordMembers
  · next hclosed => rw [kept, if_neg hclosed]

/-- What comes out of a slot the second time. -/
theorem result_recordMembers (h : Separate slots) (hs : slot ∈ slots) :
    slot.result (Checker.recordMembers shape slots members) (kept shape slots members) =
      (slot.result members (kept shape slots members)).map slot.checker.value := by
  have hread : slot.read (Checker.recordMembers shape slots members) = _ :=
    h.read_recordMembers hs
  cases hresult : slot.result members (kept shape slots members) with
  | some value =>
    rw [hresult] at hread
    rw [result_of_read hread, Option.map_some]
  | none =>
    rw [hresult] at hread
    rw [result_of_read_none hread, (result_eq_none_iff.1 hresult).2]
    rfl

/-- The value of a record comes out of itself if the value of every slot does. -/
theorem recordMembers_recordMembers_eq_iff (h : Separate slots) :
    Checker.recordMembers shape slots (Checker.recordMembers shape slots members) =
        Checker.recordMembers shape slots members ↔
      ∀ slot ∈ slots, ∀ value, slot.result members (kept shape slots members) = some value →
        slot.checker.value value = value := by
  have hfirst : Checker.recordMembers shape slots members =
      results slots members (kept shape slots members) ++ kept shape slots members :=
    h.recordMembers_eq
  conv =>
    lhs
    lhs
    rw [h.recordMembers_eq, h.kept_recordMembers]
  conv =>
    lhs
    rhs
    rw [hfirst]
  rw [List.append_left_inj, results_eq_iff h.keys_nodup]
  refine forall₂_congr fun slot hslot => ?_
  rw [h.result_recordMembers hslot]
  cases slot.result members (kept shape slots members) <;> simp

/-- An object whose tag is declared comes out with a declared tag, be it another one. -/
theorem tagDeclared_recordMembers (h : Separate slots) (htag : tagDeclared slots members = true) :
    tagDeclared slots (Checker.recordMembers shape slots members) = true := by
  have hdeclared : ∃ key ∈ Members.keys (results slots members (kept shape slots members)),
      Members.isTag key = true := by
    unfold tagDeclared at htag
    split at htag
    · next tag htag? =>
      obtain ⟨slot, hslot, hkey⟩ := List.any_eq_true.1 htag
      obtain rfl : slot.key = tag := by simpa using hkey
      obtain ⟨hisTag, hmem⟩ := Members.isTag_of_tag? htag?
      obtain ⟨value, hvalue⟩ : ∃ value, members.get? slot.key = some value :=
        Option.ne_none_iff_exists'.1 fun hnone => Members.get?_eq_none_iff.1 hnone hmem
      refine ⟨slot.key, ?_, hisTag⟩
      exact List.mem_map.2 ⟨(slot.key, _),
        mem_results.2 ⟨slot, hslot, rfl, result_of_read (read_of_get? hvalue)⟩, rfl⟩
    · cases htag
  rw [h.recordMembers_eq, tagDeclared, Members.tag?_append]
  cases hresults : Members.tag? (results slots members (kept shape slots members)) with
  | none =>
    obtain ⟨key, hkey, hisTag⟩ := hdeclared
    simp [Members.tag?_eq_none_iff.1 hresults key hkey] at hisTag
  | some tag =>
    have hmem := (keys_results_sublist _ _ _).subset (Members.isTag_of_tag? hresults).2
    obtain ⟨slot, hslot, hkey⟩ := List.mem_map.1 hmem
    exact List.any_eq_true.2 ⟨slot, hslot, by simp [hkey]⟩

/-- Nothing is found in the value of an accepted object if nothing is found in what comes out of
its slots. -/
theorem findings_recordMembers_eq_nil_iff (h : Separate slots)
    (haccepted : (Checker.record shape slots).findings (.obj members) = []) :
    (Checker.record shape slots).findings
        (.obj (Checker.recordMembers shape slots members)) = [] ↔
      ∀ slot ∈ slots, ∀ value, slot.result members (kept shape slots members) = some value →
        slot.checker.findings value = [] := by
  obtain ⟨_, hobj, htag, hslots⟩ := Checker.findings_record_eq_nil.1 haccepted
  cases hobj
  have hslot : ∀ slot ∈ slots,
      slot.findings (Checker.recordMembers shape slots members) = [] ↔
        ∀ value, slot.result members (kept shape slots members) = some value →
          slot.checker.findings value = [] := by
    intro slot hs
    rw [findings_eq_nil, h.read_recordMembers hs]
    cases hresult : slot.result members (kept shape slots members) with
    | some value => simp
    | none => simpa using (findings_eq_nil.1 (hslots slot hs)).2 (result_eq_none_iff.1 hresult).1
  rw [Checker.findings_record_eq_nil]
  constructor
  · rintro ⟨_, hobj, -, hall⟩ slot hs
    cases hobj
    exact (hslot slot hs).1 (hall slot hs)
  · intro hall
    exact ⟨_, rfl, fun htagged => h.tagDeclared_recordMembers (htag htagged),
      fun slot hs => (hslot slot hs).2 (hall slot hs)⟩

end Separate

end Slot

/-- A record settles on an accepted object when the slots settle on their values, and those that are
not given but whose handle is take null. -/
theorem Checker.settles_record_iff {shape : Shape} {slots : List Slot} {members : Members}
    (h : Slot.Separate slots) (hnull : ∀ slot ∈ slots, slot.checker.value .null = .null)
    (haccepted : (record shape slots).findings (.obj members) = []) :
    (record shape slots).Settles (.obj members) ↔ ∀ slot ∈ slots,
      (∀ key value, slot.read members = some (key, value) → slot.checker.Settles value) ∧
      (slot.read members = none → (Slot.kept shape slots members).has slot.handle = true →
        slot.checker.findings .null = []) := by
  have hobj : (record shape slots).value (.obj members) =
    .obj (recordMembers shape slots members) := rfl
  have hobj' : (record shape slots).value (.obj (recordMembers shape slots members)) =
    .obj (recordMembers shape slots (recordMembers shape slots members)) := rfl
  rw [Settles, hobj, hobj', Json.obj.injEq, h.findings_recordMembers_eq_nil_iff haccepted,
    h.recordMembers_recordMembers_eq_iff]
  have hslot : ∀ slot ∈ slots,
      ((∀ value, slot.result members (Slot.kept shape slots members) = some value →
          slot.checker.findings value = []) ∧
        (∀ value, slot.result members (Slot.kept shape slots members) = some value →
          slot.checker.value value = value)) ↔
      ((∀ key value, slot.read members = some (key, value) → slot.checker.Settles value) ∧
        (slot.read members = none → (Slot.kept shape slots members).has slot.handle = true →
          slot.checker.findings .null = [])) := by
    intro slot hs
    cases hread : slot.read members with
    | some pair =>
      obtain ⟨key, given⟩ := pair
      simp [Slot.result_of_read hread, Settles]
    | none =>
      rw [Slot.result_of_read_none hread]
      by_cases hhas : (Slot.kept shape slots members).has slot.handle = true
      · simp [hhas, hnull slot hs]
      · simp [hhas]
  constructor
  · rintro ⟨hfindings, hvalues⟩ slot hs
    exact (hslot slot hs).1 ⟨hfindings slot hs, hvalues slot hs⟩
  · intro hall
    exact ⟨fun slot hs => ((hslot slot hs).2 (hall slot hs)).1,
      fun slot hs => ((hslot slot hs).2 (hall slot hs)).2⟩

/-! ## Stable checks -/

namespace Checker

variable {checker : Checker}

/-- A check that settles on every value it accepts. -/
def Stable (checker : Checker) : Prop :=
  ∀ value, checker.findings value = [] → checker.Settles value

theorem Stable.leaf (problem? : Json → Option Problem) : (leaf problem?).Stable :=
  fun _ => settles_leaf

theorem Stable.nullable (hform : checker.KeepsForm) (h : checker.Stable) :
    checker.nullable.Stable := by
  intro value hvalue
  by_cases hnull : value = .null
  · rw [hnull]
    exact settles_nullable_null checker
  · rw [settles_nullable_iff hform hnull]
    exact h value ((findings_nullable_eq_nil.1 hvalue).resolve_left hnull)

theorem Stable.list (most : Option Nat) (h : checker.Stable) : (list most checker).Stable := by
  intro value hvalue
  obtain ⟨items, rfl, hlimit, hitems⟩ := findings_list_eq_nil.1 hvalue
  exact (settles_list_iff hlimit).2 fun item hitem => h item (hitems item hitem)

end Checker

/-- A slot with a stable check, whose handle is a key that it is given under. -/
structure Slot.Stable (slot : Slot) : Prop where
  value_null : slot.checker.value .null = .null
  checker : slot.checker.Stable
  handle : slot.handle = slot.key ∨ slot.otherKey = some slot.handle

namespace Slot

variable {slot : Slot} {slots : List Slot} {members : Members} {shape : Shape}

theorem has_of_has_kept {key : String} (h : (kept shape slots members).has key = true) :
    members.has key = true := by
  unfold kept at h
  split at h
  · rw [Members.has, get?_undeclared] at h
    split at h
    · cases h
    · exact h
  · cases h

/-- A handle that is a key of its slot is not there when the slot is not given. -/
theorem not_has_handle (hhandle : slot.handle = slot.key ∨ slot.otherKey = some slot.handle)
    (hread : slot.read members = none) : (kept shape slots members).has slot.handle = false := by
  rw [Bool.eq_false_iff]
  intro hhas
  have hmembers := has_of_has_kept hhas
  rw [Members.has] at hmembers
  obtain ⟨hkey, hother⟩ := read_eq_none_iff.1 hread
  rcases hhandle with heq | heq
  · rw [heq, hkey] at hmembers
    cases hmembers
  · rw [hother _ heq] at hmembers
    cases hmembers

/-- What stands under the key of a slot whose handle is its key. -/
theorem Separate.get?_recordMembers_own (h : Separate slots) (hs : slot ∈ slots)
    (hother : slot.otherKey = none) (hhandle : slot.handle = slot.key) :
    (Checker.recordMembers shape slots members).get? slot.key =
      (members.get? slot.key).map slot.checker.value := by
  rw [h.get?_recordMembers hs]
  cases hread : slot.read members with
  | some pair =>
    rw [read_of_otherKey hother] at hread
    obtain ⟨value, hvalue, rfl⟩ := Option.map_eq_some_iff.1 hread
    rw [result, read_of_get? hvalue, hvalue]
    rfl
  | none =>
    rw [result_of_read_none hread, not_has_handle (Or.inl hhandle) hread,
      (read_eq_none_iff.1 hread).1]
    rfl

/-- A slot with one key, which is its handle, that leaves values as they are. -/
structure Faithful (slot : Slot) : Prop where
  otherKey : slot.otherKey = none
  handle : slot.handle = slot.key
  value : ∀ value, slot.checker.value value = value

theorem Faithful.leaf (key : String) (required : Bool) (problem? : Json → Option Problem) :
    Faithful { key, handle := key, required, checker := .leaf problem? } :=
  ⟨rfl, rfl, fun _ => rfl⟩

theorem Faithful.optional (key : String) (problem? : Json → Option Problem) :
    (RichTextShape.optional key (.leaf problem?)).Faithful :=
  ⟨rfl, rfl, Checker.value_nullable rfl⟩

/-- What stands under a key that belongs to faithful slots only, in a record that keeps undeclared
members. -/
theorem Separate.get?_recordMembers_faithful {key : String} (h : Separate slots)
    (hopen : shape.isOpen = true)
    (hslots : ∀ slot ∈ slots, slot.otherKey ≠ some key ∧ (slot.key = key → slot.Faithful)) :
    (Checker.recordMembers shape slots members).get? key = members.get? key := by
  by_cases hkey : ∃ slot ∈ slots, slot.key = key
  · obtain ⟨slot, hs, rfl⟩ := hkey
    have hfaithful := (hslots slot hs).2 rfl
    rw [h.get?_recordMembers_own hs hfaithful.otherKey hfaithful.handle]
    cases members.get? slot.key with
    | none => rfl
    | some value => rw [Option.map_some, hfaithful.value]
  · exact h.get?_recordMembers_undeclared hopen fun slot hs =>
      ⟨fun heq => hkey ⟨slot, hs, heq⟩, (hslots slot hs).1⟩

theorem Stable.optional (key : String) {problem? : Json → Option Problem} :
    (RichTextShape.optional key (.leaf problem?)).Stable :=
  ⟨rfl, .nullable (.leaf _) (.leaf _), Or.inl rfl⟩

end Slot

namespace Checker

theorem Stable.record (shape : Shape) {slots : List Slot} (hseparate : Slot.Separate slots)
    (h : ∀ slot ∈ slots, slot.Stable) : (record shape slots).Stable := by
  intro value hvalue
  obtain ⟨members, rfl, -, hslots⟩ := findings_record_eq_nil.1 hvalue
  rw [settles_record_iff hseparate (fun slot hs => (h slot hs).value_null) hvalue]
  intro slot hs
  constructor
  · intro key given hread
    exact (h slot hs).checker given ((Slot.findings_eq_nil.1 (hslots slot hs)).1 key given hread)
  · intro hread hhas
    rw [Slot.not_has_handle (h slot hs).handle hread] at hhas
    cases hhas

/-- A record whose slots have one key each. -/
theorem Stable.plainRecord (shape : Shape) {slots : List Slot}
    (hnodup : (slots.map fun slot => slot.key).Nodup)
    (h : ∀ slot ∈ slots, slot.otherKey = none ∧ slot.Stable) :
    (Checker.record shape slots).Stable :=
  .record shape (.of_noOther hnodup fun slot hslot => (h slot hslot).1)
    fun slot hslot => (h slot hslot).2

end Checker

/-! ## Structured values -/

/-- A slot for a name or an optional text, whose handle is one of its keys. -/
structure Slot.OfText (slot : Slot) : Prop where
  checker : slot.checker = .filledText ∨ slot.checker = Checker.text.nullable
  handle : slot.handle = slot.key ∨ slot.otherKey = some slot.handle

/-- A check of objects whose members are names and optional texts, given under some keys. -/
inductive Checker.OfTexts (keys : List String) : Checker → Prop
  | record {shape : Shape} {slots : List Slot} (untagged : shape.isTagged = false)
      (names : slots.flatMap Slot.names = keys) (nodup : keys.Nodup)
      (slots_ofText : ∀ slot ∈ slots, slot.OfText) : OfTexts keys (.record shape slots)

theorem Slot.OfText.elim {P : Checker → Prop} {slot : Slot} (h : slot.OfText)
    (name : P .filledText) (optionalText : P Checker.text.nullable) : P slot.checker := by
  rcases h.checker with hchecker | hchecker
  · rwa [hchecker]
  · rwa [hchecker]

theorem Slot.OfText.stable {slot : Slot} (h : slot.OfText) : slot.Stable where
  value_null := h.elim (P := fun checker => checker.value .null = .null) rfl rfl
  checker := h.elim (P := Checker.Stable) (.leaf _) (.nullable (.leaf _) (.leaf _))
  handle := h.handle

theorem Checker.OfTexts.stable {keys : List String} {checker : Checker}
    (h : checker.OfTexts keys) : checker.Stable := by
  cases h with
  | record _ hnames hnodup hslots =>
    exact .record _ (.of_names (hnames ▸ hnodup)) fun slot hs => (hslots slot hs).stable

namespace ValueShape

theorem name_ofText (key : String) : (name key).OfText := ⟨Or.inl rfl, Or.inl rfl⟩

theorem optionalText_ofText (key : String) : (optionalText key).OfText := ⟨Or.inr rfl, Or.inl rfl⟩

theorem asset_ofTexts : asset.OfTexts ["uid", "url"] :=
  .record rfl rfl (by decide) (List.forall_mem_cons.2
    ⟨name_ofText _, List.forall_mem_singleton.2 (optionalText_ofText _)⟩)

theorem reference_ofTexts :
    reference.OfTexts ["uid", "_content_type_uid", "content_type_uid"] := by
  refine .record rfl rfl (by decide) (List.forall_mem_cons.2 ⟨name_ofText _, ?_⟩)
  exact List.forall_mem_singleton.2 ⟨Or.inr rfl, Or.inr rfl⟩

theorem link_ofTexts : link.OfTexts ["title", "href"] :=
  .record rfl rfl (by decide) (List.forall_mem_cons.2
    ⟨optionalText_ofText _, List.forall_mem_singleton.2 (optionalText_ofText _)⟩)

theorem taxonomyTerm_ofTexts : taxonomyTerm.OfTexts ["taxonomy_uid", "term_uid"] :=
  .record rfl rfl (by decide) (List.forall_mem_cons.2
    ⟨name_ofText _, List.forall_mem_singleton.2 (name_ofText _)⟩)

theorem itemMetadata_ofTexts : itemMetadata.OfTexts ["uid"] :=
  .record rfl rfl (by decide) (List.forall_mem_singleton.2 (optionalText_ofText _))

end ValueShape

/-! ## Rich text -/

namespace RichTextShape

theorem listValue_eq (value : Json) :
    listValue value = (Checker.list none node).nullable.value value := by
  cases value <;> simp [listValue, Checker.nullable, Checker.list, node, itemsValue_eq]

theorem childrenValue_of_get? {members : Members} {value : Json}
    (h : members.get? "children" = some value) : childrenValue members = listValue value := by
  induction members with
  | nil => simp at h
  | cons pair rest ih =>
    obtain ⟨key, old⟩ := pair
    simp only [Members.get?] at h
    simp only [childrenValue]
    split at h
    · next hk => simp_all
    · next hk => rw [if_neg hk, ih h]

/-- What comes out of a node is what comes out of a record whose children are a list of nodes. -/
theorem nodeValue_obj (members : Members) :
    nodeValue (.obj members) =
      (Checker.record nodeShape (nodeSlots (Checker.list none node).nullable)).value
        (.obj members) := by
  have h (others : Members) : Slot.pairs
        { key := "children", handle := "children",
          checker := ⟨fun _ => [], fun _ => childrenValue members⟩ } members others
      = Slot.pairs
        { key := "children", handle := "children",
          checker := (Checker.list none node).nullable } members others := by
    simp only [Slot.pairs, Slot.read]
    cases hg : Members.get? members "children" with
    | none => simp
    | some value => simp [childrenValue_of_get? hg, listValue_eq]
  have hundeclared : undeclared (nodeSlots ⟨fun _ => [], fun _ => childrenValue members⟩) members =
    undeclared (nodeSlots (Checker.list none node).nullable) members := rfl
  simp only [nodeValue, Checker.record, Checker.recordMembers, hundeclared]
  simp [nodeSlots, h]

/-- The check of a node is that of a record whose children are a list of nodes. -/
theorem node_eq :
    node = Checker.record nodeShape (nodeSlots (Checker.list none node).nullable) := by
  have hfindings : nodeFindings = (Checker.record nodeShape
      (nodeSlots (Checker.list none node).nullable)).findings := by
    funext value
    cases value with
    | obj members => exact nodeFindings_obj members
    | _ => simp [nodeFindings, Checker.record]
  have hvalue : nodeValue = (Checker.record nodeShape
      (nodeSlots (Checker.list none node).nullable)).value := by
    funext value
    cases value with
    | obj members => exact nodeValue_obj members
    | _ => simp [nodeValue, Checker.record]
  conv => lhs; rw [node, hfindings, hvalue]

/-- The members of a node are single values, which may be absent or null, and its children. -/
theorem nodeSlots_cases {children : Checker} {slot : Slot} (h : slot ∈ nodeSlots children) :
    (∃ (key : String) (problem? : Json → Option Problem),
        (∀ value, problem? value ≠ some .missing) ∧ slot = optional key (.leaf problem?)) ∨
      slot = { key := "children", handle := "children", checker := children } := by
  have hleaf : ∀ checker ∈ [Checker.text, .mapping, .boolean], ∃ problem? : Json → Option Problem,
      (∀ value, problem? value ≠ some .missing) ∧ checker = .leaf problem? := by
    simp only [List.forall_mem_cons, List.not_mem_nil, false_implies, implies_true, and_true]
    refine ⟨⟨_, fun value => ?_, rfl⟩, ⟨_, fun value => ?_, rfl⟩, _, fun value => ?_, rfl⟩ <;>
      cases value <;> simp
  have hform : (∃ key, ∃ checker ∈ [Checker.text, .mapping, .boolean],
      slot = optional key checker) ∨
        slot = { key := "children", handle := "children", checker := children } := by
    simp only [nodeSlots, List.mem_cons, List.not_mem_nil, or_false] at h
    grind
  rcases hform with ⟨key, checker, hmem, rfl⟩ | rfl
  · obtain ⟨problem?, hproblem, rfl⟩ := hleaf checker hmem
    exact Or.inl ⟨key, problem?, hproblem, rfl⟩
  · exact Or.inr rfl

/-- All members of a node but its children are stable. -/
theorem nodeSlots_stable (children : Checker) : ∀ slot ∈ nodeSlots children,
    slot.otherKey = none ∧ (slot.Stable ∨
      slot = { key := "children", handle := "children", checker := children }) := by
  intro slot hs
  rcases nodeSlots_cases hs with ⟨key, problem?, -, rfl⟩ | rfl
  · exact ⟨rfl, Or.inl (.optional key)⟩
  · exact ⟨rfl, Or.inr rfl⟩

theorem separate_nodeSlots (children : Checker) : Slot.Separate (nodeSlots children) :=
  .of_noOther (by simp [nodeSlots, optional]) fun slot hslot =>
    (nodeSlots_stable children slot hslot).1

/-- A node settles when the nodes among its children do. -/
theorem settles_node_obj {members : Members} (h : node.findings (.obj members) = [])
    (ih : ∀ items, members.get? "children" = some (.arr items) →
      ∀ item ∈ items, node.findings item = [] → node.Settles item) :
    node.Settles (.obj members) := by
  rw [node_eq] at h ⊢
  obtain ⟨_, hobj, -, hslots⟩ := Checker.findings_record_eq_nil.1 h
  cases hobj
  have hnull : ∀ slot ∈ nodeSlots (Checker.list none node).nullable,
      slot.checker.value .null = .null := by
    intro slot hs
    rcases (nodeSlots_stable _ slot hs).2 with hstable | rfl
    · exact hstable.value_null
    · rfl
  rw [Checker.settles_record_iff (separate_nodeSlots _) hnull h]
  intro slot hs
  have hfindings := (Slot.findings_eq_nil.1 (hslots slot hs)).1
  rcases (nodeSlots_stable _ slot hs).2 with hstable | rfl
  · refine ⟨fun key value hread => hstable.checker value (hfindings key value hread), ?_⟩
    intro hread hhas
    rw [Slot.not_has_handle hstable.handle hread] at hhas
    cases hhas
  · constructor
    · intro key value hread
      have hvalue := hfindings key value hread
      rcases Checker.findings_nullable_eq_nil.1 hvalue with rfl | hlist
      · exact Checker.settles_nullable_null _
      · obtain ⟨items, rfl, hlimit, hitems⟩ := Checker.findings_list_eq_nil.1 hlist
        rw [Checker.settles_nullable_iff (.list _ _) (by simp), Checker.settles_list_iff hlimit]
        intro item hitem
        rw [Slot.read_of_otherKey rfl] at hread
        obtain ⟨given, hgiven, heq⟩ := Option.map_eq_some_iff.1 hread
        cases heq
        exact ih items hgiven item hitem (hitems item hitem)
    · intro hread hhas
      rw [Slot.not_has_handle (Or.inl rfl) hread] at hhas
      cases hhas

theorem stable_node : node.Stable := by
  intro value
  induction value using Json.inductUnder "children" with
  | obj members ih => exact fun h => settles_node_obj h ih
  | other value hvalue =>
    intro h
    cases value with
    | obj members => cases hvalue
    | _ => cases h

theorem stable_document : document.Stable := by
  refine .plainRecord _ ?_ ?_
  · decide
  simp only [List.forall_mem_cons, List.not_mem_nil, false_implies, implies_true, and_true]
  exact ⟨⟨trivial, rfl, .leaf _, Or.inl rfl⟩, ⟨rfl, .optional _⟩, ⟨rfl, .optional _⟩, trivial, rfl,
    .list _ stable_node, Or.inl rfl⟩

end RichTextShape

end ContentModel
