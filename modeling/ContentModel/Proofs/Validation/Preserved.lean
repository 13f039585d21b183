import ContentModel.Proofs.Json.Reordered
import ContentModel.Proofs.Validation.Settled

/-!
# Checks that preserve values

A check preserves a value when what comes out of it is the value, up to the order of members.

* `Checker.preserves_record_iff` says when a record preserves an object: no slot is given under its
  second key, no slot comes out as null, no undeclared member is left out, and all members are
  preserved;
* of the shapes of structured values only two fail to preserve some values: `Json.RenamedReference`
  and `Json.CutTerm` say which.
-/

namespace ContentModel

open Json

namespace Slot

variable {slot : Slot} {slots : List Slot} {members : Members} {shape : Shape}

theorem get?_of_read {value : Json} (h : slot.read members = some (slot.key, value)) :
    members.get? slot.key = some value := by
  rcases read_cases h with ⟨-, hvalue⟩ | ⟨hnone, -, hvalue⟩
  · exact hvalue
  · rw [hnone] at hvalue
    cases hvalue

/-- What stands under a key in the members that come out of a record whose slots are given under
their own keys, if they are given, and do not come out otherwise. -/
theorem Separate.get?_recordMembers_of_own (h : Separate slots)
    (hown : ∀ slot ∈ slots, ∀ key value, slot.read members = some (key, value) → key = slot.key)
    (habsent : ∀ slot ∈ slots, slot.read members = none →
      (kept shape slots members).has slot.handle = false)
    (hclosed : shape.isOpen = false → undeclared slots members = []) (key : String) :
    (∃ slot ∈ slots, slot.key = key ∧ (Checker.recordMembers shape slots members).get? key =
      (members.get? key).map slot.checker.value) ∨
    (Checker.recordMembers shape slots members).get? key = members.get? key := by
  by_cases hkey : ∃ slot ∈ slots, slot.key = key
  · obtain ⟨slot, hs, rfl⟩ := hkey
    refine Or.inl ⟨slot, hs, rfl, ?_⟩
    rw [h.get?_recordMembers hs]
    cases hread : slot.read members with
    | none =>
      rw [result_of_read_none hread, habsent slot hs hread, (read_eq_none_iff.1 hread).1]
      rfl
    | some pair =>
      obtain ⟨key, value⟩ := pair
      obtain rfl := hown slot hs key value hread
      rw [result_of_read hread, get?_of_read hread, Option.map_some]
  · have hnotMem : key ∉ slots.map fun slot => slot.key := fun hmem =>
      hkey (List.mem_map.1 hmem)
    have hreads : readsAny slots members key = false := by
      rw [Bool.eq_false_iff, Ne, readsAny, List.any_eq_true]
      rintro ⟨slot, hs, hread⟩
      obtain ⟨⟨key', value⟩, hpair, rfl⟩ := Option.map_eq_some_iff.1 (beq_iff_eq.1 hread)
      exact hkey ⟨slot, hs, (hown slot hs key' value hpair).symm⟩
    have hundeclared : (undeclared slots members).get? key = members.get? key := by
      rw [get?_undeclared, hreads]
      rfl
    refine Or.inr ?_
    rw [h.get?_recordMembers_of_notMem hnotMem, kept, ← hundeclared]
    split
    · rfl
    · next hopen => rw [hclosed (Bool.eq_false_iff.2 hopen)]

/-- Where the same keys come out of a record, its slots are given under their own keys. -/
theorem Separate.key_eq_of_has (h : Separate slots)
    (hhas : ∀ key, (Checker.recordMembers shape slots members).has key = members.has key)
    {slot : Slot} (hs : slot ∈ slots) {key : String} {value : Json}
    (hread : slot.read members = some (key, value)) : key = slot.key := by
  have hgiven := hhas slot.key
  rw [Members.has, Members.has, h.get?_recordMembers hs, result_of_read hread] at hgiven
  obtain ⟨given, hgiven⟩ := Option.isSome_iff_exists.1 hgiven.symm
  rw [read_of_get? hgiven] at hread
  exact (Prod.mk.inj (Option.some.inj hread)).1.symm

/-- Where the same keys come out of a record, no member brings in a slot that is not given. -/
theorem Separate.not_has_handle_of_has (h : Separate slots)
    (hhas : ∀ key, (Checker.recordMembers shape slots members).has key = members.has key)
    {slot : Slot} (hs : slot ∈ slots) (hread : slot.read members = none) :
    (kept shape slots members).has slot.handle = false := by
  have hgiven := hhas slot.key
  rw [Members.has, Members.has, h.get?_recordMembers hs, result_of_read_none hread,
    (read_eq_none_iff.1 hread).1] at hgiven
  cases hhandle : (kept shape slots members).has slot.handle with
  | false => rfl
  | true => simp [hhandle] at hgiven

/-- Where the same keys come out of a closed record, no member is undeclared. -/
theorem Separate.undeclared_eq_nil_of_has (h : Separate slots)
    (hhas : ∀ key, (Checker.recordMembers shape slots members).has key = members.has key)
    (hclosed : shape.isOpen = false) : undeclared slots members = [] := by
  rw [List.eq_nil_iff_forall_not_mem]
  intro pair hpair
  have hundeclared : (undeclared slots members).has pair.1 = true :=
    Members.has_iff.2 (List.mem_map_of_mem hpair)
  have hnotMem : pair.1 ∉ slots.map fun slot => slot.key := by
    intro hmem
    obtain ⟨slot, hs, hkey⟩ := List.mem_map.1 hmem
    rw [← hkey, Members.has, get?_undeclared_key hs] at hundeclared
    cases hundeclared
  have hlost := hhas pair.1
  rw [Members.has, h.get?_recordMembers_of_notMem hnotMem, kept, hclosed] at hlost
  have hgiven : members.has pair.1 = true :=
    Members.has_iff.2 (List.mem_map_of_mem (List.mem_filter.1 hpair).1)
  rw [hgiven] at hlost
  cases hlost

/-- No key comes out of a record twice that was not there twice. -/
theorem Separate.nodup_keys_recordMembers (h : Separate slots)
    (hnodup : (Members.keys members).Nodup) :
    (Members.keys (Checker.recordMembers shape slots members)).Nodup := by
  have hkept : (Members.keys (kept shape slots members)).Nodup := by
    unfold kept
    split
    · exact (List.filter_sublist.map _).nodup hnodup
    · exact List.nodup_nil
  rw [h.recordMembers_eq, Members.keys, List.map_append, List.nodup_append]
  refine ⟨(keys_results_sublist _ _ _).nodup h.keys_nodup, hkept, fun key hkey key' hkey' heq => ?_⟩
  obtain ⟨slot, hs, rfl⟩ := List.mem_map.1 ((keys_results_sublist _ _ _).subset hkey)
  exact Members.get?_eq_none_iff.1 (get?_kept_key hs) (heq ▸ hkey')

end Slot

namespace Checker

variable {checker : Checker} {value : Json}

/-- What comes out of a value is the value, up to the order of members. -/
def Preserves (checker : Checker) (value : Json) : Prop := Reordered value (checker.value value)

theorem preserves_leaf (problem? : Json → Option Problem) (value : Json) :
    (leaf problem?).Preserves value := .refl value

theorem preserves_nullable_iff (hnull : checker.value .null = .null) :
    checker.nullable.Preserves value ↔ checker.Preserves value := by
  rw [Preserves, Preserves, value_nullable hnull]

theorem preserves_list_iff {most : Option Nat} {items : List Json} :
    (list most checker).Preserves (.arr items) ↔ ∀ item ∈ items, checker.Preserves item :=
  reordered_map_iff

theorem preserves_list {most : Option Nat} (h : ∀ item, checker.Preserves item) (value : Json) :
    (list most checker).Preserves value := by
  cases value with
  | arr items => exact preserves_list_iff.2 fun item _ => h item
  | _ => exact .refl _

theorem preserves_list_of_ne {most : Option Nat} (h : ∀ items, value ≠ .arr items) :
    (list most checker).Preserves value := by
  cases value with
  | arr items => exact absurd rfl (h items)
  | _ => exact .refl _

theorem preserves_record_of_ne {shape : Shape} {slots : List Slot}
    (h : ∀ members, value ≠ .obj members) : (record shape slots).Preserves value := by
  cases value with
  | obj members => exact absurd rfl (h members)
  | _ => exact .refl _

/-- A list is preserved unless one of its items is altered. -/
theorem preserves_list_iff_not {most : Option Nat} {Q : Json → Prop}
    (h : ∀ item, checker.Preserves item ↔ ¬ Q item) :
    (list most checker).Preserves value ↔
      ¬ ∃ items, value = .arr items ∧ ∃ item ∈ items, Q item := by
  by_cases hlist : ∃ items, value = .arr items
  · obtain ⟨items, rfl⟩ := hlist
    rw [preserves_list_iff]
    simp [h]
  · refine iff_of_true (preserves_list_of_ne fun items heq => hlist ⟨items, heq⟩) ?_
    rintro ⟨items, heq, -⟩
    exact hlist ⟨items, heq⟩

/-- A record preserves an object when all its slots are given under their own keys and preserve
their values, or are not given and do not come out, and no member is left out. -/
theorem preserves_record_iff {shape : Shape} {slots : List Slot} {members : Members}
    (h : Slot.Separate slots) : (record shape slots).Preserves (.obj members) ↔
      (∀ slot ∈ slots, ∀ key value, slot.read members = some (key, value) →
        key = slot.key ∧ slot.checker.Preserves value) ∧
      (∀ slot ∈ slots, slot.read members = none →
        (Slot.kept shape slots members).has slot.handle = false) ∧
      (shape.isOpen = false → undeclared slots members = []) := by
  have hobj : (record shape slots).value (.obj members) =
    .obj (recordMembers shape slots members) := rfl
  rw [Preserves, hobj, reordered_obj_iff]
  constructor
  · rintro ⟨hhas, -, hvalues⟩
    refine ⟨fun slot hs key value hread => ?_, fun slot hs hread =>
      h.not_has_handle_of_has hhas hs hread, fun hclosed => h.undeclared_eq_nil_of_has hhas hclosed⟩
    obtain rfl := h.key_eq_of_has hhas hs hread
    have hout : (recordMembers shape slots members).get? slot.key =
        some (slot.checker.value value) := by
      rw [h.get?_recordMembers hs, Slot.result_of_read hread]
    exact ⟨rfl, hvalues slot.key value _ (Slot.get?_of_read hread) hout⟩
  · rintro ⟨hread, habsent, hclosed⟩
    have hget := h.get?_recordMembers_of_own
      (fun slot hs key value hr => (hread slot hs key value hr).1) habsent hclosed
    refine ⟨fun key => ?_, h.nodup_keys_recordMembers, fun key value other hvalue hother => ?_⟩
    · rcases hget key with ⟨slot, -, -, heq⟩ | heq
      · rw [Members.has, Members.has, heq, Option.isSome_map]
      · rw [Members.has, Members.has, heq]
    · rcases hget key with ⟨slot, hs, rfl, heq⟩ | heq
      · rw [heq, hvalue, Option.map_some] at hother
        cases hother
        exact (hread slot hs slot.key value (Slot.read_of_get? hvalue)).2
      · rw [heq, hvalue] at hother
        cases hother
        exact .refl value

/-- An open record whose slots have one key each, which is their handle, preserves an object when
the slots do. -/
theorem preserves_ownRecord {shape : Shape} {slots : List Slot} {members : Members}
    (hopen : shape.isOpen = true) (h : Slot.Separate slots)
    (hown : ∀ slot ∈ slots, slot.otherKey = none ∧ slot.handle = slot.key)
    (hvalues : ∀ slot ∈ slots, ∀ value, members.get? slot.key = some value →
      slot.checker.Preserves value) : (record shape slots).Preserves (.obj members) := by
  refine (preserves_record_iff h).2 ⟨fun slot hs key value hread => ?_, fun slot hs hread => ?_,
    fun hclosed => ?_⟩
  · obtain ⟨hkey, hgiven⟩ := (Slot.read_eq_some_iff (hown slot hs).1).1 hread
    exact ⟨hkey, hvalues slot hs value hgiven⟩
  · exact Slot.not_has_handle (Or.inl (hown slot hs).2) hread
  · rw [hopen] at hclosed
    cases hclosed

/-- An open record of slots that leave values as they are preserves every value. -/
theorem preserves_faithfulRecord {shape : Shape} {slots : List Slot} (hopen : shape.isOpen = true)
    (hnodup : (slots.map fun slot => slot.key).Nodup) (h : ∀ slot ∈ slots, slot.Faithful)
    (value : Json) : (record shape slots).Preserves value := by
  cases value with
  | obj members =>
    refine preserves_ownRecord hopen (.of_noOther hnodup fun slot hs => (h slot hs).otherKey)
      (fun slot hs => ⟨(h slot hs).otherKey, (h slot hs).handle⟩) fun slot hs value _ => ?_
    rw [Preserves, (h slot hs).value]
    exact .refl value
  | _ => exact .refl _

end Checker

/-! ## Structured values -/

namespace Json

/-- A reference gives its content type under the second key only. -/
def RenamedReference (value : Json) : Prop :=
  value.get? "_content_type_uid" = none ∧ (value.get? "content_type_uid").isSome = true

/-- A term has a member besides the two that name it. -/
def CutTerm (value : Json) : Prop :=
  ∃ key, (value.get? key).isSome = true ∧ key ∉ ["taxonomy_uid", "term_uid"]

end Json

namespace ValueShape

theorem preserves_asset (value : Json) : asset.Preserves value :=
  Checker.preserves_faithfulRecord rfl (by decide) (List.forall_mem_cons.2
    ⟨.leaf _ _ _, List.forall_mem_singleton.2 (.optional _ _)⟩) value

theorem preserves_link (value : Json) : link.Preserves value :=
  Checker.preserves_faithfulRecord rfl (by decide) (List.forall_mem_cons.2
    ⟨.optional _ _, List.forall_mem_singleton.2 (.optional _ _)⟩) value

theorem preserves_itemMetadata (value : Json) : itemMetadata.Preserves value :=
  Checker.preserves_faithfulRecord rfl (by decide)
    (List.forall_mem_singleton.2 (.optional _ _)) value

/-- A reference is preserved unless its content type is given under the second key only. -/
theorem preserves_reference_iff {value : Json} :
    reference.Preserves value ↔ ¬ RenamedReference value := by
  cases value with
  | obj members =>
    let target : Slot :=
      { key := "_content_type_uid", otherKey := some "content_type_uid"
        handle := "content_type_uid", checker := Checker.text.nullable }
    have hseparate : Slot.Separate [name "uid", target] := ⟨by decide, by simp [name, target]⟩
    refine (Checker.preserves_record_iff hseparate).trans ?_
    constructor
    · rintro ⟨hread, -, -⟩ ⟨hfirst, hsecond⟩
      obtain ⟨value, hvalue⟩ := Option.isSome_iff_exists.1 hsecond
      have htarget : target.read members = some ("content_type_uid", value) := by
        change Members.get? members "_content_type_uid" = none at hfirst
        change Members.get? members "content_type_uid" = some value at hvalue
        simp [Slot.read, target, hfirst, hvalue]
      exact absurd (hread target (by simp) _ _ htarget).1 (by decide)
    · intro hnot
      refine ⟨?_, ?_, fun hclosed => absurd hclosed (by decide)⟩
      · rw [List.forall_mem_cons, List.forall_mem_singleton]
        refine ⟨fun key value hread => ?_, fun key value hread => ?_⟩
        · exact ⟨((Slot.read_eq_some_iff rfl).1 hread).1, Checker.preserves_leaf _ _⟩
        · refine ⟨?_, (Checker.preserves_nullable_iff rfl).2 (Checker.preserves_leaf _ _)⟩
          rcases Slot.read_cases hread with ⟨hkey, -⟩ | ⟨hfirst, hother, hvalue⟩
          · exact hkey
          · cases hother
            exact absurd ⟨hfirst, Option.isSome_iff_exists.2 ⟨value, hvalue⟩⟩ hnot
      · rw [List.forall_mem_cons, List.forall_mem_singleton]
        exact ⟨Slot.not_has_handle (Or.inl rfl), Slot.not_has_handle (Or.inr rfl)⟩
  | _ => exact ⟨fun _ => by rintro ⟨-, ⟨⟩⟩, fun _ => .refl _⟩

/-- A term is preserved unless it has other members than those that name it. -/
theorem preserves_taxonomyTerm_iff {value : Json} :
    taxonomyTerm.Preserves value ↔ ¬ CutTerm value := by
  cases value with
  | obj members =>
    have hother : ∀ slot ∈ [name "taxonomy_uid", name "term_uid"],
        slot.otherKey = none ∧ slot.checker = .filledText := by simp [name]
    have hseparate : Slot.Separate [name "taxonomy_uid", name "term_uid"] :=
      .of_noOther (by decide) fun slot hs => (hother slot hs).1
    have hundeclared : undeclared [name "taxonomy_uid", name "term_uid"] members = [] ↔
        ¬ CutTerm (.obj members) := by
      rw [Members.eq_nil_iff, CutTerm, not_exists]
      exact forall_congr' fun key => not_congr
        (Slot.has_undeclared_iff fun slot hs => (hother slot hs).1)
    refine (Checker.preserves_record_iff hseparate).trans ?_
    rw [← hundeclared]
    constructor
    · rintro ⟨-, -, hclosed⟩
      exact hclosed rfl
    · intro hnil
      refine ⟨fun slot hs key value hread => ?_, fun slot hs _ => rfl, fun _ => hnil⟩
      rw [(hother slot hs).2]
      exact ⟨((Slot.read_eq_some_iff (hother slot hs).1).1 hread).1, Checker.preserves_leaf _ _⟩
  | _ => exact ⟨fun _ => by rintro ⟨key, ⟨⟩, -⟩, fun _ => .refl _⟩

end ValueShape

/-! ## Rich text -/

namespace RichTextShape

theorem preserves_optional (key : String) (problem? : Json → Option Problem) (value : Json) :
    (optional key (.leaf problem?)).checker.Preserves value :=
  (Checker.preserves_nullable_iff rfl).2 (Checker.preserves_leaf _ _)

theorem preserves_node (value : Json) : node.Preserves value := by
  induction value using Json.inductUnder "children" with
  | other value hvalue =>
    cases value with
    | obj members => cases hvalue
    | _ => exact .refl _
  | obj members ih =>
    rw [node_eq]
    refine Checker.preserves_ownRecord rfl (separate_nodeSlots _) ?_ ?_
    · simp [nodeSlots, optional]
    · intro slot hs value hvalue
      rcases nodeSlots_cases hs with ⟨key, problem?, -, rfl⟩ | rfl
      · exact preserves_optional key problem? value
      · refine (Checker.preserves_nullable_iff rfl).2 ?_
        by_cases hlist : ∃ items, value = .arr items
        · obtain ⟨items, rfl⟩ := hlist
          exact Checker.preserves_list_iff.2 (ih items hvalue)
        · exact Checker.preserves_list_of_ne fun items heq => hlist ⟨items, heq⟩

theorem preserves_document (value : Json) : document.Preserves value := by
  cases value with
  | obj members =>
    refine Checker.preserves_ownRecord rfl (.of_noOther (by decide) ?_) ?_ ?_
    · simp [optional]
    · simp [optional]
    · simp only [List.forall_mem_cons, List.not_mem_nil, false_implies, implies_true, and_true]
      refine ⟨fun value _ => Checker.preserves_leaf _ value,
        fun value _ => preserves_optional _ _ value,
        fun value _ => preserves_optional _ _ value, fun value _ => ?_⟩
      exact Checker.preserves_list preserves_node value
  | _ => exact .refl _

end RichTextShape

end ContentModel
