import ContentModel.Proofs.Json.Members
import ContentModel.Validation.Checker

/-!
# Accepted values

When lists and records are accepted, and what can be read from the values that come out of them.

* `Checker.findings_list_eq_nil`, `Checker.findings_record_eq_nil` and `Slot.findings_eq_nil` say
  when nothing is found, `Checker.findings_list_cases`, `Checker.findings_record_cases` and
  `Slot.findings_cases` what is found otherwise;
* `Slot.Separate` says that no two slots of a record may answer to one key;
* `Slot.read_recordMembers` and `undeclared_recordMembers` read slots and undeclared members from
  the value of a record.
-/

namespace ContentModel

namespace Checker

variable {checker : Checker} {value : Json}

theorem itemFindings_eq_nil {findings : Json → List Finding} {index : Nat} {items : List Json} :
    itemFindings findings index items = [] ↔ ∀ item ∈ items, findings item = [] := by
  induction items generalizing index with
  | nil => simp [itemFindings]
  | cons item rest ih => simp [itemFindings, ih]

/-- Nothing is found in a list that is not too long, if nothing is found in its items. -/
theorem findings_list_eq_nil {most : Option Nat} :
    (list most checker).findings value = [] ↔ ∃ items, value = .arr items ∧
      exceeds items.length most = false ∧ ∀ item ∈ items, checker.findings item = [] := by
  cases value with
  | arr items =>
    by_cases h : exceeds items.length most = true <;>
      simp [list, h, itemFindings_eq_nil]
  | _ => simp [list]

/-- What is found in the items of a list is found in one of them. -/
theorem mem_itemFindings_iff {findings : Json → List Finding} {finding : Finding} {index : Nat}
    {items : List Json} : finding ∈ itemFindings findings index items ↔
      ∃ (i : Nat) (item : Json) (inner : Finding), items[i]? = some item ∧
        inner ∈ findings item ∧ finding = inner.under (.index (index + i : Nat)) := by
  induction items generalizing index with
  | nil => simp [itemFindings]
  | cons first rest ih =>
    rw [itemFindings, List.mem_append, List.mem_map, ih]
    constructor
    · rintro (⟨inner, hmem, rfl⟩ | ⟨i, item, inner, hget, hmem, rfl⟩)
      · exact ⟨0, first, inner, rfl, hmem, rfl⟩
      · exact ⟨i + 1, item, inner, hget, hmem, by rw [Nat.add_right_comm, Nat.add_assoc]⟩
    · rintro ⟨i, item, inner, hget, hmem, rfl⟩
      cases i with
      | zero =>
        cases hget
        exact Or.inl ⟨inner, hmem, rfl⟩
      | succ i =>
        exact Or.inr ⟨i, item, inner, hget, hmem, by rw [Nat.add_right_comm, Nat.add_assoc]⟩

/-- What is found in a list: that it is none, that it is too long, or something in an item. -/
theorem findings_list_cases {most : Option Nat} {finding : Finding}
    (h : finding ∈ (list most checker).findings value) :
    finding = .here .notAList ∨ (∃ limit actual, finding = .here (.tooLong limit actual)) ∨
      ∃ (items : List Json) (i : Nat) (item : Json) (inner : Finding), value = .arr items ∧
        items[i]? = some item ∧ inner ∈ checker.findings item ∧
          finding = inner.under (.index i) := by
  cases value with
  | arr items =>
    simp only [list] at h
    split at h
    · exact Or.inr (Or.inl ⟨_, _, List.mem_singleton.1 h⟩)
    · obtain ⟨i, item, inner, hget, hmem, rfl⟩ := mem_itemFindings_iff.1 h
      exact Or.inr (Or.inr ⟨items, i, item, inner, rfl, hget, hmem, by rw [Nat.zero_add]⟩)
  | _ => exact Or.inl (List.mem_singleton.1 h)

/-- What is found in a record: that it is none, that its tag is not declared, or something in a
slot. -/
theorem findings_record_cases {shape : Shape} {slots : List Slot} {finding : Finding}
    (h : finding ∈ (record shape slots).findings value) :
    finding = .here (.notARecord shape.name) ∨ ∃ members, value = .obj members ∧
      ((shape.isTagged = true ∧ tagDeclared slots members = false ∧
          finding = .here (.unknownVariant (Members.tag? members))) ∨
        ∃ slot ∈ slots, finding ∈ slot.findings members) := by
  cases value with
  | obj members =>
    refine Or.inr ⟨members, rfl, ?_⟩
    simp only [record] at h
    split at h
    · next htag =>
      rw [Bool.and_eq_true, Bool.not_eq_true'] at htag
      exact Or.inl ⟨htag.1, htag.2, List.mem_singleton.1 h⟩
    · exact Or.inr (List.mem_flatMap.1 h)
  | _ => exact Or.inl (List.mem_singleton.1 h)

theorem findings_nullable_eq_nil :
    checker.nullable.findings value = [] ↔ value = .null ∨ checker.findings value = [] := by
  cases value <;> simp [nullable]

/-- A check that leaves null as it is treats the values of its nullable form in the same way. -/
theorem value_nullable (h : checker.value .null = .null) (value : Json) :
    checker.nullable.value value = checker.value value := by
  cases value <;> simp [nullable, h]

theorem findings_record_eq_nil {shape : Shape} {slots : List Slot} :
    (record shape slots).findings value = [] ↔ ∃ members, value = .obj members ∧
      (shape.isTagged = true → tagDeclared slots members = true) ∧
      ∀ slot ∈ slots, slot.findings members = [] := by
  cases value with
  | obj members =>
    by_cases h : (shape.isTagged && !tagDeclared slots members) = true
    · simp_all [record]
    · simp only [record, h, if_false, Bool.false_eq_true]
      simp_all
  | _ => simp [record]

end Checker

namespace Slot

variable {slot : Slot} {slots : List Slot} {members : Members} {shape : Shape}

theorem findings_eq_nil : slot.findings members = [] ↔
    (∀ key value, slot.read members = some (key, value) → slot.checker.findings value = []) ∧
      (slot.read members = none → slot.required = false) := by
  unfold findings
  split
  · next h => simp [h]
  · next h => simp [h]

/-- What is found in a slot: something in its member, or that the member is missing. -/
theorem findings_cases {finding : Finding} (h : finding ∈ slot.findings members) :
    (∃ (key : String) (value : Json) (inner : Finding), slot.read members = some (key, value) ∧
        inner ∈ slot.checker.findings value ∧ finding = inner.under (.key key)) ∨
      (slot.read members = none ∧ finding = ⟨[.key slot.key], .missing⟩) := by
  unfold findings at h
  split at h
  · next key value hread =>
    obtain ⟨inner, hinner, rfl⟩ := List.mem_map.1 h
    exact Or.inl ⟨key, value, inner, hread, hinner, rfl⟩
  · next hread =>
    split at h
    · exact Or.inr ⟨hread, List.mem_singleton.1 h⟩
    · cases h

theorem read_eq_none_iff : slot.read members = none ↔
    members.get? slot.key = none ∧ ∀ key, slot.otherKey = some key → members.get? key = none := by
  unfold read
  split
  · next h => simp [h]
  · next h => cases slot.otherKey <;> simp [h]

theorem read_of_get? {value : Json} (h : members.get? slot.key = some value) :
    slot.read members = some (slot.key, value) := by
  simp [read, h]

theorem read_of_otherKey (h : slot.otherKey = none) :
    slot.read members = (members.get? slot.key).map fun value => (slot.key, value) := by
  unfold read
  split <;> simp_all

/-- A slot that is given is so under its key, or under its second key where the first is absent. -/
theorem read_cases {key : String} {value : Json} (h : slot.read members = some (key, value)) :
    (key = slot.key ∧ members.get? slot.key = some value) ∨
      (members.get? slot.key = none ∧ slot.otherKey = some key ∧
        members.get? key = some value) := by
  unfold read at h
  split at h
  · next hvalue =>
    cases h
    exact Or.inl ⟨rfl, hvalue⟩
  · next hnone =>
    obtain ⟨other, hother, hmap⟩ := Option.bind_eq_some_iff.1 h
    obtain ⟨_, hvalue, heq⟩ := Option.map_eq_some_iff.1 hmap
    cases heq
    exact Or.inr ⟨hnone, hother, hvalue⟩

theorem read_eq_some_iff {key : String} {value : Json} (h : slot.otherKey = none) :
    slot.read members = some (key, value) ↔
      key = slot.key ∧ members.get? slot.key = some value := by
  rw [read_of_otherKey h, Option.map_eq_some_iff]
  constructor
  · rintro ⟨_, hvalue, heq⟩
    cases heq
    exact ⟨rfl, hvalue⟩
  · rintro ⟨rfl, hvalue⟩
    exact ⟨value, hvalue, rfl⟩

/-! ## Undeclared members -/

/-- Whether a slot of a record is given under a key. -/
def readsAny (slots : List Slot) (members : Members) (key : String) : Bool :=
  slots.any fun slot => ((slot.read members).map (·.1)) == some key

theorem undeclared_eq (slots : List Slot) (members : Members) :
    undeclared slots members = members.filter fun pair => !readsAny slots members pair.1 := rfl

theorem get?_undeclared (slots : List Slot) (members : Members) (key : String) :
    (undeclared slots members).get? key =
      if readsAny slots members key then none else members.get? key := by
  rw [undeclared_eq, Members.get?_filter members fun key => !readsAny slots members key]
  cases readsAny slots members key <;> rfl

/-- Among slots with one key each, a key is undeclared when it is the key of none. -/
theorem has_undeclared_iff {key : String} (hother : ∀ slot ∈ slots, slot.otherKey = none) :
    (undeclared slots members).has key = true ↔
      members.has key = true ∧ key ∉ slots.map fun slot => slot.key := by
  have hreads : members.has key = true →
      (readsAny slots members key = true ↔ key ∈ slots.map fun slot => slot.key) := by
    intro hhas
    rw [readsAny, List.any_eq_true, List.mem_map]
    refine exists_congr fun slot => and_congr_right fun hs => ?_
    rw [read_of_otherKey (hother slot hs)]
    constructor
    · intro h
      cases hget : members.get? slot.key with
      | none => simp [hget] at h
      | some value => simpa [hget] using h
    · rintro rfl
      obtain ⟨value, hvalue⟩ := Option.isSome_iff_exists.1 hhas
      simp [hvalue]
  rw [Members.has, get?_undeclared]
  by_cases hhas : members.has key = true
  · by_cases hkey : readsAny slots members key = true
    · simpa [hkey] using fun _ => (hreads hhas).1 hkey
    · simpa [hkey, Members.has] using fun _ hmem => hkey ((hreads hhas).2 (List.mem_map.2 hmem))
  · refine ⟨fun h => ?_, fun h => absurd h.1 hhas⟩
    split at h
    · cases h
    · exact absurd h hhas

/-- An undeclared member never has the key of a slot. -/
theorem get?_undeclared_key (h : slot ∈ slots) :
    (undeclared slots members).get? slot.key = none := by
  rw [get?_undeclared]
  cases hget : members.get? slot.key with
  | none => simp
  | some value =>
    have : readsAny slots members slot.key = true :=
      List.any_eq_true.2 ⟨slot, h, by simp [read_of_get? hget]⟩
    simp [this]

/-- The members of a record that no slot reads, if they are kept. -/
def kept (shape : Shape) (slots : List Slot) (members : Members) : Members :=
  if shape.isOpen then undeclared slots members else []

theorem get?_kept_key (h : slot ∈ slots) : (kept shape slots members).get? slot.key = none := by
  unfold kept
  split
  · exact get?_undeclared_key h
  · rfl

/-! ## Values of records -/

/-- No two slots have the same key, and no slot may be given under the key of another. -/
structure Separate (slots : List Slot) : Prop where
  keys_nodup : (slots.map fun slot => slot.key).Nodup
  otherKey_notMem : ∀ slot ∈ slots, ∀ key, slot.otherKey = some key →
    key ∉ slots.map fun slot => slot.key

/-- The keys that a slot may be given under. -/
def names (slot : Slot) : List String := slot.key :: slot.otherKey.toList

/-- Slots are separate if no key is among the keys of two of them, or twice among those of one. -/
theorem Separate.of_names (h : (slots.flatMap names).Nodup) : Separate slots := by
  obtain ⟨hown, hdisjoint⟩ := List.pairwise_flatMap.1 h
  have hkey (slot : Slot) : slot.key ∈ slot.names := List.mem_cons_self
  have hother {slot : Slot} {key : String} (heq : slot.otherKey = some key) : key ∈ slot.names :=
    List.mem_cons_of_mem _ (Option.mem_toList.2 heq)
  have hnot : ∀ slot ∈ slots, ∀ other ∈ slots, slot.otherKey ≠ some other.key :=
    List.Pairwise.forall_of_forall_of_flip
      (fun slot hs heq => (List.nodup_cons.1 (hown slot hs)).1 (Option.mem_toList.2 heq))
      (hdisjoint.imp fun hne heq => hne _ (hother heq) _ (hkey _) rfl)
      (hdisjoint.imp fun hne heq => hne _ (hkey _) _ (hother heq) rfl)
  refine ⟨List.pairwise_map.2 (hdisjoint.imp fun hne => hne _ (hkey _) _ (hkey _)), ?_⟩
  intro slot hs key heq hmem
  obtain ⟨other, hs', rfl⟩ := List.mem_map.1 hmem
  exact hnot slot hs other hs' heq

theorem Separate.of_noOther (hnodup : (slots.map fun slot => slot.key).Nodup)
    (hother : ∀ slot ∈ slots, slot.otherKey = none) : Separate slots where
  keys_nodup := hnodup
  otherKey_notMem slot hslot key hkey := by simp [hother slot hslot] at hkey

/-- What comes out of a slot, if anything does. -/
def result (slot : Slot) (members others : Members) : Option Json :=
  match slot.read members with
  | some (_, value) => some (slot.checker.value value)
  | none => if others.has slot.handle then some .null else none

theorem pairs_eq (slot : Slot) (members others : Members) :
    slot.pairs members others =
      (slot.result members others).toList.map fun value => (slot.key, value) := by
  cases h : slot.read members with
  | some pair => simp [pairs, result, h]
  | none => by_cases hhas : others.has slot.handle = true <;> simp [pairs, result, h, hhas]

/-- What comes out of the slots of a record, one after another. -/
def results (slots : List Slot) (members others : Members) : Members :=
  slots.flatMap fun slot => slot.pairs members others

theorem results_cons (slot : Slot) (rest : List Slot) (members others : Members) :
    results (slot :: rest) members others =
      (slot.result members others).toList.map (fun value => (slot.key, value))
        ++ results rest members others := by
  rw [results, List.flatMap_cons, pairs_eq, results]

theorem keys_results_sublist (slots : List Slot) (members others : Members) :
    (Members.keys (results slots members others)).Sublist (slots.map fun slot => slot.key) := by
  induction slots with
  | nil => simp [results, Members.keys]
  | cons slot rest ih =>
    rw [results_cons, Members.keys, List.map_append, List.map_cons]
    cases slot.result members others with
    | none => exact (by simpa [Members.keys] using ih.cons slot.key)
    | some value => exact (by simpa [Members.keys] using ih)

theorem mem_results {pair : String × Json} {others : Members} :
    pair ∈ results slots members others ↔
      ∃ slot ∈ slots, slot.key = pair.1 ∧ slot.result members others = some pair.2 := by
  obtain ⟨key, value⟩ := pair
  simp only [results, List.mem_flatMap, pairs_eq, List.mem_map, Option.mem_toList, Prod.mk.injEq]
  grind

theorem get?_results_of_notMem {key : String} {others : Members}
    (h : key ∉ slots.map fun slot => slot.key) :
    (results slots members others).get? key = none :=
  Members.get?_eq_none_iff.2 fun hmem => h ((keys_results_sublist slots members others).subset hmem)

theorem get?_results {others : Members} (hnodup : (slots.map fun slot => slot.key).Nodup)
    (h : slot ∈ slots) :
    (results slots members others).get? slot.key = slot.result members others := by
  induction slots with
  | nil => simp at h
  | cons first rest ih =>
    rw [List.map_cons, List.nodup_cons] at hnodup
    rw [results_cons, Members.get?_append]
    rcases List.mem_cons.1 h with rfl | hrest
    · rw [get?_results_of_notMem hnodup.1]
      cases slot.result members others <;> simp [Members.get?]
    · have hne : first.key ≠ slot.key := fun he => hnodup.1 (he ▸ List.mem_map_of_mem hrest)
      rw [ih hnodup.2 hrest]
      cases first.result members others <;> simp [Members.get?, hne]

namespace Separate

theorem recordMembers_eq (h : Separate slots) : Checker.recordMembers shape slots members =
    results slots members (kept shape slots members) ++ kept shape slots members := by
  have hnodup := (keys_results_sublist slots members (kept shape slots members)).nodup h.keys_nodup
  rw [← Members.ofPairs_of_nodup hnodup]
  rfl

/-- What stands under the key of a slot in the value of a record. -/
theorem get?_recordMembers (h : Separate slots) (hs : slot ∈ slots) :
    (Checker.recordMembers shape slots members).get? slot.key =
      slot.result members (kept shape slots members) := by
  rw [h.recordMembers_eq, Members.get?_append, get?_kept_key hs, get?_results h.keys_nodup hs,
    Option.or_none]

/-- What stands under another key in the value of a record. -/
theorem get?_recordMembers_of_notMem {key : String} (h : Separate slots)
    (hk : key ∉ slots.map fun slot => slot.key) :
    (Checker.recordMembers shape slots members).get? key =
      (kept shape slots members).get? key := by
  rw [h.recordMembers_eq, Members.get?_append, get?_results_of_notMem hk, Option.none_or]

/-- What stands under the key of no slot, in a record that keeps undeclared members. -/
theorem get?_recordMembers_undeclared {key : String} (h : Separate slots)
    (hopen : shape.isOpen = true)
    (hkey : ∀ slot ∈ slots, slot.key ≠ key ∧ slot.otherKey ≠ some key) :
    (Checker.recordMembers shape slots members).get? key = members.get? key := by
  rw [h.get?_recordMembers_of_notMem, kept, if_pos hopen, get?_undeclared, if_neg]
  · rw [readsAny, List.any_eq_true]
    rintro ⟨slot, hs, hread⟩
    obtain ⟨pair, hpair, rfl⟩ := Option.map_eq_some_iff.1 (beq_iff_eq.1 hread)
    unfold read at hpair
    split at hpair
    · cases hpair
      exact (hkey slot hs).1 rfl
    · obtain ⟨other, hother, hvalue⟩ := Option.bind_eq_some_iff.1 hpair
      obtain ⟨value, -, rfl⟩ := Option.map_eq_some_iff.1 hvalue
      exact (hkey slot hs).2 hother
  · intro hmem
    obtain ⟨slot, hs, hslot⟩ := List.mem_map.1 hmem
    exact (hkey slot hs).1 hslot

theorem read_recordMembers (h : Separate slots) (hs : slot ∈ slots) :
    slot.read (Checker.recordMembers shape slots members) =
      (slot.result members (kept shape slots members)).map fun value => (slot.key, value) := by
  cases hresult : slot.result members (kept shape slots members) with
  | some value => exact read_of_get? ((h.get?_recordMembers hs).trans hresult)
  | none =>
    rw [Option.map_none, read_eq_none_iff, h.get?_recordMembers hs]
    refine ⟨hresult, fun key hkey => ?_⟩
    have hread : slot.read members = none := by
      unfold result at hresult
      split at hresult
      · cases hresult
      · assumption
    rw [h.get?_recordMembers_of_notMem (h.otherKey_notMem slot hs key hkey), kept]
    split
    · rw [get?_undeclared, (read_eq_none_iff.1 hread).2 key hkey, ite_self]
    · rfl

/-- A record finds in its value the undeclared members that it kept. -/
theorem undeclared_recordMembers (h : Separate slots) :
    undeclared slots (Checker.recordMembers shape slots members) = kept shape slots members := by
  have hreads : ∀ key, readsAny slots (Checker.recordMembers shape slots members) key = true ↔
      ∃ slot ∈ slots, slot.key = key ∧
        (slot.result members (kept shape slots members)).isSome = true := by
    intro key
    rw [readsAny, List.any_eq_true]
    refine exists_congr fun slot => and_congr_right fun hs => ?_
    rw [h.read_recordMembers hs]
    cases slot.result members (kept shape slots members) <;> simp
  have hresults : ∀ pair ∈ results slots members (kept shape slots members),
      ¬ (!readsAny slots (Checker.recordMembers shape slots members) pair.1) = true := by
    intro pair hpair
    obtain ⟨slot, hs, hkey, hvalue⟩ := mem_results.1 hpair
    simp [(hreads pair.1).2 ⟨slot, hs, hkey, by simp [hvalue]⟩]
  have hkept : ∀ pair ∈ kept shape slots members,
      (!readsAny slots (Checker.recordMembers shape slots members) pair.1) = true := by
    intro pair hpair
    rw [Bool.not_eq_true', Bool.eq_false_iff, Ne, hreads]
    rintro ⟨slot, hs, hkey, -⟩
    exact Members.get?_eq_none_iff.1 (get?_kept_key hs)
      (by rw [hkey]; exact List.mem_map_of_mem hpair)
  rw [undeclared_eq]
  conv => lhs; arg 2; rw [h.recordMembers_eq]
  rw [List.filter_append, List.filter_eq_nil_iff.2 hresults, List.filter_eq_self.2 hkept,
    List.nil_append]

end Separate

end Slot

end ContentModel
