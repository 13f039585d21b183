import ContentModel.Proofs.Json.DistinctKeys
import ContentModel.Proofs.Validation.Settled

/-!
# Checks and the order of members

* `Checker.AlikeOn` says that a check finds the same in two values and that what comes out is the
  same up to the order of members, with one lemma for every way to build checks;
* `Checker.OrderBlind` says this of all values that are the same up to the order of members and in
  which no object has a key twice. The shapes of structured values and of rich text are order-blind.
-/

namespace ContentModel

open Json (Reordered)

/-! ## Slots -/

namespace Slot

variable {slot : Slot} {slots : List Slot} {members others : Members} {shape : Shape}

/-- A slot is given in both of two objects with the same keys, under the same key, or in none. -/
theorem read_reordered (h : Reordered (.obj members) (.obj others)) (slot : Slot) :
    (slot.read members = none ∧ slot.read others = none) ∨
      ∃ key value other, slot.read members = some (key, value) ∧
        slot.read others = some (key, other) ∧ members.get? key = some value ∧
        Reordered value other := by
  cases hget : members.get? slot.key with
  | some value =>
    obtain ⟨other, hother, hvalue⟩ := h.get?_left hget
    exact Or.inr ⟨_, value, other, read_of_get? hget, read_of_get? hother, hget, hvalue⟩
  | none =>
    have hread {given : Members} (hnone : given.get? slot.key = none) : slot.read given =
        slot.otherKey.bind fun key => (given.get? key).map fun value => (key, value) := by
      rw [read, hnone]
    rw [hread hget, hread (h.get?_none hget)]
    cases slot.otherKey with
    | none => exact Or.inl ⟨rfl, rfl⟩
    | some key =>
      cases hkey : members.get? key with
      | none => exact Or.inl ⟨by simp [hkey], by simp [h.get?_none hkey]⟩
      | some value =>
        obtain ⟨other, hother, hvalue⟩ := h.get?_left hkey
        exact Or.inr ⟨key, value, other, by simp [hkey], by simp [hother], hkey, hvalue⟩

theorem readsAny_reordered (h : Reordered (.obj members) (.obj others)) (slots : List Slot) :
    readsAny slots members = readsAny slots others := by
  have hread (slot : Slot) : (slot.read members).map (·.1) = (slot.read others).map (·.1) := by
    rcases read_reordered h slot with ⟨hnone, hnone'⟩ | ⟨key, value, other, hvalue, hother, -⟩
    · rw [hnone, hnone']
    · rw [hvalue, hother]
      rfl
  funext key
  simp only [readsAny, hread]

/-- The undeclared members of two objects are the same up to their order. -/
theorem kept_rel (h : Reordered (.obj members) (.obj others)) (key : String) :
    Option.Rel Reordered ((kept shape slots members).get? key)
      ((kept shape slots others).get? key) := by
  unfold kept
  split
  · rw [get?_undeclared, get?_undeclared, readsAny_reordered h]
    split
    · exact .none
    · exact h.get?_rel key
  · exact .none

/-- From a slot, values come out that are the same up to the order of members, or none. -/
theorem result_rel (shape : Shape) (slots : List Slot)
    (h : Reordered (.obj members) (.obj others)) (hvalue : ∀ key value other,
      slot.read members = some (key, value) → members.get? key = some value →
        Reordered value other → Reordered (slot.checker.value value) (slot.checker.value other)) :
    Option.Rel Reordered (slot.result members (kept shape slots members))
      (slot.result others (kept shape slots others)) := by
  rcases read_reordered h slot with ⟨hnone, hnone'⟩ | ⟨key, value, other, hread, hread', hget, hr⟩
  · have hhas : (kept shape slots members).has slot.handle =
        (kept shape slots others).has slot.handle :=
      Json.isSome_eq_of_rel (kept_rel h slot.handle)
    rw [result_of_read_none hnone, result_of_read_none hnone', hhas]
    split
    · exact .some (.refl _)
    · exact .none
  · rw [result_of_read hread, result_of_read hread']
    exact .some (hvalue key value other hread hget hr)

theorem results_parallel {given given' : Members} (h : ∀ slot ∈ slots,
    Option.Rel Reordered (slot.result members given) (slot.result others given')) :
    Members.Parallel (results slots members given) (results slots others given') := by
  induction slots with
  | nil => exact .nil
  | cons slot rest ih =>
    rw [List.forall_mem_cons] at h
    rw [results_cons, results_cons]
    exact List.rel_append (Members.Parallel.of_rel slot.key h.1) (ih h.2)

theorem keys_kept_nodup (shape : Shape) (slots : List Slot)
    (hnodup : (Members.keys members).Nodup) :
    (Members.keys (kept shape slots members)).Nodup := by
  unfold kept
  split
  · exact (List.filter_sublist.map _).nodup hnodup
  · exact List.nodup_nil

end Slot

namespace Checker

variable {checker : Checker} {value other : Json} {members others : Members}

/-- What comes out of a record is the same up to the order of members, if this is so of every
slot. -/
theorem reordered_recordMembers {shape : Shape} {slots : List Slot}
    (h : Reordered (.obj members) (.obj others)) (hnodup : (Members.keys members).Nodup)
    (hvalues : ∀ slot ∈ slots, ∀ key value other, slot.read members = some (key, value) →
      members.get? key = some value → Reordered value other →
        Reordered (slot.checker.value value) (slot.checker.value other)) :
    Reordered (.obj (recordMembers shape slots members))
      (.obj (recordMembers shape slots others)) := by
  have hparallel := (Slot.results_parallel fun slot hs =>
    Slot.result_rel shape slots h (hvalues slot hs)).ofPairs
  have hout (given : Members) : recordMembers shape slots given =
      Members.ofPairs (Slot.results slots given (Slot.kept shape slots given)) ++
        Slot.kept shape slots given := rfl
  rw [hout, hout]
  refine Json.reordered_obj_of_rel (fun key => ?_) fun hkeys => ?_
  · rw [Members.get?_append, Members.get?_append]
    exact Json.rel_or (hparallel.get?_rel key) (Slot.kept_rel h key)
  · rw [Members.keys_append, List.nodup_append, hparallel.keys_eq] at hkeys
    rw [Members.keys_append, List.nodup_append]
    have hothers := Slot.keys_kept_nodup shape slots ((Json.reordered_obj_iff.1 h).2.1 hnodup)
    refine ⟨hkeys.1, hothers, fun key hkey key' hkey' => hkeys.2.2 key hkey key' ?_⟩
    rw [← Members.has_iff] at hkey' ⊢
    rwa [Members.has, Json.isSome_eq_of_rel (Slot.kept_rel h key')]

/-- A check finds the same in two values, in the same order, and what comes out is the same up to
the order of members. -/
structure AlikeOn (checker : Checker) (value other : Json) : Prop where
  findings : checker.findings value = checker.findings other
  value : Reordered (checker.value value) (checker.value other)

theorem AlikeOn.refl (checker : Checker) (value : Json) : checker.AlikeOn value value :=
  ⟨rfl, .refl _⟩

/-- A check takes no notice of the order of members in a value in which no object has a key
twice. -/
def OrderBlind (checker : Checker) : Prop :=
  ∀ ⦃value other⦄, value.KeysDistinct → Reordered value other → checker.AlikeOn value other

/-! ## Single values -/

/-- What is said of lists and objects by a check on a single value may depend on nothing but that
they are such. -/
theorem orderBlind_leaf {problem? : Json → Option Problem}
    (harr : ∀ items others, problem? (.arr items) = problem? (.arr others))
    (hobj : ∀ members others, problem? (.obj members) = problem? (.obj others)) :
    (leaf problem?).OrderBlind := by
  intro value other _ hreordered
  refine ⟨?_, hreordered⟩
  cases hreordered with
  | refl => rfl
  | arr => exact congrArg (fun problem? => problem?.toList.map Finding.here) (harr _ _)
  | obj => exact congrArg (fun problem? => problem?.toList.map Finding.here) (hobj _ _)

theorem orderBlind_any : any.OrderBlind := orderBlind_leaf (fun _ _ => rfl) fun _ _ => rfl

theorem orderBlind_textWith (problem? : String → Option Problem) :
    (textWith problem?).OrderBlind :=
  orderBlind_leaf (fun _ _ => rfl) fun _ _ => rfl

theorem orderBlind_number : number.OrderBlind := orderBlind_leaf (fun _ _ => rfl) fun _ _ => rfl

theorem orderBlind_boolean : boolean.OrderBlind := orderBlind_leaf (fun _ _ => rfl) fun _ _ => rfl

theorem orderBlind_mapping : mapping.OrderBlind := orderBlind_leaf (fun _ _ => rfl) fun _ _ => rfl

theorem orderBlind_choice (choices : List Json) : (choice choices).OrderBlind := by
  intro value other hdistinct hreordered
  refine ⟨?_, hreordered⟩
  simp only [choice, leaf, hreordered.isChoice_eq hdistinct]

/-! ## Null, lists and records -/

theorem AlikeOn.nullable (h : checker.AlikeOn value other) (hreordered : Reordered value other) :
    checker.nullable.AlikeOn value other := by
  cases hreordered with
  | refl => exact .refl _ _
  | arr => exact ⟨h.findings, h.value⟩
  | obj => exact ⟨h.findings, h.value⟩

theorem OrderBlind.nullable (h : checker.OrderBlind) : checker.nullable.OrderBlind :=
  fun _ _ hdistinct hreordered => (h hdistinct hreordered).nullable hreordered

theorem itemFindings_eq_of_alike {items others : List Json} (hlength : items.length = others.length)
    (h : ∀ (i : Nat) (item other : Json), items[i]? = some item → others[i]? = some other →
      checker.AlikeOn item other) (index : Nat) :
    itemFindings checker.findings index items = itemFindings checker.findings index others := by
  induction items generalizing others index with
  | nil =>
    cases others with
    | nil => rfl
    | cons => cases hlength
  | cons item rest ih =>
    cases others with
    | nil => cases hlength
    | cons other more =>
      rw [itemFindings, itemFindings, (h 0 item other rfl rfl).findings,
        ih (Nat.succ.inj hlength) (fun i => h (i + 1))]

theorem alikeOn_list {most : Option Nat} {items others : List Json}
    (hlength : items.length = others.length)
    (h : ∀ (i : Nat) (item other : Json), items[i]? = some item → others[i]? = some other →
      checker.AlikeOn item other) : (list most checker).AlikeOn (.arr items) (.arr others) where
  findings := by simp only [list, hlength, itemFindings_eq_of_alike hlength h]
  value := by
    refine .arr (by simpa using hlength) fun i item other hitem hother => ?_
    rw [List.getElem?_map] at hitem hother
    obtain ⟨first, hfirst, rfl⟩ := Option.map_eq_some_iff.1 hitem
    obtain ⟨second, hsecond, rfl⟩ := Option.map_eq_some_iff.1 hother
    exact (h i first second hfirst hsecond).value

/-- A list is checked alike if its items are. -/
theorem alikeOn_list_of_reordered {most : Option Nat} (hreordered : Reordered value other)
    (h : ∀ items, value = .arr items → ∀ item ∈ items, ∀ other, Reordered item other →
      checker.AlikeOn item other) : (list most checker).AlikeOn value other := by
  cases hreordered with
  | refl => exact .refl _ _
  | arr hlength hitems =>
    refine alikeOn_list hlength fun i item other hitem hother => ?_
    exact h _ rfl item (List.mem_of_getElem? hitem) other (hitems i item other hitem hother)
  | obj => exact ⟨rfl, .obj ‹_› ‹_› ‹_›⟩

theorem OrderBlind.list (most : Option Nat) (h : checker.OrderBlind) :
    (list most checker).OrderBlind := by
  intro value other hdistinct hreordered
  refine alikeOn_list_of_reordered hreordered fun items heq item hitem other hother => ?_
  subst heq
  exact h (hdistinct.item hitem) hother

/-- A record is checked alike if its members are, and its tag is the same where it has to be
declared. -/
theorem alikeOn_record {shape : Shape} {slots : List Slot} (hdistinct : value.KeysDistinct)
    (hreordered : Reordered value other)
    (htag : ∀ members others : Members, value = .obj members → other = .obj others →
      shape.isTagged = true → members.tag? = others.tag?)
    (h : ∀ members : Members, value = .obj members → ∀ slot ∈ slots, ∀ key member,
      slot.read members = some (key, member) → members.get? key = some member →
        ∀ other, Reordered member other → slot.checker.AlikeOn member other) :
    (record shape slots).AlikeOn value other := by
  cases hreordered with
  | refl => exact .refl _ _
  | arr hlength hitems => exact ⟨rfl, .arr hlength hitems⟩
  | @obj members others has nodup values =>
    have hreordered : Reordered (.obj members) (.obj others) := .obj has nodup values
    have hslots : ∀ slot ∈ slots, slot.findings members = slot.findings others := by
      intro slot hs
      rcases Slot.read_reordered hreordered slot with
        ⟨hnone, hnone'⟩ | ⟨key, member, other, hread, hread', hget, hmember⟩
      · rw [Slot.findings, Slot.findings, hnone, hnone']
      · have halike := h members rfl slot hs key member hread hget other hmember
        simp only [Slot.findings, hread, hread', halike.findings]
    have hall : (slots.flatMap fun slot => slot.findings members) =
        slots.flatMap fun slot => slot.findings others := List.flatMap_congr hslots
    refine ⟨?_, ?_⟩
    · cases htagged : shape.isTagged with
      | false => simp only [record, htagged, Bool.false_and, Bool.false_eq_true, if_false, hall]
      | true =>
        have htags := htag members others rfl rfl htagged
        have hdeclared : tagDeclared slots members = tagDeclared slots others := by
          rw [tagDeclared, tagDeclared, htags]
        simp only [record, hdeclared, htags, hall]
    · exact reordered_recordMembers hreordered hdistinct.nodup fun slot hs key member other hread
        hget hmember => (h members rfl slot hs key member hread hget other hmember).value

/-- A record that needs no tag takes no notice of the order of members if its slots do not. -/
theorem orderBlind_record {shape : Shape} {slots : List Slot} (htag : shape.isTagged = false)
    (h : ∀ slot ∈ slots, slot.checker.OrderBlind) : (record shape slots).OrderBlind := by
  intro value other hdistinct hreordered
  refine alikeOn_record hdistinct hreordered (fun _ _ _ _ htagged => ?_)
    fun members heq slot hs key member _ hget other hmember => ?_
  · rw [htag] at htagged
    cases htagged
  · subst heq
    exact h slot hs (hdistinct.member hget) hmember

end Checker

/-! ## Structured values -/

open Checker

namespace RichTextShape

/-- The members of a node other than its children are order-blind. -/
theorem nodeSlots_orderBlind (children : Checker) : ∀ slot ∈ nodeSlots children,
    slot.checker.OrderBlind ∨
      slot = { key := "children", handle := "children", checker := children } := by
  have htext : text.nullable.OrderBlind := (orderBlind_textWith _).nullable
  have hmapping : mapping.nullable.OrderBlind := orderBlind_mapping.nullable
  have hboolean : boolean.nullable.OrderBlind := orderBlind_boolean.nullable
  simp only [nodeSlots, List.forall_mem_cons, List.not_mem_nil, false_implies, implies_true,
    and_true]
  exact ⟨Or.inl htext, Or.inl htext, Or.inr trivial, Or.inl hmapping, Or.inl htext, Or.inl hboolean,
    Or.inl hboolean, Or.inl hboolean, Or.inl hboolean, Or.inl hboolean, Or.inl hboolean,
    Or.inl hboolean⟩

theorem orderBlind_node : node.OrderBlind := by
  intro value
  rw [node_eq]
  induction value using Json.inductUnder "children" with
  | other value hvalue =>
    intro other hdistinct hreordered
    refine alikeOn_record hdistinct hreordered (fun _ _ _ _ => nofun) fun members heq => ?_
    rw [heq] at hvalue
    cases hvalue
  | obj members ih =>
    intro other hdistinct hreordered
    refine alikeOn_record hdistinct hreordered (fun _ _ _ _ => nofun)
      fun _ heq slot hs key member hread hget other hmember => ?_
    cases heq
    rcases nodeSlots_orderBlind _ slot hs with hslot | rfl
    · exact hslot (hdistinct.member hget) hmember
    · obtain ⟨rfl, -⟩ := (Slot.read_eq_some_iff rfl).1 hread
      refine AlikeOn.nullable (alikeOn_list_of_reordered hmember ?_) hmember
      intro items heq item hitem other hother
      subst heq
      rw [node_eq]
      exact ih items hget item hitem ((hdistinct.member hget).item hitem) hother

theorem orderBlind_document : document.OrderBlind := by
  refine orderBlind_record rfl ?_
  simp only [List.forall_mem_cons, List.not_mem_nil, false_implies, implies_true, and_true]
  exact ⟨orderBlind_textWith _, (orderBlind_textWith _).nullable, orderBlind_mapping.nullable,
    orderBlind_node.list none⟩

end RichTextShape

theorem Checker.OfTexts.orderBlind {keys : List String} {checker : Checker}
    (h : checker.OfTexts keys) : checker.OrderBlind := by
  cases h with
  | record huntagged _ _ hslots =>
    exact orderBlind_record huntagged fun slot hs =>
      (hslots slot hs).elim (P := OrderBlind) (orderBlind_textWith _)
        (orderBlind_textWith _).nullable

end ContentModel
