import Mathlib.Data.List.Forall2
import ContentModel.Json.Equality
import ContentModel.Proofs.Json.Reordered

/-!
# Values that do not depend on the order of members

Where no object has a key twice, looking members up in two values that are the same up to the order
of members gives values that are the same in this way again.

* `Json.KeysDistinct` says that no object in a value has a key twice;
* `Json.Reordered.get?_rel` looks up a member in both values, `Members.SingleTag.tag?_eq` finds the
  tag of both, `Json.Reordered.isChoice_eq` compares both with the choices of a field;
* `Members.Parallel` are members that are stored in the same order, with values that are the same up
  to the order of members.
-/

namespace ContentModel

open Json (Reordered)

namespace Members

variable {members others : Members} {key : String}

theorem keys_append (first second : Members) :
    keys (first ++ second) = keys first ++ keys second := List.map_append

theorem get?_of_mem {value : Json} (hnodup : (keys members).Nodup) (h : (key, value) ∈ members) :
    members.get? key = some value := by
  induction members with
  | nil => cases h
  | cons pair rest ih =>
    obtain ⟨k, old⟩ := pair
    rw [keys, List.map_cons, List.nodup_cons] at hnodup
    rcases List.mem_cons.1 h with heq | hrest
    · cases heq
      simp [get?]
    · have hmem : key ∈ rest.map fun pair => pair.1 := List.mem_map_of_mem hrest
      have hne : k ≠ key := fun heq => hnodup.1 (heq ▸ hmem)
      rw [get?, if_neg hne, ih hnodup.2 hrest]

/-- At most one key of an object may be its tag. -/
def SingleTag (members : Members) : Prop :=
  ∀ key ∈ keys members, ∀ other ∈ keys members, isTag key = true → isTag other = true → key = other

/-- Of two objects with the same keys, at most one of which may be the tag, the tag is the same. -/
theorem SingleTag.tag?_eq (h : members.SingleTag) (hhas : ∀ key, others.has key = members.has key) :
    members.tag? = others.tag? := by
  have hkeys : ∀ key, key ∈ keys others ↔ key ∈ keys members := fun key => by
    rw [← has_iff, ← has_iff, hhas]
  cases htag : members.tag? with
  | none =>
    refine (tag?_eq_none_iff.2 fun key hkey => ?_).symm
    exact tag?_eq_none_iff.1 htag key ((hkeys key).1 hkey)
  | some tag =>
    obtain ⟨htagged, hmem⟩ := isTag_of_tag? htag
    cases hother : others.tag? with
    | none =>
      rw [tag?_eq_none_iff.1 hother tag ((hkeys tag).2 hmem)] at htagged
      cases htagged
    | some other =>
      obtain ⟨htagged', hmem'⟩ := isTag_of_tag? hother
      rw [h tag hmem other ((hkeys other).1 hmem') htagged htagged']

end Members

namespace Json

variable {value other : Json} {members others : Members} {items : List Json}

/-- No object in a value, at any depth, has a key twice. -/
inductive KeysDistinct : Json → Prop
  | null : KeysDistinct .null
  | bool (b : Bool) : KeysDistinct (.bool b)
  | int (n : Int) : KeysDistinct (.int n)
  | float (x : Binary64) : KeysDistinct (.float x)
  | str (s : String) : KeysDistinct (.str s)
  | arr {items : List Json} (items_distinct : ∀ item ∈ items, KeysDistinct item) :
      KeysDistinct (.arr items)
  | obj {members : Members} (nodup : (Members.keys members).Nodup)
      (values_distinct : ∀ pair ∈ members, KeysDistinct pair.2) : KeysDistinct (.obj members)

namespace KeysDistinct

theorem nodup (h : (Json.obj members).KeysDistinct) : (Members.keys members).Nodup := by
  cases h with
  | obj nodup _ => exact nodup

theorem member {key : String} (h : (Json.obj members).KeysDistinct)
    (hget : members.get? key = some value) : value.KeysDistinct := by
  cases h with
  | obj _ values => exact values (key, value) (Members.mem_of_get? hget)

theorem item (h : (Json.arr items).KeysDistinct) (hmem : value ∈ items) : value.KeysDistinct := by
  cases h with
  | arr items => exact items value hmem

end KeysDistinct

/-! ## Looking up -/

theorem Reordered.get?_rel (h : Reordered (.obj members) (.obj others)) (key : String) :
    Option.Rel Reordered (members.get? key) (others.get? key) := by
  obtain ⟨hhas, -, hvalues⟩ := reordered_obj_iff.1 h
  have hkey := hhas key
  simp only [Members.has] at hkey
  cases hmember : members.get? key with
  | none => cases hother : others.get? key <;> simp_all
  | some value =>
    cases hother : others.get? key with
    | none => simp_all
    | some other => exact .some (hvalues key value other hmember hother)

theorem Reordered.get?_left (h : Reordered (.obj members) (.obj others)) {key : String}
    (hget : members.get? key = some value) :
    ∃ other, others.get? key = some other ∧ Reordered value other := by
  have hrel := h.get?_rel key
  rw [hget] at hrel
  generalize others.get? key = found at hrel
  cases hrel with
  | some hreordered => exact ⟨_, rfl, hreordered⟩

theorem Reordered.get?_right (h : Reordered (.obj members) (.obj others)) {key : String}
    (hget : others.get? key = some other) :
    ∃ value, members.get? key = some value ∧ Reordered value other := by
  have hrel := h.get?_rel key
  rw [hget] at hrel
  generalize members.get? key = found at hrel
  cases hrel with
  | some hreordered => exact ⟨_, rfl, hreordered⟩

theorem Reordered.get?_none (h : Reordered (.obj members) (.obj others)) {key : String}
    (hget : members.get? key = none) : others.get? key = none := by
  have hrel := h.get?_rel key
  rw [hget] at hrel
  generalize others.get? key = found at hrel ⊢
  cases hrel
  rfl

theorem isSome_eq_of_rel {a b : Option Json} (h : Option.Rel Reordered a b) :
    a.isSome = b.isSome := by
  cases h <;> rfl

theorem rel_or {a b c d : Option Json} (h : Option.Rel Reordered a b)
    (h' : Option.Rel Reordered c d) : Option.Rel Reordered (a.or c) (b.or d) := by
  cases h with
  | some hfirst => exact .some hfirst
  | none => exact h'

theorem reordered_obj_of_rel
    (h : ∀ key, Option.Rel Reordered (members.get? key) (others.get? key))
    (hnodup : (Members.keys members).Nodup → (Members.keys others).Nodup) :
    Reordered (.obj members) (.obj others) := by
  refine .obj (fun key => (isSome_eq_of_rel (h key)).symm) hnodup ?_
  intro key value other hvalue hother
  have hkey := h key
  rw [hvalue, hother] at hkey
  cases hkey with
  | some hreordered => exact hreordered

/-- An object with the same members in another order. -/
theorem reordered_of_perm (hnodup : (Members.keys members).Nodup) (h : members.Perm others) :
    Reordered (.obj members) (.obj others) := by
  have hperm : (Members.keys members).Perm (Members.keys others) := h.map _
  have hkeys : (Members.keys others).Nodup := hperm.nodup hnodup
  refine reordered_obj_of_rel (fun key => ?_) fun _ => hkeys
  cases hget : members.get? key with
  | none =>
    rw [Members.get?_eq_none_iff.2 fun hmem => Members.get?_eq_none_iff.1 hget ?_]
    · exact .none
    · exact hperm.mem_iff.2 hmem
  | some value =>
    rw [Members.get?_of_mem hkeys (h.mem_iff.1 (Members.mem_of_get? hget))]
    exact .some (.refl value)

/-! ## Comparing with choices -/

theorem itemsEqual_iff {choices : List Json} : itemsEqual items choices = true ↔
    items.length = choices.length ∧ ∀ (i : Nat) (item choice : Json), items[i]? = some item →
      choices[i]? = some choice → looselyEquals item choice = true := by
  induction items generalizing choices with
  | nil => cases choices <;> simp [itemsEqual]
  | cons item rest ih =>
    cases choices with
    | nil => simp [itemsEqual]
    | cons choice more =>
      rw [itemsEqual, Bool.and_eq_true, ih, List.length_cons, List.length_cons]
      constructor
      · rintro ⟨hfirst, hlength, hrest⟩
        refine ⟨by rw [hlength], fun i => ?_⟩
        cases i with
        | zero =>
          rintro _ _ ⟨⟩ ⟨⟩
          exact hfirst
        | succ i => exact hrest i
      · rintro ⟨hlength, hall⟩
        exact ⟨hall 0 item choice rfl rfl, Nat.succ.inj hlength, fun i => hall (i + 1)⟩

theorem membersEqual_iff {choices : Members} : membersEqual members choices = true ↔
    ∀ pair ∈ members, ∃ choice, choices.get? pair.1 = some choice ∧
      looselyEquals pair.2 choice = true := by
  induction members with
  | nil => simp [membersEqual]
  | cons pair rest ih =>
    obtain ⟨key, value⟩ := pair
    rw [membersEqual, Bool.and_eq_true, ih, List.forall_mem_cons]
    refine and_congr_left fun _ => ?_
    cases Members.get? choices key <;> simp

/-- Where no key is there twice, members are compared key by key. -/
theorem membersEqual_iff_get? {choices : Members} (hnodup : (Members.keys members).Nodup) :
    membersEqual members choices = true ↔ ∀ key value, members.get? key = some value →
      ∃ choice, choices.get? key = some choice ∧ looselyEquals value choice = true := by
  rw [membersEqual_iff]
  constructor
  · exact fun h key value hget => h (key, value) (Members.mem_of_get? hget)
  · exact fun h pair hpair => h pair.1 pair.2 (Members.get?_of_mem hnodup hpair)

theorem exists_getElem?_of_length {others : List Json} (hlength : items.length = others.length)
    {i : Nat} (h : items[i]? = some value) : ∃ other, others[i]? = some other := by
  obtain ⟨hlt, -⟩ := List.getElem?_eq_some_iff.1 h
  exact ⟨_, List.getElem?_eq_getElem (hlength ▸ hlt)⟩

/-- The order of members does not count in a comparison with a choice. -/
theorem Reordered.looselyEquals_eq (h : Reordered value other) (hdistinct : value.KeysDistinct)
    (choice : Json) : looselyEquals value choice = looselyEquals other choice := by
  induction h generalizing choice with
  | refl => rfl
  | @arr items others hlength _ ih =>
    cases choice with
    | arr choices =>
      rw [looselyEquals, looselyEquals, Bool.eq_iff_iff, itemsEqual_iff, itemsEqual_iff, hlength]
      have hitem {i : Nat} {item other : Json} (hget : items[i]? = some item)
          (hother : others[i]? = some other) (choice : Json) :
          looselyEquals item choice = looselyEquals other choice :=
        ih i item other hget hother (hdistinct.item (List.mem_of_getElem? hget)) choice
      refine and_congr_right fun _ => ⟨fun hall i other choice hother hchoice => ?_,
        fun hall i item choice hget hchoice => ?_⟩
      · obtain ⟨item, hget⟩ := exists_getElem?_of_length hlength.symm hother
        rw [← hitem hget hother]
        exact hall i item choice hget hchoice
      · obtain ⟨other, hother⟩ := exists_getElem?_of_length hlength hget
        rw [hitem hget hother]
        exact hall i other choice hother hchoice
    | _ => rfl
  | @obj members others has nodup values ih =>
    cases choice with
    | obj choices =>
      have hreordered : Reordered (.obj members) (.obj others) := .obj has nodup values
      have hlength : members.length = others.length := by
        simpa [Members.keys] using (hreordered.keys_perm hdistinct.nodup).length_eq
      have hmember {key : String} {value other : Json} (hget : members.get? key = some value)
          (hother : others.get? key = some other) (choice : Json) :
          looselyEquals value choice = looselyEquals other choice :=
        ih key value other hget hother (hdistinct.member hget) choice
      rw [looselyEquals, looselyEquals, Bool.eq_iff_iff, Bool.and_eq_true, Bool.and_eq_true,
        membersEqual_iff_get? hdistinct.nodup, membersEqual_iff_get? (nodup hdistinct.nodup),
        hlength]
      refine and_congr_right fun _ => ⟨fun hall key other hother => ?_,
        fun hall key value hget => ?_⟩
      · obtain ⟨value, hget, -⟩ := hreordered.get?_right hother
        simpa only [hmember hget hother] using hall key value hget
      · obtain ⟨other, hother, -⟩ := hreordered.get?_left hget
        simpa only [hmember hget hother] using hall key other hother
    | _ => rfl

theorem Reordered.isBool_eq (h : Reordered value other) : value.isBool = other.isBool := by
  cases h <;> rfl

/-- Values that are the same up to the order of members are choices of the same fields. -/
theorem Reordered.isChoice_eq (h : Reordered value other) (hdistinct : value.KeysDistinct)
    (choices : List Json) : value.isChoice choices = other.isChoice choices := by
  simp only [isChoice, h.looselyEquals_eq hdistinct, h.isBool_eq]

end Json

/-! ## Members stored in the same order -/

namespace Members

variable {members others : Members}

/-- The same keys in the same places, and values that are the same up to the order of members. -/
def Parallel (members others : Members) : Prop :=
  List.Forall₂ (fun pair other => pair.1 = other.1 ∧ Reordered pair.2 other.2) members others

namespace Parallel

theorem keys_eq (h : Parallel members others) : keys members = keys others := by
  induction h with
  | nil => rfl
  | cons hpair _ ih =>
    rw [keys, List.map_cons, hpair.1]
    exact congrArg _ ih

theorem get?_rel (h : Parallel members others) (key : String) :
    Option.Rel Reordered (members.get? key) (others.get? key) := by
  induction h with
  | nil => exact .none
  | @cons pair other _ _ hpair _ ih =>
    rw [get?, get?, hpair.1]
    split
    · exact .some hpair.2
    · exact ih

theorem reordered (h : Parallel members others) : Reordered (.obj members) (.obj others) :=
  Json.reordered_obj_of_rel h.get?_rel fun hnodup => h.keys_eq ▸ hnodup

theorem of_rel (key : String) {a b : Option Json} (h : Option.Rel Reordered a b) :
    Parallel (a.toList.map fun value => (key, value)) (b.toList.map fun value => (key, value)) := by
  cases h with
  | some hvalue => exact .cons ⟨rfl, hvalue⟩ .nil
  | none => exact .nil

theorem put (h : Parallel members others) (key : String) {value other : Json}
    (hvalue : Reordered value other) :
    Parallel (members.put key value) (others.put key other) := by
  induction h with
  | nil => exact .cons ⟨rfl, hvalue⟩ .nil
  | @cons pair other _ _ hpair hrest ih =>
    rw [Members.put, Members.put, hpair.1]
    split
    · exact .cons ⟨rfl, hvalue⟩ hrest
    · exact .cons ⟨rfl, hpair.2⟩ ih

/-- Pairs that are parallel are so when they are stored one after another. -/
theorem ofPairs (h : Parallel members others) :
    Parallel (Members.ofPairs members) (Members.ofPairs others) := by
  -- What has been stored before is parallel too.
  suffices hall : ∀ done done' : Members, Parallel done done' →
      Parallel (members.foldl (fun members pair => Members.put members pair.1 pair.2) done)
        (others.foldl (fun members pair => Members.put members pair.1 pair.2) done') from
    hall [] [] .nil
  induction h with
  | nil => exact fun _ _ hdone => hdone
  | cons hpair _ ih =>
    intro done done' hdone
    rw [List.foldl_cons, List.foldl_cons, hpair.1]
    exact ih _ _ (hdone.put _ hpair.2)

end Parallel

end Members

end ContentModel
