import ContentModel.Proofs.Json.Members

/-!
# JSON values up to the order of members

* `Json.Reordered` relates values that are the same up to the order of the members of objects, at
  every depth;
* `Json.reordered_map_iff` and `Json.reordered_obj_iff` go one level down;
* `Json.Reordered.keys_perm` says that two such objects have the same keys, each as often, if the
  first one has no key twice.
-/

namespace ContentModel.Json

/-- Two values are the same up to the order of the members of objects. Reordering brings no key in
twice. -/
inductive Reordered : Json → Json → Prop
  | refl (value : Json) : Reordered value value
  | arr {items others : List Json} (length : items.length = others.length)
      (items_reordered : ∀ (i : Nat) (item other : Json), items[i]? = some item →
        others[i]? = some other → Reordered item other) :
      Reordered (.arr items) (.arr others)
  | obj {members others : Members} (has : ∀ key, others.has key = members.has key)
      (nodup : (Members.keys members).Nodup → (Members.keys others).Nodup)
      (values_reordered : ∀ key value other, members.get? key = some value →
        others.get? key = some other → Reordered value other) :
      Reordered (.obj members) (.obj others)

theorem reordered_map_iff {items : List Json} {f : Json → Json} :
    Reordered (.arr items) (.arr (items.map f)) ↔ ∀ item ∈ items, Reordered item (f item) := by
  constructor
  · intro h item hitem
    obtain ⟨i, hi⟩ := List.mem_iff_getElem?.1 hitem
    have hother : (items.map f)[i]? = some (f item) := by rw [List.getElem?_map, hi]; rfl
    generalize items.map f = others at h hother
    cases h with
    | refl =>
      rw [hi] at hother
      rw [← Option.some.inj hother]
      exact .refl item
    | arr _ hitems => exact hitems i item (f item) hi hother
  · intro h
    refine .arr (List.length_map f).symm fun i item other hi hother => ?_
    rw [List.getElem?_map, hi] at hother
    cases hother
    exact h item (List.mem_of_getElem? hi)

theorem reordered_obj_iff {members others : Members} :
    Reordered (.obj members) (.obj others) ↔
      (∀ key, others.has key = members.has key) ∧
      ((Members.keys members).Nodup → (Members.keys others).Nodup) ∧
      ∀ key value other, members.get? key = some value → others.get? key = some other →
        Reordered value other := by
  constructor
  · intro h
    cases h with
    | refl =>
      refine ⟨fun _ => rfl, id, fun key value other hvalue hother => ?_⟩
      rw [hvalue] at hother
      cases hother
      exact .refl value
    | obj has nodup values => exact ⟨has, nodup, values⟩
  · rintro ⟨has, nodup, values⟩
    exact .obj has nodup values

theorem Reordered.keys_perm {members others : Members}
    (h : Reordered (.obj members) (.obj others)) (hnodup : (Members.keys members).Nodup) :
    (Members.keys members).Perm (Members.keys others) := by
  obtain ⟨hhas, hothers, -⟩ := reordered_obj_iff.1 h
  refine (List.perm_ext_iff_of_nodup hnodup (hothers hnodup)).2 fun key => ?_
  rw [← Members.has_iff, ← Members.has_iff, hhas]

end ContentModel.Json
