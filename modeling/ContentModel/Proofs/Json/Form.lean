import ContentModel.Json.Emptiness

/-!
# The form of JSON values

* `Json.induct` is induction on values, with one hypothesis for the items of a list and one for the
  values of the members of an object, `Json.inductUnder` induction on the objects in lists under a
  key;
* `Json.SameForm` relates a value to itself, lists of the same length, and objects.
-/

namespace ContentModel.Json

/-- Induction on values. -/
@[elab_as_elim]
theorem induct {P : Json → Prop} (null : P .null) (bool : ∀ b, P (.bool b))
    (int : ∀ n, P (.int n)) (float : ∀ x, P (.float x)) (str : ∀ s, P (.str s))
    (arr : ∀ items, (∀ item ∈ items, P item) → P (.arr items))
    (obj : ∀ members : List (String × Json), (∀ pair ∈ members, P pair.2) → P (.obj members))
    (value : Json) : P value :=
  @Json.rec P (fun items => ∀ item ∈ items, P item) (fun members => ∀ pair ∈ members, P pair.2)
    (fun pair => P pair.2) null bool int float str arr obj (fun item h => absurd h (by simp))
    (fun _ _ ihHead ihTail item h =>
      (List.mem_cons.1 h).elim (fun e => e ▸ ihHead) (ihTail item))
    (fun pair h => absurd h (by simp))
    (fun _ _ ihHead ihTail pair h =>
      (List.mem_cons.1 h).elim (fun e => e ▸ ihHead) (ihTail pair))
    (fun _ _ ih => ih) value

/-- Induction on values that follows, in objects, the list under a key. -/
@[elab_as_elim]
theorem inductUnder (key : String) {P : Json → Prop}
    (other : ∀ value : Json, value.isObject = false → P value)
    (obj : ∀ members : Members, (∀ items, members.get? key = some (.arr items) →
      ∀ item ∈ items, P item) → P (.obj members)) (value : Json) : P value := by
  -- The items are two levels further down: the property is shown of the items of lists as well.
  have hboth : P value ∧ ∀ items, value = .arr items → ∀ item ∈ items, P item := by
    induction value using induct with
    | arr items ih =>
      refine ⟨other _ rfl, fun _ heq item hitem => ?_⟩
      cases heq
      exact (ih item hitem).1
    | obj members ih =>
      refine ⟨obj members fun items hitems => ?_, nofun⟩
      exact (ih _ (Members.mem_of_get? hitems)).2 items rfl
    | _ => exact ⟨other _ rfl, nofun⟩
  exact hboth.1

/-- Two values are the same, two lists of one length, or two objects. -/
inductive SameForm : Json → Json → Prop
  | refl (value : Json) : SameForm value value
  | arr {items others : List Json} (length : items.length = others.length) :
      SameForm (.arr items) (.arr others)
  | obj (members others : Members) : SameForm (.obj members) (.obj others)

namespace SameForm

variable {value other : Json}

theorem null_iff (h : SameForm value other) : other = .null ↔ value = .null := by
  cases h <;> simp

theorem str_iff (h : SameForm value other) (s : String) : other = .str s ↔ value = .str s := by
  cases h <;> simp

theorem isObject_eq (h : SameForm value other) : other.isObject = value.isObject := by
  cases h <;> rfl

theorem isEmptyValue_eq (h : SameForm value other) :
    other.isEmptyValue = value.isEmptyValue := by
  cases h with
  | refl => rfl
  | obj => rfl
  | @arr items others hlength => cases items <;> cases others <;> simp_all [isEmptyValue]

end SameForm

end ContentModel.Json
