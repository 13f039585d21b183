import Mathlib.Data.List.Nodup
import ContentModel.Proofs.Json.Replaced
import ContentModel.Proofs.Validation.Settled

/-!
# Parts of values that are checked on their own

A check that hands a part of a value on to another check looks at nothing else in that part. What is
found elsewhere, and what comes out elsewhere, is the same for every part.

* `Finding.outside` are the findings at places that are not hidden, `Checker.AgreeOutside` says that
  a check finds the same in two values but for hidden places;
* `Checker.Delegates` says that a check hands a part of a value on to another one. It is transitive
  (`Checker.Delegates.trans`), and lists and records hand their items and members on
  (`Checker.delegates_list`, `Checker.delegates_record`).
-/

namespace ContentModel

namespace Finding

variable {hidden : Location → Bool}

/-- The findings at places that are not hidden. -/
def outside (hidden : Location → Bool) (findings : List Finding) : List Finding :=
  findings.filter fun finding => !hidden finding.location

theorem outside_append (first second : List Finding) :
    outside hidden (first ++ second) = outside hidden first ++ outside hidden second :=
  List.filter_append ..

theorem outside_flatMap {α : Type} (items : List α) (findings : α → List Finding) :
    outside hidden (items.flatMap findings) =
      items.flatMap fun item => outside hidden (findings item) :=
  List.filter_flatMap ..

/-- Seen from further out, places are hidden by the steps that lead to them. -/
theorem outside_under (step : Step) (findings : List Finding) :
    outside hidden (findings.map (.under step)) =
      (outside (fun rest => hidden (step :: rest)) findings).map (.under step) := by
  rw [outside, List.filter_map]
  rfl

theorem outside_eq_nil {findings : List Finding}
    (h : ∀ finding ∈ findings, hidden finding.location = true) : outside hidden findings = [] := by
  refine List.filter_eq_nil_iff.2 fun finding hfinding => ?_
  simp [h finding hfinding]

end Finding

namespace Checker

open Finding Json

/-- But for hidden places, a check finds the same in two values, in the same order. -/
def AgreeOutside (checker : Checker) (hidden : Location → Bool) (value other : Json) : Prop :=
  outside hidden (checker.findings value) = outside hidden (checker.findings other)

theorem agreeOutside_none_iff {checker : Checker} {value other : Json} :
    checker.AgreeOutside (fun _ => false) value other ↔
      checker.findings value = checker.findings other := by
  have hall : ∀ findings, outside (fun _ => false) findings = findings := fun findings =>
    List.filter_eq_self.2 fun _ _ => rfl
  rw [AgreeOutside, hall, hall]

/-- An outer check hands a part of a value on to an inner one. When the part is replaced by anything
but null, the outer check finds the same but for what the inner one finds, and of what comes out
only the part is replaced. -/
structure Delegates (outer inner : Checker) (location : Location) (value part : Json) : Prop where
  at_location : value.at? location = some part
  findings : ∀ {hidden : Location → Bool} {new other : Json}, new ≠ .null →
    Replaced part new location value other →
    inner.AgreeOutside (fun rest => hidden (location ++ rest)) part new →
    outer.AgreeOutside hidden value other
  value : ∀ {new other : Json}, new ≠ .null → Replaced part new location value other →
    Replaced (inner.value part) (inner.value new) location (outer.value value) (outer.value other)

variable {outer middle inner checker : Checker} {value part deep : Json} {front rest : Location}

theorem delegates_self (checker : Checker) (value : Json) :
    checker.Delegates checker [] value value where
  at_location := rfl
  findings _ h hagree := by
    cases h
    exact hagree
  value _ h := by
    cases h
    exact .here

theorem Delegates.trans (h : outer.Delegates middle front value part)
    (h' : middle.Delegates inner rest part deep) :
    outer.Delegates inner (front ++ rest) value deep where
  at_location := by rw [at?_append, h.at_location, Option.bind_some, h'.at_location]
  findings hnew hreplaced hagree := by
    obtain ⟨changed, hchanged, hfront⟩ := hreplaced.split h.at_location
    refine h.findings (hchanged.ne_null hnew) hfront (h'.findings hnew hchanged ?_)
    simpa only [List.append_assoc] using hagree
  value hnew hreplaced := by
    obtain ⟨changed, hchanged, hfront⟩ := hreplaced.split h.at_location
    exact (h.value (hchanged.ne_null hnew) hfront).within (h'.value hnew hchanged)

theorem findings_nullable_of_ne (h : value ≠ .null) :
    checker.nullable.findings value = checker.findings value := by
  cases value with
  | null => exact absurd rfl h
  | _ => rfl

theorem value_nullable_of_ne (h : value ≠ .null) :
    checker.nullable.value value = checker.value value := by
  cases value with
  | null => exact absurd rfl h
  | _ => rfl

/-- Anything but null is handed on. -/
theorem delegates_nullable (checker : Checker) (hvalue : value ≠ .null) :
    checker.nullable.Delegates checker [] value value where
  at_location := rfl
  findings hnew h hagree := by
    cases h
    rwa [AgreeOutside, findings_nullable_of_ne hvalue, findings_nullable_of_ne hnew]
  value hnew h := by
    cases h
    rw [value_nullable_of_ne hvalue, value_nullable_of_ne hnew]
    exact .here

/-! ## Lists -/

theorem outside_itemFindings_set {hidden : Location → Bool} {items : List Json} {i index : Nat}
    {item new : Json} (hget : items[i]? = some item)
    (h : checker.AgreeOutside (fun rest => hidden (.index (index + i : Nat) :: rest)) item new) :
    outside hidden (itemFindings checker.findings index items) =
      outside hidden (itemFindings checker.findings index (items.set i new)) := by
  induction items generalizing index i with
  | nil => cases hget
  | cons first others ih =>
    cases i with
    | zero =>
      cases hget
      rw [List.set_cons_zero, itemFindings, itemFindings, outside_append, outside_append,
        outside_under, outside_under]
      rw [AgreeOutside, Nat.add_zero] at h
      rw [h]
    | succ i =>
      rw [List.set_cons_succ, itemFindings, itemFindings, outside_append, outside_append]
      rw [ih hget (by rwa [Nat.add_right_comm, Nat.add_assoc])]

/-- A list hands its items on. -/
theorem delegates_list (most : Option Nat) {items : List Json} {i : Nat} {item : Json}
    (hget : items[i]? = some item) :
    (list most checker).Delegates checker [.index i] (.arr items) item where
  at_location := at?_item hget []
  findings {hidden new other} _ h hagree := by
    cases h with
    | item _ deeper =>
      cases deeper
      simp only [AgreeOutside, list, List.length_set]
      split
      · rfl
      · refine outside_itemFindings_set hget ?_
        rwa [Nat.zero_add]
  value {new other} _ h := by
    cases h with
    | item _ deeper =>
      cases deeper
      simp only [list, List.map_set]
      refine .item ?_ .here
      rw [List.getElem?_map, hget, Option.map_some]

end Checker

/-! ## Records -/

namespace Slot

variable {slot : Slot} {slots : List Slot} {shape : Shape} {members others : Members} {key : String}
  {part : Json}

theorem read_put_of_ne (hother : slot.otherKey = none) (hne : slot.key ≠ key) (new : Json) :
    slot.read (members.put key new) = slot.read members := by
  rw [read_of_otherKey hother, read_of_otherKey hother, Members.get?_put_of_ne _ _ hne]

/-- Among slots with one key each, the undeclared members are those under the keys of none. -/
theorem undeclared_of_noOther (hother : ∀ slot ∈ slots, slot.otherKey = none) (members : Members) :
    undeclared slots members =
      members.filter fun pair => !(slots.map fun slot => slot.key).contains pair.1 := by
  refine List.filter_congr fun pair hpair => congrArg not ?_
  rw [Bool.eq_iff_iff, List.contains_iff_mem, List.mem_map, List.any_eq_true]
  refine exists_congr fun slot => and_congr_right fun hs => ?_
  rw [read_of_otherKey (hother slot hs), beq_iff_eq]
  constructor
  · intro hread
    obtain ⟨_, hread, hkey⟩ := Option.map_eq_some_iff.1 hread
    obtain ⟨_, -, rfl⟩ := Option.map_eq_some_iff.1 hread
    exact hkey
  · intro hkey
    have hhas : members.has pair.1 = true := Members.has_iff.2 (List.mem_map_of_mem hpair)
    obtain ⟨value, hvalue⟩ := Option.isSome_iff_exists.1 hhas
    rw [hkey, hvalue]
    rfl

/-- The undeclared members do not depend on the value under the key of a slot. -/
theorem kept_put (hother : ∀ slot ∈ slots, slot.otherKey = none) (hs : slot ∈ slots)
    (hhas : members.has slot.key = true) (new : Json) :
    kept shape slots (members.put slot.key new) = kept shape slots members := by
  have hkeep : (!(slots.map fun slot => slot.key).contains slot.key) = false := by
    rw [Bool.not_eq_false', List.contains_iff_mem]
    exact List.mem_map_of_mem hs
  have hundeclared : undeclared slots (members.put slot.key new) = undeclared slots members := by
    rw [undeclared_of_noOther hother, undeclared_of_noOther hother]
    exact Members.filter_put (fun key => !(slots.map fun slot => slot.key).contains key) hhas hkeep
  rw [kept, kept, hundeclared]

/-- A new value under the key of a slot changes what comes out of this slot only. -/
theorem results_put (hnodup : (slots.map fun slot => slot.key).Nodup)
    (hother : ∀ slot ∈ slots, slot.otherKey = none) (hs : slot ∈ slots)
    (given : members.get? slot.key = some part) (new : Json) :
    results slots (members.put slot.key new) others =
      (results slots members others).put slot.key (slot.checker.value new) := by
  induction slots with
  | nil => cases hs
  | cons first rest ih =>
    rw [List.map_cons, List.nodup_cons] at hnodup
    rw [List.forall_mem_cons] at hother
    rw [results_cons, results_cons]
    rcases List.mem_cons.1 hs with rfl | hrest
    · have hothers : results rest (members.put slot.key new) others =
          results rest members others := by
        refine (results_eq_iff hnodup.2).2 fun other hmem => ?_
        have hne : other.key ≠ slot.key := fun heq => hnodup.1 (heq ▸ List.mem_map_of_mem hmem)
        rw [result, result, read_put_of_ne (hother.2 other hmem) hne]
      rw [hothers, result_of_read (read_of_get? given),
        result_of_read (read_of_get? (Members.get?_put_self _ _ _))]
      simp [Members.put]
    · have hne : first.key ≠ slot.key := fun heq => hnodup.1 (heq ▸ List.mem_map_of_mem hrest)
      have hfirst : first.result (members.put slot.key new) others =
          first.result members others := by
        rw [result, result, read_put_of_ne hother.1 hne]
      rw [hfirst, ih hnodup.2 hother.2 hrest]
      cases first.result members others <;> simp [Members.put, hne]

theorem recordMembers_put (hnodup : (slots.map fun slot => slot.key).Nodup)
    (hother : ∀ slot ∈ slots, slot.otherKey = none) (hs : slot ∈ slots)
    (given : members.get? slot.key = some part) (new : Json) :
    Checker.recordMembers shape slots (members.put slot.key new) =
      (Checker.recordMembers shape slots members).put slot.key (slot.checker.value new) := by
  have hseparate := Separate.of_noOther hnodup hother
  have hhas : (results slots members (kept shape slots members)).has slot.key = true := by
    rw [Members.has, get?_results hnodup hs, result_of_read (read_of_get? given)]
    rfl
  rw [hseparate.recordMembers_eq, hseparate.recordMembers_eq,
    kept_put hother hs (by rw [Members.has, given]; rfl), results_put hnodup hother hs given,
    Members.put_append_of_has hhas]

theorem findings_of_get? (given : members.get? slot.key = some part) :
    slot.findings members = (slot.checker.findings part).map (.under (.key slot.key)) := by
  rw [findings, read_of_get? given]

end Slot

namespace Checker

open Finding Json

/-- A record hands its members on, each to the check of its slot. -/
theorem delegates_record (shape : Shape) {slots : List Slot} {slot : Slot} {members : Members}
    {part : Json} (hnodup : (slots.map fun slot => slot.key).Nodup)
    (hother : ∀ slot ∈ slots, slot.otherKey = none) (hs : slot ∈ slots)
    (given : members.get? slot.key = some part) :
    (record shape slots).Delegates slot.checker [.key slot.key] (.obj members) part where
  at_location := at?_member given []
  findings {hidden new other} _ h hagree := by
    cases h with
    | member _ deeper =>
      cases deeper
      have hhas : members.has slot.key = true := by rw [Members.has, given]; rfl
      have htag : Members.tag? (members.put slot.key new) = Members.tag? members :=
        Members.tag?_eq_of_keys (Members.keys_put_of_has hhas)
      have hslots : ∀ other ∈ slots, outside hidden (other.findings members) =
          outside hidden (other.findings (members.put slot.key new)) := by
        intro other hmem
        by_cases hkey : other.key = slot.key
        · obtain rfl := List.inj_on_of_nodup_map hnodup hmem hs hkey
          rw [Slot.findings_of_get? given, Slot.findings_of_get? (Members.get?_put_self _ _ _),
            outside_under, outside_under]
          exact congrArg (List.map _) hagree
        · rw [Slot.findings, Slot.findings, Slot.read_put_of_ne (hother other hmem) hkey]
      have hall : outside hidden (slots.flatMap fun slot => slot.findings members) =
          outside hidden (slots.flatMap fun other =>
            other.findings (members.put slot.key new)) := by
        rw [outside_flatMap, outside_flatMap]
        exact List.flatMap_congr hslots
      have hdeclared : tagDeclared slots (members.put slot.key new) =
          tagDeclared slots members := by
        rw [tagDeclared, tagDeclared, htag]
      simp only [AgreeOutside, record, hdeclared, htag]
      split
      · rfl
      · exact hall
  value {new other} _ h := by
    cases h with
    | member _ deeper =>
      cases deeper
      simp only [record, Slot.recordMembers_put hnodup hother hs given]
      refine .member ?_ .here
      rw [(Slot.Separate.of_noOther hnodup hother).get?_recordMembers hs,
        Slot.result_of_read (Slot.read_of_get? given)]

end Checker

end ContentModel
