import ContentModel.Proofs.Issue.Place
import ContentModel.Proofs.Json.Members

/-!
# Values with a part replaced

* `Members.without` are the members of an object but those under a key; `Members.put` replaces the
  value under a key that is there;
* `Json.Replaced` says that a value becomes another when its part at a location is replaced;
  `Json.Replaced.split` takes a location apart;
* `Json.DifferAt` says that two values differ at most in what stands under one key of the object at
  a location.
-/

namespace ContentModel

namespace Members

variable {members others : Members} {key : String}

/-- The members that do not stand under a key. -/
def without (members : Members) (key : String) : Members := members.filter fun pair => pair.1 != key

theorem get?_without (members : Members) (key name : String) :
    (members.without key).get? name = if name != key then members.get? name else none :=
  get?_filter members (fun name => name != key) name

/-- Objects that agree but for a key have the same values under the other keys. -/
theorem get?_eq_of_without (h : members.without key = others.without key) {name : String}
    (hname : name ≠ key) : members.get? name = others.get? name := by
  have hget := congrArg (Members.get? · name) h
  simpa [get?_without, hname] using hget

/-! ## Storing under a key that is there -/

theorem keys_put_of_has {value : Json} (h : members.has key = true) :
    keys (members.put key value) = keys members := by
  induction members with
  | nil => cases h
  | cons pair rest ih =>
    obtain ⟨k, old⟩ := pair
    by_cases hk : k = key
    · simp [put, hk, keys]
    · have hrest : Members.has rest key = true := by simpa [has, get?, hk] using h
      simpa [put, hk, keys] using ih hrest

theorem put_append_of_has {value : Json} (h : members.has key = true) :
    put (members ++ others) key value = members.put key value ++ others := by
  induction members with
  | nil => cases h
  | cons pair rest ih =>
    obtain ⟨k, old⟩ := pair
    by_cases hk : k = key
    · simp [put, hk]
    · have hrest : Members.has rest key = true := by simpa [has, get?, hk] using h
      simp [put, hk, ih hrest]

/-- What is left of an object when its members under some keys are taken away does not depend on
the values under these keys. -/
theorem filter_put (keep : String → Bool) {value : Json} (h : members.has key = true)
    (hkeep : keep key = false) : ((members.put key value).filter fun pair => keep pair.1) =
      members.filter fun pair => keep pair.1 := by
  induction members with
  | nil => cases h
  | cons pair rest ih =>
    obtain ⟨k, old⟩ := pair
    by_cases hk : k = key
    · subst hk
      simp [put, hkeep]
    · have hrest : Members.has rest key = true := by simpa [has, get?, hk] using h
      simp only [put, if_neg hk, List.filter_cons, ih hrest]

/-- The tag of an object is one of its keys: the values do not count. -/
theorem tag?_eq_of_keys (h : keys members = keys others) : members.tag? = others.tag? := by
  induction members generalizing others with
  | nil =>
    cases others with
    | nil => rfl
    | cons => cases h
  | cons pair rest ih =>
    cases others with
    | nil => cases h
    | cons other rest' =>
      obtain ⟨hkey, hrest⟩ := List.cons_eq_cons.1 h
      obtain ⟨k, value⟩ := pair
      obtain ⟨l, value'⟩ := other
      simp only at hkey
      rw [tag?_cons, tag?_cons, hkey, ih hrest]

end Members

namespace Json

theorem at?_member {members : Members} {name : String} {part : Json}
    (h : members.get? name = some part) (rest : Location) :
    (obj members).at? (.key name :: rest) = part.at? rest :=
  at?_cons (show (obj members).part? (.key name) = some part from h) rest

theorem at?_item {items : List Json} {i : Nat} {part : Json} (h : items[i]? = some part)
    (rest : Location) : (arr items).at? (.index i :: rest) = part.at? rest :=
  at?_cons (show (arr items).part? (.index i) = some part from h) rest

theorem at?_append (value : Json) (front rest : Location) :
    value.at? (front ++ rest) = (value.at? front).bind fun part => part.at? rest := by
  induction front generalizing value with
  | nil => rfl
  | cons step front ih =>
    rw [List.cons_append, at?, at?, Option.bind_assoc]
    exact Option.bind_congr fun part _ => ih part

/-- A value becomes another when the part of it at a location, which is the one found there, is
replaced by a new one. -/
inductive Replaced (found new : Json) : Location → Json → Json → Prop
  | here : Replaced found new [] found new
  | member {members : Members} {name : String} {part other : Json} {rest : Location}
      (given : members.get? name = some part) (deeper : Replaced found new rest part other) :
      Replaced found new (.key name :: rest) (.obj members) (.obj (members.put name other))
  | item {items : List Json} {i : Nat} {part other : Json} {rest : Location}
      (given : items[i]? = some part) (deeper : Replaced found new rest part other) :
      Replaced found new (.index i :: rest) (.arr items) (.arr (items.set i other))

namespace Replaced

variable {found new value other part : Json} {location front rest : Location}

theorem at?_left (h : Replaced found new location value other) :
    value.at? location = some found := by
  induction h with
  | here => rfl
  | member given _ ih => exact (at?_member given _).trans ih
  | item given _ ih => exact (at?_item given _).trans ih

theorem at?_right (h : Replaced found new location value other) :
    other.at? location = some new := by
  induction h with
  | here => rfl
  | member _ _ ih => exact (at?_member (Members.get?_put_self _ _ _) _).trans ih
  | item given _ ih =>
    obtain ⟨hlt, -⟩ := List.getElem?_eq_some_iff.1 given
    exact (at?_item (List.getElem?_set_self hlt) _).trans ih

/-- Nothing but null becomes null. -/
theorem ne_null (h : Replaced found new location value other) (hnew : new ≠ .null) :
    other ≠ .null := by
  cases h with
  | here => exact hnew
  | member => nofun
  | item => nofun

/-- A replacement in a part, and the replacement of the part, are one replacement. -/
theorem within {changed : Json} (h : Replaced part changed front value other)
    (hpart : Replaced found new rest part changed) :
    Replaced found new (front ++ rest) value other := by
  induction h with
  | here => exact hpart
  | member given _ ih => exact .member given ih
  | item given _ ih => exact .item given ih

/-- A replacement below a part is a replacement in the part. -/
theorem split (hpart : value.at? front = some part)
    (h : Replaced found new (front ++ rest) value other) :
    ∃ changed, Replaced found new rest part changed ∧ Replaced part changed front value other := by
  induction front generalizing value other with
  | nil =>
    cases hpart
    exact ⟨other, h, .here⟩
  | cons step front ih =>
    cases h with
    | member given deeper =>
      rw [at?_member given] at hpart
      obtain ⟨changed, hchanged, hfront⟩ := ih hpart deeper
      exact ⟨changed, hchanged, .member given hfront⟩
    | item given deeper =>
      rw [at?_item given] at hpart
      obtain ⟨changed, hchanged, hfront⟩ := ih hpart deeper
      exact ⟨changed, hchanged, .item given hfront⟩

end Replaced

/-- Two values differ at most in what stands under a key of the object at a location. -/
def DifferAt (location : Location) (key : String) (value other : Json) : Prop :=
  ∃ members others : Members, Replaced (.obj members) (.obj others) location value other ∧
    members.without key = others.without key

/-- Where two values differ in an object only, they differ at a key just when the two versions of
the object do. -/
theorem Replaced.differAt_iff {members others : Members} {location : Location} {key : String}
    {value other : Json} (h : Replaced (.obj members) (.obj others) location value other) :
    DifferAt location key value other ↔ members.without key = others.without key := by
  refine ⟨?_, fun hwithout => ⟨members, others, h, hwithout⟩⟩
  rintro ⟨members', others', h', hwithout⟩
  have hleft := h'.at?_left
  rw [h.at?_left] at hleft
  have hright := h'.at?_right
  rw [h.at?_right] at hright
  cases hleft
  cases hright
  exact hwithout

end Json

end ContentModel
