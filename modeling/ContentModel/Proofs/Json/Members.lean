import ContentModel.Schema.Variant

/-!
# Members of objects

Reading keys of joined, filtered and stored members.

* `Members.get?_append` and `Members.get?_filter` read joined and filtered members;
* `Members.ofPairs_of_nodup` says that storing pairs of distinct keys keeps them as they are;
* `Members.tag?_append` finds the tag of joined members.
-/

namespace ContentModel.Members

/-- The keys of an object, in order. -/
def keys (members : Members) : List String := members.map fun pair => pair.1

theorem get?_eq_none_iff {members : Members} {key : String} :
    members.get? key = none ↔ key ∉ keys members := by
  induction members with
  | nil => simp [keys]
  | cons pair rest ih =>
    obtain ⟨k, value⟩ := pair
    by_cases h : k = key
    · simp [get?, keys, h]
    · simp only [keys] at ih
      simp [get?, keys, h, ih, Ne.symm h]

theorem has_iff {members : Members} {key : String} :
    members.has key = true ↔ key ∈ keys members := by
  rw [has, Option.isSome_iff_ne_none, Ne, get?_eq_none_iff, Decidable.not_not]

theorem eq_nil_iff {members : Members} : members = [] ↔ ∀ key, members.has key ≠ true := by
  simp only [Ne, has_iff, ← List.eq_nil_iff_forall_not_mem, keys, List.map_eq_nil_iff]

theorem get?_append (first second : Members) (key : String) :
    Members.get? (first ++ second) key = (Members.get? first key).or (Members.get? second key) := by
  induction first with
  | nil => simp
  | cons pair rest ih =>
    obtain ⟨k, value⟩ := pair
    by_cases h : k = key <;> simp [get?, h, ih]

/-- Keys that are kept all or none keep their values or lose them. -/
theorem get?_filter (members : Members) (keep : String → Bool) (key : String) :
    Members.get? (members.filter fun pair => keep pair.1) key =
      if keep key then members.get? key else none := by
  induction members with
  | nil => simp
  | cons pair rest ih =>
    obtain ⟨k, value⟩ := pair
    by_cases hk : keep k = true <;> by_cases h : k = key
    · subst h; simp [get?, hk]
    · simp [get?, hk, h, ih]
    · subst h; simpa [get?, hk] using ih
    · simp [get?, hk, h, ih]

/-! ## Storing -/

theorem put_of_notMem {members : Members} {key : String} (value : Json) (h : key ∉ keys members) :
    members.put key value = members ++ [(key, value)] := by
  induction members with
  | nil => rfl
  | cons pair rest ih =>
    obtain ⟨k, old⟩ := pair
    simp only [keys, List.map_cons, List.mem_cons, not_or] at h
    simp [put, Ne.symm h.1, ih h.2]

/-- Pairs of distinct keys, stored one after another, stay as they are. -/
theorem ofPairs_of_nodup {pairs : List (String × Json)} (h : (keys pairs).Nodup) :
    ofPairs pairs = pairs := by
  have key : ∀ (done rest : Members), (keys (done ++ rest)).Nodup →
      rest.foldl (fun members pair => put members pair.1 pair.2) done = done ++ rest := by
    intro done rest
    induction rest generalizing done with
    | nil => simp
    | cons pair rest ih =>
      intro hnodup
      have hnew : pair.1 ∉ keys done := by
        simp only [keys, List.map_append, List.map_cons, List.nodup_append] at hnodup
        exact fun hmem => hnodup.2.2 _ hmem _ (by simp) rfl
      rw [List.foldl_cons, put_of_notMem pair.2 hnew, ih]
      · simp
      · simpa using hnodup
  exact key [] pairs h

/-! ## Tags -/

/-- Whether a key may be the tag of an object. -/
def isTag (key : String) : Bool := key.toList.head? != some '_'

theorem tag?_cons (key : String) (value : Json) (rest : Members) :
    Members.tag? ((key, value) :: rest) = if isTag key then some key else Members.tag? rest := by
  by_cases h : key.toList.head? = some '_' <;> simp [Members.tag?, isTag, h]

theorem tag?_append (first second : Members) :
    Members.tag? (first ++ second) = (Members.tag? first).or (Members.tag? second) := by
  induction first with
  | nil => simp [Members.tag?]
  | cons pair rest ih =>
    obtain ⟨k, value⟩ := pair
    by_cases h : isTag k = true <;> simp [tag?_cons, h, ih]

/-- The tag is a key that may be one. -/
theorem isTag_of_tag? {members : Members} {tag : String} (h : members.tag? = some tag) :
    isTag tag = true ∧ tag ∈ keys members := by
  induction members with
  | nil => simp [Members.tag?] at h
  | cons pair rest ih =>
    obtain ⟨k, value⟩ := pair
    rw [tag?_cons] at h
    split at h
    · cases h
      exact ⟨by assumption, by simp [keys]⟩
    · exact ⟨(ih h).1, by simpa [keys] using Or.inr (ih h).2⟩

/-- An object has no tag just when none of its keys may be one. -/
theorem tag?_eq_none_iff {members : Members} :
    members.tag? = none ↔ ∀ key ∈ keys members, isTag key = false := by
  induction members with
  | nil => simp [Members.tag?, keys]
  | cons pair rest ih =>
    obtain ⟨k, value⟩ := pair
    by_cases h : isTag k = true <;> simp_all [tag?_cons, keys]

end ContentModel.Members
