import ContentModel.Numeric.Binary64

/-!
# JSON values

The values that entries and content types are made of. Integers and floating-point numbers are
different values, and the members of an object keep their order.

* `Json` is the type, with decidable equality;
* `Members.get?` looks a key up, `Members.put` stores under a key, keeping its position;
* `Json.isTruthy` tells filled values from empty ones, numbers and booleans included.
-/

namespace ContentModel

/-- A JSON value. -/
inductive Json
  | null
  | bool (b : Bool)
  /-- A number without fraction and exponent, of any size. -/
  | int (n : Int)
  /-- A number with a fraction or an exponent. -/
  | float (x : Binary64)
  | str (s : String)
  | arr (items : List Json)
  | obj (members : List (String × Json))
  deriving Inhabited

/-- The members of an object, in order. -/
abbrev Members := List (String × Json)

namespace Json

mutual

/-- Whether two values are the same, the order of members included. -/
def same : Json → Json → Bool
  | .null, .null => true
  | .bool a, .bool b => a == b
  | .int a, .int b => a == b
  | .float a, .float b => decide (a = b)
  | .str a, .str b => a == b
  | .arr a, .arr b => sameItems a b
  | .obj a, .obj b => sameMembers a b
  | _, _ => false

/-- Whether two lists of values are the same. -/
def sameItems : List Json → List Json → Bool
  | [], [] => true
  | a :: as, b :: bs => same a b && sameItems as bs
  | _, _ => false

/-- Whether two lists of members are the same. -/
def sameMembers : List (String × Json) → List (String × Json) → Bool
  | [], [] => true
  | (k, a) :: as, (l, b) :: bs => k == l && (same a b && sameMembers as bs)
  | _, _ => false

end

mutual

theorem eq_of_same : (a b : Json) → same a b = true → a = b
  | .null, b, h => by cases b <;> simp [same] at h ⊢
  | .bool a, b, h => by cases b <;> simp [same] at h ⊢; exact h
  | .int a, b, h => by cases b <;> simp [same] at h ⊢; exact h
  | .float a, b, h => by cases b <;> simp [same] at h ⊢; exact h
  | .str a, b, h => by cases b <;> simp [same] at h ⊢; exact h
  | .arr a, b, h => by
    cases b <;> simp [same] at h ⊢
    exact eq_of_sameItems a _ h
  | .obj a, b, h => by
    cases b <;> simp [same] at h ⊢
    exact eq_of_sameMembers a _ h

theorem eq_of_sameItems : (as bs : List Json) → sameItems as bs = true → as = bs
  | [], bs, h => by cases bs <;> simp [sameItems] at h ⊢
  | a :: as, bs, h => by
    cases bs with
    | nil => simp [sameItems] at h
    | cons b bs =>
      simp only [sameItems, Bool.and_eq_true] at h
      rw [eq_of_same a b h.1, eq_of_sameItems as bs h.2]

theorem eq_of_sameMembers :
    (as bs : List (String × Json)) → sameMembers as bs = true → as = bs
  | [], bs, h => by cases bs <;> simp [sameMembers] at h ⊢
  | (k, a) :: as, bs, h => by
    cases bs with
    | nil => simp [sameMembers] at h
    | cons b bs =>
      obtain ⟨l, b⟩ := b
      simp only [sameMembers, Bool.and_eq_true, beq_iff_eq] at h
      rw [h.1, eq_of_same a b h.2.1, eq_of_sameMembers as bs h.2.2]

end

mutual

theorem same_refl : (a : Json) → same a a = true
  | .null => rfl
  | .bool a => by simp [same]
  | .int a => by simp [same]
  | .float a => by simp [same]
  | .str a => by simp [same]
  | .arr a => by simp [same, sameItems_refl a]
  | .obj a => by simp [same, sameMembers_refl a]

theorem sameItems_refl : (as : List Json) → sameItems as as = true
  | [] => rfl
  | a :: as => by simp [sameItems, same_refl a, sameItems_refl as]

theorem sameMembers_refl : (as : List (String × Json)) → sameMembers as as = true
  | [] => rfl
  | (k, a) :: as => by simp [sameMembers, same_refl a, sameMembers_refl as]

end

theorem same_iff {a b : Json} : same a b = true ↔ a = b :=
  ⟨eq_of_same a b, fun h => h ▸ same_refl a⟩

instance : DecidableEq Json := fun _ _ => decidable_of_iff _ same_iff

/-- Whether a value is neither null, false, zero nor without any content. -/
def isTruthy : Json → Bool
  | .null => false
  | .bool b => b
  | .int n => n != 0
  | .float x => !x.isZero
  | .str s => !s.isEmpty
  | .arr items => !items.isEmpty
  | .obj members => !members.isEmpty

/-- The members of an object; none of any other value. -/
def members : Json → Members
  | .obj members => members
  | _ => []

/-- Whether a value is an object. -/
def isObject : Json → Bool
  | .obj _ => true
  | _ => false

end Json

namespace Members

/-- The value under the first occurrence of a key. -/
def get? : Members → String → Option Json
  | [], _ => none
  | (k, value) :: rest, key => if k = key then some value else get? rest key

/-- Whether a key occurs. -/
def has (members : Members) (key : String) : Bool := (members.get? key).isSome

/-- The members with a value stored under a key: in the place of the value that was there, or
at the end. -/
def put : Members → String → Json → Members
  | [], key, value => [(key, value)]
  | (k, old) :: rest, key, value =>
    if k = key then (k, value) :: rest else (k, old) :: put rest key value

/-- Members stored one after another. -/
def ofPairs (pairs : List (String × Json)) : Members :=
  pairs.foldl (fun members pair => put members pair.1 pair.2) []

@[simp] theorem get?_nil (key : String) : get? [] key = none := rfl

theorem get?_put_self (members : Members) (key : String) (value : Json) :
    (members.put key value).get? key = some value := by
  induction members with
  | nil => simp [put, get?]
  | cons pair rest ih =>
    obtain ⟨k, old⟩ := pair
    by_cases h : k = key <;> simp [put, get?, h, ih]

theorem get?_put_of_ne (members : Members) {key other : String} (value : Json)
    (h : other ≠ key) : (members.put key value).get? other = members.get? other := by
  induction members with
  | nil => simp [put, get?, Ne.symm h]
  | cons pair rest ih =>
    obtain ⟨k, old⟩ := pair
    by_cases hk : k = key
    · subst hk; simp [put, get?, Ne.symm h]
    · simp [put, hk, get?, ih]

theorem mem_of_get? {members : Members} {key : String} {value : Json}
    (h : members.get? key = some value) : (key, value) ∈ members := by
  induction members with
  | nil => simp at h
  | cons pair rest ih =>
    obtain ⟨k, old⟩ := pair
    simp only [get?] at h
    split at h
    · next hk => simp_all
    · simp [ih h]

end Members

/-- The value under a key of an object; none of any other value. -/
def Json.get? (value : Json) (key : String) : Option Json := Members.get? value.members key

end ContentModel
