import ContentModel.Proofs.Issue.Place
import ContentModel.Proofs.Json.DistinctKeys
import ContentModel.Proofs.Json.Form
import ContentModel.Proofs.Numeric.Value

/-!
# Equality of JSON values

When two values are equal as JSON, and what the comparison with a choice takes for equal.

* `Json.Equal` is equality as JSON: numbers by their value, objects whatever the order of their
  members, booleans to booleans alone;
* `Json.counted` replaces the booleans in a value by the numbers that they count as, and
  `Json.countedWithin` those inside its lists and objects;
* `Json.looselyEquals_iff` and `Json.isChoice_iff` say that the comparison is equality of the
  values with their booleans replaced;
* `Json.Equal.of_countedWithin` says that this is equality where the lists and objects of one of the
  two hold no number or boolean that could be mistaken.
-/

namespace ContentModel.Json

variable {value other : Json} {members others : Members} {items : List Json}

/-! ## Equality as JSON -/

/-- The value of a number. -/
def number? : Json → Option NumericValue
  | .int n => some (.rational n)
  | .float x => x.value?
  | _ => none

/-- Two values are equal as JSON. -/
inductive Equal : Json → Json → Prop
  | null : Equal .null .null
  | bool (b : Bool) : Equal (.bool b) (.bool b)
  | number {value other : Json} {x : NumericValue} (left : value.number? = some x)
      (right : other.number? = some x) : Equal value other
  | str (s : String) : Equal (.str s) (.str s)
  | arr {items others : List Json} (length : items.length = others.length)
      (items_equal : ∀ (i : Nat) (item other : Json), items[i]? = some item →
        others[i]? = some other → Equal item other) : Equal (.arr items) (.arr others)
  | obj {members others : Members} (has : ∀ key, others.has key = members.has key)
      (values_equal : ∀ key value other, members.get? key = some value →
        others.get? key = some other → Equal value other) : Equal (.obj members) (.obj others)

theorem equal_null_iff : Equal .null other ↔ other = .null := by
  constructor
  · rintro (_ | _ | ⟨h, -⟩)
    · rfl
    · cases h
  · rintro rfl
    exact .null

theorem equal_bool_iff {b : Bool} : Equal (.bool b) other ↔ other = .bool b := by
  constructor
  · rintro (_ | _ | ⟨h, -⟩)
    · rfl
    · cases h
  · rintro rfl
    exact .bool b

theorem equal_str_iff {s : String} : Equal (.str s) other ↔ other = .str s := by
  constructor
  · rintro (_ | _ | ⟨h, -⟩)
    · cases h
    · rfl
  · rintro rfl
    exact .str s

theorem equal_int_iff {n : Int} : Equal (.int n) other ↔ other.number? = some (.rational n) := by
  constructor
  · rintro (_ | _ | ⟨h, hother⟩)
    rw [hother, ← h]
    rfl
  · exact .number rfl

theorem equal_float_iff {x : Binary64} :
    Equal (.float x) other ↔ ∃ value, x.value? = some value ∧ other.number? = some value := by
  constructor
  · rintro (_ | _ | ⟨h, hother⟩)
    exact ⟨_, h, hother⟩
  · rintro ⟨_, h, hother⟩
    exact .number h hother

theorem equal_arr_iff : Equal (.arr items) other ↔ ∃ others, other = .arr others ∧
    items.length = others.length ∧ ∀ (i : Nat) (item other : Json), items[i]? = some item →
      others[i]? = some other → Equal item other := by
  constructor
  · rintro (_ | _ | ⟨h, -⟩ | _ | ⟨length, hitems⟩)
    · cases h
    · exact ⟨_, rfl, length, hitems⟩
  · rintro ⟨others, rfl, length, hitems⟩
    exact .arr length hitems

theorem equal_obj_iff : Equal (.obj members) other ↔ ∃ others, other = .obj others ∧
    (∀ key, Members.has others key = members.has key) ∧
      ∀ key value other, members.get? key = some value →
        Members.get? others key = some other → Equal value other := by
  constructor
  · rintro (_ | _ | ⟨h, -⟩ | _ | _ | ⟨has, hvalues⟩)
    · cases h
    · exact ⟨_, rfl, has, hvalues⟩
  · rintro ⟨others, rfl, has, hvalues⟩
    exact .obj has hvalues

/-! ## Booleans as numbers -/

mutual

/-- A value with its booleans replaced by the numbers that they count as. -/
def counted : Json → Json
  | .null => .null
  | .bool b => .int (if b then 1 else 0)
  | .int n => .int n
  | .float x => .float x
  | .str s => .str s
  | .arr items => .arr (countedItems items)
  | .obj members => .obj (countedMembers members)

/-- The items of a list with their booleans replaced. -/
def countedItems : List Json → List Json
  | [] => []
  | item :: rest => counted item :: countedItems rest

/-- The members of an object with the booleans in their values replaced. -/
def countedMembers : List (String × Json) → List (String × Json)
  | [] => []
  | (key, value) :: rest => (key, counted value) :: countedMembers rest

end

/-- A value with the booleans inside its lists and objects replaced by numbers. A boolean itself
stays. -/
def countedWithin : Json → Json
  | .bool b => .bool b
  | value => counted value

theorem getElem?_countedItems (items : List Json) (i : Nat) :
    (countedItems items)[i]? = items[i]?.map counted := by
  induction items generalizing i with
  | nil => rfl
  | cons item rest ih => cases i <;> simp [countedItems, ih]

theorem length_countedItems (items : List Json) : (countedItems items).length = items.length := by
  induction items with
  | nil => rfl
  | cons item rest ih => simp [countedItems, ih]

theorem get?_countedMembers (members : Members) (key : String) :
    Members.get? (countedMembers members) key = (members.get? key).map counted := by
  induction members with
  | nil => rfl
  | cons pair rest ih =>
    obtain ⟨k, value⟩ := pair
    by_cases h : k = key <;> simp [countedMembers, Members.get?, h, ih]

theorem has_countedMembers (members : Members) (key : String) :
    Members.has (countedMembers members) key = members.has key := by
  rw [Members.has, get?_countedMembers, Option.isSome_map, Members.has]

/-- Lists with their booleans replaced are equal item by item. -/
theorem equal_counted_arr_iff : Equal (counted (.arr items)) other ↔ ∃ others, other = .arr others ∧
    items.length = others.length ∧ ∀ (i : Nat) (item other : Json), items[i]? = some item →
      others[i]? = some other → Equal (counted item) other := by
  rw [counted, equal_arr_iff]
  simp only [length_countedItems, getElem?_countedItems, Option.map_eq_some_iff]
  grind

/-- Objects with their booleans replaced are equal key by key. -/
theorem equal_counted_obj_iff :
    Equal (counted (.obj members)) other ↔ ∃ others, other = .obj others ∧
      (∀ key, Members.has others key = members.has key) ∧
        ∀ key value other, members.get? key = some value →
          Members.get? others key = some other → Equal (counted value) other := by
  rw [counted, equal_obj_iff]
  simp only [has_countedMembers, get?_countedMembers, Option.map_eq_some_iff]
  grind

/-- Equal values stay equal when their booleans are replaced. -/
theorem Equal.counted (h : Equal value other) : Equal value.counted other.counted := by
  induction h with
  | null => exact .null
  | bool b => exact .number rfl rfl
  | @number value other x left right =>
    have hsame : ∀ {value : Json}, value.number? = some x → value.counted = value := by
      intro value h
      cases value with
      | bool => cases h
      | arr => cases h
      | obj => cases h
      | _ => rfl
    rw [hsame left, hsame right]
    exact .number left right
  | str s => exact .str s
  | arr length _ ih =>
    refine equal_counted_arr_iff.2 ⟨_, rfl, by rw [length, length_countedItems], ?_⟩
    intro i item other hitem hother
    rw [getElem?_countedItems, Option.map_eq_some_iff] at hother
    obtain ⟨other, hother, rfl⟩ := hother
    exact ih i item other hitem hother
  | obj has _ ih =>
    refine equal_counted_obj_iff.2 ⟨_, rfl, fun key => by rw [has_countedMembers, has], ?_⟩
    intro key value other hvalue hother
    rw [get?_countedMembers, Option.map_eq_some_iff] at hother
    obtain ⟨other, hother, rfl⟩ := hother
    exact ih key value other hvalue hother

/-! ## The comparison with a choice -/

theorem looselyEquals_int_iff {n : Int} :
    looselyEquals (.int n) other = true ↔ other.counted.number? = some (.rational n) := by
  cases other with
  | bool b =>
    simp only [looselyEquals, Json.counted, number?, beq_iff_eq, Option.some.injEq,
      NumericValue.rational.injEq, Int.cast_inj]
    exact eq_comm
  | int m => simp [looselyEquals, Json.counted, number?, eq_comm (a := n)]
  | float x => exact Binary64.equalsInt_iff
  | _ => simp [looselyEquals, Json.counted, number?]

theorem looselyEquals_bool (b : Bool) :
    looselyEquals (.bool b) other = looselyEquals (.int (if b then 1 else 0)) other := by
  cases other with
  | bool b' => cases b <;> cases b' <;> rfl
  | int n => cases b <;> simp [looselyEquals, eq_comm (a := n)]
  | _ => rfl

theorem looselyEquals_float_iff {x : Binary64} : looselyEquals (.float x) other = true ↔
    ∃ value, x.value? = some value ∧ other.counted.number? = some value := by
  cases other with
  | bool b =>
    simp only [looselyEquals, Json.counted, number?, Binary64.equalsInt_iff]
    grind
  | int n =>
    simp only [looselyEquals, Json.counted, number?, Binary64.equalsInt_iff]
    grind
  | float y => exact Binary64.sameValue_iff
  | _ => simp [looselyEquals, Json.counted, number?]

/-- Objects without a key that is there twice are compared key by key. -/
theorem looselyEquals_obj_iff (hmembers : (Members.keys members).Nodup)
    (hothers : (Members.keys others).Nodup) :
    looselyEquals (.obj members) (.obj others) = true ↔
      (∀ key, Members.has others key = members.has key) ∧
        ∀ key value other, members.get? key = some value → others.get? key = some other →
          looselyEquals value other = true := by
  rw [looselyEquals, Bool.and_eq_true, beq_iff_eq, membersEqual_iff_get? hmembers]
  constructor
  · rintro ⟨hlength, hall⟩
    have hsub : Members.keys members ⊆ Members.keys others := by
      intro key hkey
      obtain ⟨value, hvalue⟩ := Option.isSome_iff_exists.1 (Members.has_iff.2 hkey)
      obtain ⟨other, hother, -⟩ := hall key value hvalue
      exact Members.has_iff.1 (Option.isSome_iff_exists.2 ⟨other, hother⟩)
    have hperm : (Members.keys members).Perm (Members.keys others) := by
      refine (List.subperm_of_subset hmembers hsub).perm_of_length_le (le_of_eq ?_)
      rw [Members.keys, Members.keys, List.length_map, List.length_map, hlength]
    refine ⟨fun key => ?_, fun key value other hvalue hother => ?_⟩
    · rw [Bool.eq_iff_iff, Members.has_iff, Members.has_iff, hperm.mem_iff]
    · obtain ⟨found, hfound, hequal⟩ := hall key value hvalue
      rw [hother] at hfound
      cases hfound
      exact hequal
  · rintro ⟨has, hall⟩
    have hperm : (Members.keys members).Perm (Members.keys others) := by
      refine (List.perm_ext_iff_of_nodup hmembers hothers).2 fun key => ?_
      rw [← Members.has_iff, ← Members.has_iff, has]
    refine ⟨by simpa [Members.keys] using hperm.length_eq, fun key value hvalue => ?_⟩
    have hother : Members.has others key = true := by rw [has, Members.has, hvalue]; rfl
    obtain ⟨other, hother⟩ := Option.isSome_iff_exists.1 hother
    exact ⟨other, hother, hall key value other hvalue hother⟩

/-- The comparison takes values for equal that are equal once their booleans are replaced by
numbers. -/
theorem looselyEquals_iff (hvalue : value.KeysDistinct) (hother : other.KeysDistinct) :
    looselyEquals value other = true ↔ Equal value.counted other.counted := by
  induction value using Json.induct generalizing other with
  | null =>
    rw [Json.counted, equal_null_iff]
    cases other <;> simp [looselyEquals, Json.counted]
  | bool b => rw [looselyEquals_bool, looselyEquals_int_iff, Json.counted, equal_int_iff]
  | int n => rw [looselyEquals_int_iff, Json.counted, equal_int_iff]
  | float x => rw [looselyEquals_float_iff, Json.counted, equal_float_iff]
  | str s =>
    rw [Json.counted, equal_str_iff]
    cases other <;> simp [looselyEquals, Json.counted, eq_comm (a := s)]
  | arr items ih =>
    rw [equal_counted_arr_iff]
    cases other with
    | arr others =>
      simp only [looselyEquals, itemsEqual_iff, Json.counted, Json.arr.injEq, exists_eq_left',
        length_countedItems, getElem?_countedItems, Option.map_eq_some_iff]
      refine and_congr_right fun _ => forall₂_congr fun i item => ?_
      constructor
      · rintro h _ hitem ⟨other, hget, rfl⟩
        exact (ih item (List.mem_of_getElem? hitem) (hvalue.item (List.mem_of_getElem? hitem))
          (hother.item (List.mem_of_getElem? hget))).1 (h other hitem hget)
      · intro h other hitem hget
        exact (ih item (List.mem_of_getElem? hitem) (hvalue.item (List.mem_of_getElem? hitem))
          (hother.item (List.mem_of_getElem? hget))).2 (h _ hitem ⟨other, hget, rfl⟩)
    | _ => simp [looselyEquals, Json.counted]
  | obj members ih =>
    rw [equal_counted_obj_iff]
    cases other with
    | obj others =>
      rw [looselyEquals_obj_iff hvalue.nodup hother.nodup]
      simp only [Json.counted, Json.obj.injEq, exists_eq_left', has_countedMembers,
        get?_countedMembers, Option.map_eq_some_iff]
      refine and_congr_right fun _ => forall₂_congr fun key value => ?_
      constructor
      · rintro h _ hget ⟨other, hget', rfl⟩
        exact (ih (key, value) (Members.mem_of_get? hget) (hvalue.member hget)
          (hother.member hget')).1 (h other hget hget')
      · intro h other hget hget'
        exact (ih (key, value) (Members.mem_of_get? hget) (hvalue.member hget)
          (hother.member hget')).2 (h _ hget ⟨other, hget', rfl⟩)
    | _ => simp [looselyEquals, Json.counted]

theorem countedWithin_of_not_isBool (h : value.isBool = false) :
    value.countedWithin = value.counted := by
  cases value with
  | bool b => cases h
  | _ => rfl

theorem eq_bool_of_isBool (h : value.isBool = true) : ∃ b, value = .bool b := by
  cases value with
  | bool b => exact ⟨b, rfl⟩
  | _ => cases h

theorem isBool_counted (value : Json) : value.counted.isBool = false := by
  cases value <;> rfl

theorem Equal.isBool_eq (h : Equal value other) : value.isBool = other.isBool := by
  have hnumber : ∀ {value : Json} {x : NumericValue}, value.number? = some x →
      value.isBool = false := by
    intro value x h
    cases value with
    | bool => cases h
    | _ => rfl
  cases h with
  | number left right => rw [hnumber left, hnumber right]
  | _ => rfl

/-- Replacing the booleans inside tells values with all booleans replaced apart, if one of them is a
boolean and the other is not. -/
theorem equal_countedWithin_iff : Equal value.countedWithin other.countedWithin ↔
    Equal value.counted other.counted ∧ value.isBool = other.isBool := by
  cases hvalue : value.isBool with
  | false =>
    rw [countedWithin_of_not_isBool hvalue]
    cases hother : other.isBool with
    | false => rw [countedWithin_of_not_isBool hother, and_iff_left rfl]
    | true =>
      obtain ⟨b, rfl⟩ := eq_bool_of_isBool hother
      refine iff_of_false (fun h => ?_) (by simp)
      have := h.isBool_eq
      rw [isBool_counted] at this
      cases this
  | true =>
    obtain ⟨b, rfl⟩ := eq_bool_of_isBool hvalue
    rw [countedWithin, equal_bool_iff]
    cases hother : other.isBool with
    | false =>
      rw [countedWithin_of_not_isBool hother]
      refine iff_of_false (fun h => ?_) (by simp)
      have := isBool_counted other
      rw [h] at this
      cases this
    | true =>
      obtain ⟨b', rfl⟩ := eq_bool_of_isBool hother
      rw [and_iff_left rfl, Json.counted, Json.counted, equal_int_iff]
      cases b <;> cases b' <;> simp [countedWithin, number?]

/-- A value is one of the choices when it equals one of them once the booleans inside of lists and
objects are replaced by numbers. -/
theorem isChoice_iff {choices : List Json} (hvalue : value.KeysDistinct)
    (hchoices : ∀ choice ∈ choices, KeysDistinct choice) : value.isChoice choices = true ↔
      ∃ choice ∈ choices, Equal value.countedWithin choice.countedWithin := by
  rw [isChoice, List.any_eq_true]
  refine exists_congr fun choice => and_congr_right fun hmem => ?_
  rw [Bool.and_eq_true, beq_iff_eq, looselyEquals_iff hvalue (hchoices choice hmem),
    equal_countedWithin_iff]

/-! ## Values that cannot be mistaken -/

/-- A boolean, or a number that one counts as. -/
def IsUnit (value : Json) : Prop :=
  ∃ b : Bool, value.counted.number? = some (.rational (if b then 1 else 0))

/-- No boolean, and no number that one counts as, stands inside the lists and objects of a value. -/
def Unmistakable (value : Json) : Prop :=
  ∀ (step : Step) (rest : Location) (part : Json),
    value.at? (step :: rest) = some part → ¬ part.IsUnit

theorem isUnit_bool (b : Bool) : IsUnit (.bool b) := ⟨b, by cases b <;> simp [counted, number?]⟩

theorem not_isBool_of_not_isUnit (h : ¬ value.IsUnit) : value.isBool = false := by
  cases value with
  | bool b => exact absurd (isUnit_bool b) h
  | _ => rfl

theorem IsUnit.of_equal (h : Equal value.counted other.counted) (hbool : value.isBool = true) :
    other.IsUnit := by
  obtain ⟨b, rfl⟩ := eq_bool_of_isBool hbool
  rw [counted, equal_int_iff] at h
  exact ⟨b, by rw [h]; cases b <;> simp⟩

theorem Unmistakable.not_isUnit (h : value.Unmistakable) {step : Step} {part : Json}
    (hpart : value.part? step = some part) : ¬ part.IsUnit :=
  h step [] part (at?_cons hpart [])

theorem Unmistakable.part (h : value.Unmistakable) {step : Step} {part : Json}
    (hpart : value.part? step = some part) : part.Unmistakable := by
  intro next rest below hbelow
  exact h step (next :: rest) below ((at?_cons hpart _).trans hbelow)

/-- Values of which one is no boolean and not mistaken for one stay equal when only the booleans
inside their lists and objects are replaced. -/
theorem Equal.countedWithin_of_not_isUnit (h : Equal value.counted other.counted)
    (hother : ¬ other.IsUnit) : Equal value.countedWithin other.countedWithin := by
  have hvalue : value.isBool = false := Bool.eq_false_iff.2 fun hbool => hother (.of_equal h hbool)
  exact equal_countedWithin_iff.2 ⟨h, hvalue.trans (not_isBool_of_not_isUnit hother).symm⟩

/-- What equals an unmistakable value once the booleans inside are replaced is equal to it. -/
theorem Equal.of_countedWithin (h : Equal value.countedWithin other.countedWithin)
    (hother : other.Unmistakable) : Equal value other := by
  obtain ⟨hcounted, hbool⟩ := equal_countedWithin_iff.1 h
  induction value using Json.induct generalizing other with
  | null =>
    rw [Json.counted, equal_null_iff] at hcounted
    cases other with
    | null => exact .null
    | _ => cases hcounted
  | bool b =>
    obtain ⟨b', rfl⟩ := eq_bool_of_isBool hbool.symm
    exact h
  | int n =>
    rw [Json.counted, equal_int_iff] at hcounted
    cases other with
    | bool => cases hbool
    | arr => cases hcounted
    | obj => cases hcounted
    | _ => exact .number rfl hcounted
  | float x =>
    rw [Json.counted, equal_float_iff] at hcounted
    obtain ⟨found, hx, hfound⟩ := hcounted
    cases other with
    | bool => cases hbool
    | arr => cases hfound
    | obj => cases hfound
    | _ => exact .number hx hfound
  | str s =>
    rw [Json.counted, equal_str_iff] at hcounted
    cases other with
    | str t =>
      cases hcounted
      exact .str s
    | _ => cases hcounted
  | arr items ih =>
    obtain ⟨_, heq, hlength, hitems⟩ := equal_counted_arr_iff.1 hcounted
    cases other with
    | arr others =>
      rw [Json.counted, Json.arr.injEq] at heq
      subst heq
      rw [length_countedItems] at hlength
      refine .arr hlength fun i item other hitem hget => ?_
      have hpart : (Json.arr others).part? (.index i) = some other := hget
      have hequal : Equal item.counted other.counted :=
        hitems i item _ hitem (by rw [getElem?_countedItems, hget]; rfl)
      have hwithin := hequal.countedWithin_of_not_isUnit (hother.not_isUnit hpart)
      exact ih item (List.mem_of_getElem? hitem) hwithin (hother.part hpart)
        (equal_countedWithin_iff.1 hwithin).1 (equal_countedWithin_iff.1 hwithin).2
    | _ => cases heq
  | obj members ih =>
    obtain ⟨_, heq, hhas, hvalues⟩ := equal_counted_obj_iff.1 hcounted
    cases other with
    | obj others =>
      rw [Json.counted, Json.obj.injEq] at heq
      subst heq
      simp only [has_countedMembers] at hhas
      refine .obj hhas fun key value other hvalue hget => ?_
      have hpart : (Json.obj others).part? (.key key) = some other := hget
      have hequal : Equal value.counted other.counted :=
        hvalues key value _ hvalue (by rw [get?_countedMembers, hget]; rfl)
      have hwithin := hequal.countedWithin_of_not_isUnit (hother.not_isUnit hpart)
      exact ih (key, value) (Members.mem_of_get? hvalue) hwithin (hother.part hpart)
        (equal_countedWithin_iff.1 hwithin).1 (equal_countedWithin_iff.1 hwithin).2
    | _ => cases heq

end ContentModel.Json
