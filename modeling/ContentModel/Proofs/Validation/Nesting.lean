import Mathlib.Data.List.Chain
import ContentModel.Proofs.Validation.Building

/-!
# The nesting limit

How deep the fields of a content type may be nested.

* `Field.Holds` says that a field stands directly below another, `Field.HasChain` and
  `ContentType.HasChain` that so many fields stand below one another;
* `Field.contentType_mem_events_iff_exists` goes one level down, `Field.contentType_mem_events_iff`
  all levels: a field is found too deep exactly when as many fields lead down to it as there are
  levels, and one more;
* `Validator.build_tooDeep_iff` is the main statement, `Validator.build_tooDeep_iff_of_sound` what
  it comes to where no attribute and no uid of a field ends the building.
-/

namespace ContentModel

open ContentTypeError (maxDepth)

/-! ## Chains of fields -/

namespace Field

/-- A field stands directly below another: among the fields of a group, or among those of a block
with fields of its own. -/
inductive Holds : Field → Field → Prop
  | group {field child : Field} (kind : field.kind = some .group) (mem : child ∈ field.fields) :
      Holds field child
  | block {field child : Field} {block : BlockDefinition} (kind : field.kind = some .blocks)
      (block_mem : block ∈ field.blocks) (inline : block.isReference = false)
      (mem : child ∈ block.fields) : Holds field child

/-- From a field a chain of at least so many fields leads down, itself the first, each other
directly below the one before. -/
def HasChain (n : Nat) (field : Field) : Prop :=
  ∃ below : List Field, (field :: below).IsChain Holds ∧ n ≤ (field :: below).length

theorem hasChain_of_le_one {n : Nat} (hn : n ≤ 1) (field : Field) : field.HasChain n :=
  ⟨[], List.isChain_singleton field, hn⟩

/-- A chain of two fields or more goes on from a field directly below the first. -/
theorem hasChain_succ_iff {n : Nat} (hn : 0 < n) {field : Field} :
    field.HasChain (n + 1) ↔ ∃ child, field.Holds child ∧ child.HasChain n := by
  constructor
  · rintro ⟨below, hchain, hlength⟩
    cases below with
    | nil => exact absurd (Nat.le_of_succ_le_succ hlength) (Nat.not_le.2 hn)
    | cons child rest =>
      obtain ⟨hholds, hrest⟩ := List.isChain_cons_cons.1 hchain
      exact ⟨child, hholds, rest, hrest, Nat.le_of_succ_le_succ hlength⟩
  · rintro ⟨child, hholds, rest, hrest, hlength⟩
    exact ⟨child :: rest, List.isChain_cons_cons.2 ⟨hholds, hrest⟩, Nat.succ_le_succ hlength⟩

end Field

/-- From the top level of a content type a chain of at least so many fields leads down. -/
def ContentType.HasChain (n : Nat) (contentType : ContentType) : Prop :=
  ∃ field ∈ contentType.fields, field.HasChain n

/-! ## Where a content type is found wrong -/

variable {cause : ContentTypeError}

theorem contentType_notMem_boundEvents (field : String) (raw : Option String) :
    .refused (.contentType cause) ∉ boundEvents field raw := by
  unfold boundEvents
  split
  · exact List.not_mem_nil
  · split <;> simp

namespace FieldInfo

theorem contentType_notMem_formatEvents (info : FieldInfo) (raw : String) :
    .refused (.contentType cause) ∉ info.formatEvents raw := by
  unfold formatEvents
  split <;> simp

theorem contentType_notMem_textEvents (info : FieldInfo) :
    .refused (.contentType cause) ∉ info.textEvents := by
  unfold textEvents
  split
  · exact List.not_mem_nil
  · split
    · exact List.not_mem_nil
    · split
      · exact List.not_mem_nil
      · exact info.contentType_notMem_formatEvents _

/-- The attributes of a field do not make a content type wrong. -/
theorem contentType_notMem_events (info : FieldInfo) :
    .refused (.contentType cause) ∉ info.events := by
  unfold events
  split
  · exact info.contentType_notMem_textEvents
  · rw [List.mem_append, not_or]
    exact ⟨contentType_notMem_boundEvents _ _, contentType_notMem_boundEvents _ _⟩
  · exact List.not_mem_nil

end FieldInfo

namespace Field

theorem contentType_notMem_limitEvents (fields : List Field) :
    .refused (.contentType cause) ∉ limitEvents fields := fun h => by
  cases (mem_limitEvents.1 h).1

theorem contentType_notMem_nameEvents (field : String) (fields : List Field) :
    .refused (.contentType cause) ∉ nameEvents field ++ limitEvents fields := by
  rw [List.mem_append, not_or]
  refine ⟨fun h => ?_, contentType_notMem_limitEvents fields⟩
  cases (mem_nameEvents.1 h).1

/-- A record is found wrong where one of its fields is, whatever does not find it wrong after
them. -/
theorem contentType_mem_record_iff {depth : Nat} {fields : List Field} {events : List BuildEvent}
    (hevents : .refused (.contentType cause) ∉ events) :
    .refused (.contentType cause) ∈ listEvents depth fields ++ events ↔
      ∃ field ∈ fields, .refused (.contentType cause) ∈ field.events depth := by
  rw [List.mem_append, mem_listEvents, or_iff_left hevents]

/-- Below the levels a field is too deep. -/
theorem contentType_mem_events_of_lt {field : Field} {depth : Nat} (h : maxDepth < depth) :
    .refused (.contentType cause) ∈ field.events depth ↔ cause = .tooDeep := by
  obtain ⟨info, fields, blocks⟩ := field
  rw [events, if_pos h]
  simp

/-- Within the levels a field is found wrong where one directly below it is. -/
theorem contentType_mem_events_iff_exists {field : Field} {depth : Nat} (h : depth ≤ maxDepth) :
    .refused (.contentType cause) ∈ field.events depth ↔
      ∃ child, field.Holds child ∧ .refused (.contentType cause) ∈ child.events (depth + 1) := by
  obtain ⟨info, fields, blocks⟩ := field
  rw [events, if_neg (Nat.not_lt.2 h)]
  constructor
  · intro hevent
    split at hevent
    · next hkind =>
      obtain ⟨child, hchild, hdeeper⟩ :=
        (contentType_mem_record_iff (contentType_notMem_limitEvents _)).1 hevent
      exact ⟨child, .group hkind hchild, hdeeper⟩
    · next hkind =>
      obtain ⟨⟨blockInfo, blockFields⟩, hblock, hdeeper⟩ := BlockOf.mem_listEvents.1 hevent
      rw [BlockOf.events] at hdeeper
      split at hdeeper
      · cases hdeeper
      · next hinline =>
        obtain ⟨child, hchild, hdeeper⟩ :=
          (contentType_mem_record_iff (contentType_notMem_nameEvents _ _)).1 hdeeper
        exact ⟨child, .block hkind hblock (Bool.eq_false_iff.2 hinline) hchild, hdeeper⟩
    · exact absurd hevent info.contentType_notMem_events
  · rintro ⟨child, hholds, hdeeper⟩
    cases hholds with
    | group hkind hchild =>
      rw [show info.kind = _ from hkind]
      exact (contentType_mem_record_iff (contentType_notMem_limitEvents _)).2
        ⟨child, hchild, hdeeper⟩
    | @block block hkind hblock hinline hchild =>
      obtain ⟨blockInfo, blockFields⟩ := block
      rw [show info.kind = _ from hkind]
      refine BlockOf.mem_listEvents.2 ⟨_, hblock, ?_⟩
      rw [BlockOf.events, if_neg (Bool.eq_false_iff.1 hinline)]
      exact (contentType_mem_record_iff (contentType_notMem_nameEvents _ _)).2
        ⟨child, hchild, hdeeper⟩

/-- A content type is found wrong at a field at a level, or below it, exactly when the chain from
there down leaves the levels; it is found to be nested too deep. -/
theorem contentType_mem_events_iff (field : Field) (depth : Nat) :
    .refused (.contentType cause) ∈ field.events depth ↔
      cause = .tooDeep ∧ field.HasChain (maxDepth + 2 - depth) := by
  -- the induction is on the levels left, not on the field: it takes one step down the chain
  induction hlevels : maxDepth + 1 - depth generalizing field depth with
  | zero =>
    rw [contentType_mem_events_of_lt (by omega)]
    exact ⟨fun hcause => ⟨hcause, hasChain_of_le_one (by omega) field⟩, fun h => h.1⟩
  | succ n ih =>
    have hleft : maxDepth + 2 - depth = (maxDepth + 2 - (depth + 1)) + 1 := by omega
    rw [contentType_mem_events_iff_exists (by omega), hleft, hasChain_succ_iff (by omega)]
    simp only [ih _ (depth + 1) (by omega)]
    exact ⟨fun ⟨child, hholds, hcause, hchain⟩ => ⟨hcause, child, hholds, hchain⟩,
      fun ⟨hcause, child, hholds, hchain⟩ => ⟨child, hholds, hcause, hchain⟩⟩

end Field

namespace ContentType

theorem contentType_mem_events_iff (contentType : ContentType) :
    .refused (.contentType cause) ∈ contentType.events ↔
      cause = .tooDeep ∧ contentType.HasChain (maxDepth + 2) := by
  rw [events, Field.contentType_mem_record_iff (Field.contentType_notMem_limitEvents _)]
  simp only [Field.contentType_mem_events_iff, Nat.sub_zero, HasChain]
  exact ⟨fun ⟨field, hfield, hcause, hchain⟩ => ⟨hcause, field, hfield, hchain⟩,
    fun ⟨hcause, field, hfield, hchain⟩ => ⟨field, hfield, hcause, hchain⟩⟩

end ContentType

/-! ## The nesting limit -/

namespace ContentType

/-- The first error is that of the depth exactly when there is one and nothing else comes first. -/
theorem firstError_eq_tooDeep_iff (contentType : ContentType) :
    firstError contentType.events = some (.contentType .tooDeep) ↔
      contentType.HasChain (maxDepth + 2) ∧ ¬ contentType.Breaks := by
  constructor
  · intro hfirst
    refine ⟨(contentType.contentType_mem_events_iff.1 (mem_of_firstError hfirst)).2, ?_⟩
    rintro ⟨error, herror, hother⟩
    exact hother .tooDeep (Option.some.inj (herror.symm.trans hfirst))
  · rintro ⟨hchain, hunbroken⟩
    have hmem := contentType.contentType_mem_events_iff.2 ⟨rfl, hchain⟩
    cases hfirst : firstError contentType.events with
    | none => cases firstError_eq_none_iff.1 hfirst _ hmem
    | some error =>
      cases error with
      | contentType cause =>
        rw [(contentType.contentType_mem_events_iff.1 (mem_of_firstError hfirst)).1]
      | _ => exact absurd ⟨_, hfirst, nofun⟩ hunbroken

end ContentType

namespace Validator

/-- Where no attribute and no uid of a field ends the building, it ends with the error that fields are
nested too deep exactly when there is a chain of 66 fields. -/
theorem build_tooDeep_iff_of_sound {contentType : ContentType}
    (h : ∀ field ∈ contentType.fields, ¬ field.EndsBuilding) (mode : Mode) (draft : Bool) :
    (build contentType mode draft).result = .error (.contentType .tooDeep) ↔
      contentType.HasChain 66 := by
  have hunbroken : ¬ contentType.Breaks := fun hbreaks => by
    obtain ⟨field, hfield, hends⟩ := ContentType.exists_endsBuilding hbreaks
    exact h field hfield hends
  rw [build_eq_ofEvents, Build.result_ofEvents_eq_error_iff]
  exact contentType.firstError_eq_tooDeep_iff.trans (and_iff_left hunbroken)

end Validator

end ContentModel
