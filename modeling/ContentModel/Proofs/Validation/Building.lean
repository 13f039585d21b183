import ContentModel.Proofs.Validation.Compiled

/-!
# What happens while checks are built

Building the checks of a content type ignores some attributes, with a warning, and ends with an
error at others. Both are told from the definitions alone.

* `FieldInfo.events`, `Field.events` and `ContentType.events` list what happens, in the order of
  the definitions, for any mode and draft setting;
* `Build.ofEvents` is the outcome under a list of events: the warnings before the first error, and
  this error or a value;
* `Field.checker_eq_ofEvents` and `Validator.build_eq_ofEvents` say that building gives the compiled
  checks under the events of the definitions;
* `Validator.ofJson_ok_or_contentType_iff` says when building ends in no other way than with a
  validator or with the error that a value is no content type.
-/

namespace ContentModel

variable {mode : Mode} {draft : Bool}

/-! ## Events -/

/-- Something that happens while checks are built. -/
inductive BuildEvent
  /-- An attribute is ignored. -/
  | ignored (warning : Warning)
  /-- The building ends. -/
  | refused (error : BuildError)

namespace BuildEvent

/-- The error with which the building ends, if it does. -/
def error? : BuildEvent → Option BuildError
  | ignored _ => none
  | refused error => some error

end BuildEvent

/-- The error of the first event that ends the building. -/
def firstError (events : List BuildEvent) : Option BuildError :=
  events.findSome? BuildEvent.error?

theorem firstError_eq_none_iff {events : List BuildEvent} :
    firstError events = none ↔ ∀ event ∈ events, event.error? = none :=
  List.findSome?_eq_none_iff

theorem mem_of_firstError {events : List BuildEvent} {error : BuildError}
    (h : firstError events = some error) : .refused error ∈ events := by
  obtain ⟨event, hmem, hevent⟩ := List.exists_of_findSome?_eq_some h
  cases event with
  | ignored warning => cases hevent
  | refused error' =>
    cases hevent
    exact hmem

theorem firstError_append_eq_none_iff {first second : List BuildEvent} :
    firstError (first ++ second) = none ↔ firstError first = none ∧ firstError second = none := by
  simp only [firstError_eq_none_iff, List.forall_mem_append]

namespace Build

variable {α β : Type}

/-- What building gives under a list of events: the warnings up to the first error, and this error
or a value. -/
def ofEvents (events : List BuildEvent) (value : α) : Build α :=
  match events with
  | [] => done value
  | .ignored warning :: rest =>
    { ofEvents rest value with warnings := warning :: (ofEvents rest value).warnings }
  | .refused error :: _ => fail error

/-- Steps that follow one another bring their events one after another. -/
theorem bind_ofEvents {first second : List BuildEvent} {value : α} {last : β} {next : α → Build β}
    (h : next value = ofEvents second last) :
    ofEvents first value >>= next = ofEvents (first ++ second) last := by
  induction first with
  | nil => exact h
  | cons event rest ih =>
    cases event with
    | ignored warning =>
      change andThen _ next = _ at ih ⊢
      rw [List.cons_append, ofEvents, ofEvents, ← ih]
      unfold andThen
      cases (ofEvents rest value).result <;> rfl
    | refused error => rfl

theorem map_ofEvents (events : List BuildEvent) (value : α) (f : α → β) :
    (ofEvents events value >>= fun value => pure (f value)) = ofEvents events (f value) := by
  have hbind : (ofEvents events value >>= fun value => pure (f value)) =
      ofEvents (events ++ []) (f value) := bind_ofEvents rfl
  rwa [List.append_nil] at hbind

theorem result_ofEvents (events : List BuildEvent) (value : α) :
    (ofEvents events value).result =
      match firstError events with
      | none => .ok value
      | some error => .error error := by
  induction events with
  | nil => rfl
  | cons event rest ih =>
    cases event with
    | ignored warning => exact ih
    | refused error => rfl

theorem result_ofEvents_eq_error_iff {events : List BuildEvent} {value : α} {error : BuildError} :
    (ofEvents events value).result = .error error ↔ firstError events = some error := by
  rw [result_ofEvents]
  cases firstError events <;> simp

/-- After an error the value is of no account. -/
theorem ofEvents_eq_of_firstError {events : List BuildEvent} {error : BuildError}
    (h : firstError events = some error) (value value' : α) :
    ofEvents events value = ofEvents events value' := by
  induction events with
  | nil => cases h
  | cons event rest ih =>
    cases event with
    | ignored warning => rw [ofEvents, ofEvents, ih h]
    | refused error => rfl

/-- A building under events has any value that is its result whenever there is one. -/
theorem eq_ofEvents {building : Build α} {events : List BuildEvent} {value : α}
    (h : ∃ value', building = ofEvents events value')
    (hresult : ∀ value', building.result = .ok value' → value' = value) :
    building = ofEvents events value := by
  obtain ⟨value', rfl⟩ := h
  cases hfirst : firstError events with
  | none =>
    have hok : (ofEvents events value').result = .ok value' := by rw [result_ofEvents, hfirst]
    rw [hresult value' hok]
  | some error => exact ofEvents_eq_of_firstError hfirst value' value

end Build

/-! ## Events of definitions -/

/-- What happens at a date bound. -/
def boundEvents (field : String) (raw : Option String) : List BuildEvent :=
  match filled? raw with
  | none => []
  | some raw =>
    match Iso.readInstant raw with
    | .instant _ => []
    | .nothing => [.ignored (.bound raw field)]
    | .outOfRange => [.refused .boundOutOfRange]

/-- What happens at the name of the record of a block of a field. -/
def nameEvents (field : String) : List BuildEvent :=
  if hasNull field then [.refused .nullInName] else []

/-- What happens once the fields of a record have been looked at. -/
def limitEvents (fields : List Field) : List BuildEvent :=
  if fields.any fun field => field.isLimitTooLarge then [.refused .limitTooLarge] else []

namespace FieldInfo

/-- What happens at the format of a field. -/
def formatEvents (field : FieldInfo) (raw : String) : List BuildEvent :=
  match Format.compile raw with
  | .ok _ => []
  | .error .invalid => [.ignored (.format raw field.uid)]
  | .error (.refused reason) => [.refused (.format reason)]

/-- What happens at a text field. The format of a rich text or a field with choices is not read. -/
def textEvents (field : FieldInfo) : List BuildEvent :=
  if field.isRichText then []
  else if !field.choiceValues.isEmpty then []
  else
    match filled? field.format with
    | none => []
    | some raw => field.formatEvents raw

/-- What happens at the attributes of a field that is neither group nor blocks. -/
def events (field : FieldInfo) : List BuildEvent :=
  match field.kind with
  | some .text => field.textEvents
  | some .isodate => boundEvents field.uid field.startDate ++ boundEvents field.uid field.endDate
  | _ => []

end FieldInfo

mutual

/-- What happens at a field. -/
def Field.events (depth : Nat) : Field → List BuildEvent
  | ⟨info, fields, blocks⟩ =>
    if ContentTypeError.maxDepth < depth then [.refused (.contentType .tooDeep)]
    else
      match info.kind with
      | some .group => Field.listEvents (depth + 1) fields ++ limitEvents fields
      | some .blocks => BlockOf.listEvents (depth + 1) info.uid blocks
      | _ => info.events

/-- What happens at one field after another. -/
def Field.listEvents (depth : Nat) : List Field → List BuildEvent
  | [] => []
  | field :: rest => Field.events depth field ++ Field.listEvents depth rest

/-- What happens at one variant of a field after another. -/
def BlockOf.listEvents (depth : Nat) (field : String) : List (BlockOf Field) → List BuildEvent
  | [] => []
  | block :: rest => BlockOf.events depth field block ++ BlockOf.listEvents depth field rest

/-- What happens at a variant of a field. One that stands for a shared field is not looked into. -/
def BlockOf.events (depth : Nat) (field : String) : BlockOf Field → List BuildEvent
  | ⟨info, fields⟩ =>
    if info.isReference then []
    else Field.listEvents depth fields ++ (nameEvents field ++ limitEvents fields)

end

/-- What happens at the definitions of a content type. -/
def ContentType.events (contentType : ContentType) : List BuildEvent :=
  Field.listEvents 0 contentType.fields ++ limitEvents contentType.fields

/-! ## Building under events -/

section

variable {α : Type}

theorem checkLimits_eq_ofEvents (fields : List Field) (value : α) :
    (do checkLimits fields; return value) = Build.ofEvents (limitEvents fields) value := by
  unfold checkLimits limitEvents
  split <;> rfl

/-- The name of a record is looked at before the limits in it. -/
theorem checkName_eq_ofEvents (field : String) (fields : List Field) (value : α) :
    (do checkName field; checkLimits fields; return value) =
      Build.ofEvents (nameEvents field ++ limitEvents fields) value := by
  have hname : checkName field = .ofEvents (nameEvents field) () := by
    unfold checkName nameEvents
    split <;> rfl
  rw [hname]
  exact Build.bind_ofEvents (checkLimits_eq_ofEvents fields value)

end

/-- Every bound is read under its events. -/
theorem boundOf_eq_ofEvents (field : String) (raw : Option String) :
    ∃ bound, boundOf field raw = .ofEvents (boundEvents field raw) bound := by
  unfold boundOf boundEvents
  cases filled? raw with
  | none => exact ⟨none, rfl⟩
  | some raw =>
    cases hread : Iso.readInstant raw with
    | nothing => exact ⟨none, by simp [readBound, hread]; rfl⟩
    | instant t => exact ⟨some t, by simp [readBound, hread]; rfl⟩
    | outOfRange => exact ⟨none, by simp [readBound, hread]; rfl⟩

namespace FieldInfo

variable (info : FieldInfo)

theorem formatChecker_eq_ofEvents (raw : String) :
    ∃ checker, info.formatChecker raw = .ofEvents (info.formatEvents raw) checker := by
  unfold formatChecker formatEvents
  cases Format.compile raw with
  | ok format => exact ⟨.pattern format, rfl⟩
  | error error => cases error <;> exact ⟨.text, rfl⟩

theorem textChecker_eq_ofEvents :
    ∃ checker, info.textChecker = .ofEvents info.textEvents checker := by
  unfold textChecker textEvents
  split
  · exact ⟨.text, rfl⟩
  · split
    · exact ⟨.choice info.choiceValues, rfl⟩
    · cases filled? info.format with
      | none => exact ⟨.text, rfl⟩
      | some raw => exact info.formatChecker_eq_ofEvents raw

theorem dateChecker_eq_ofEvents : ∃ checker, info.dateChecker =
    .ofEvents (boundEvents info.uid info.startDate ++ boundEvents info.uid info.endDate)
      checker := by
  unfold dateChecker
  split
  · next hnone =>
    rw [Bool.and_eq_true, Option.isNone_iff_eq_none, Option.isNone_iff_eq_none] at hnone
    exact ⟨.isoDate, by simp [boundEvents, hnone]; rfl⟩
  · next hsome =>
    obtain ⟨first, hfirst⟩ := boundOf_eq_ofEvents info.uid info.startDate
    obtain ⟨last, hlast⟩ := boundOf_eq_ofEvents info.uid info.endDate
    refine ⟨.timestamp first last, ?_⟩
    rw [hfirst, hlast]
    exact Build.bind_ofEvents (Build.map_ofEvents _ last _)

/-- The check of a plain field is built under the events of its attributes. -/
theorem plainChecker_eq_ofEvents (mode : Mode) :
    info.plainChecker mode = .ofEvents info.events (info.compiledPlain mode) := by
  have hchecker : ∃ checker, info.plainChecker mode = .ofEvents info.events checker := by
    unfold plainChecker events
    cases info.kind with
    | none => exact ⟨_, rfl⟩
    | some kind =>
      cases kind with
      | text => exact info.textChecker_eq_ofEvents
      | isodate => exact info.dateChecker_eq_ofEvents
      | _ => exact ⟨_, rfl⟩
  refine Build.eq_ofEvents hchecker fun checker hresult => ?_
  rw [compiledPlain, hresult]

end FieldInfo

/-- What is known of every field of a list is known of the slots of the list. -/
theorem Field.slots_eq_ofEvents {fields : List Field} {depth : Nat}
    (ih : ∀ field ∈ fields, field.checker mode draft depth =
      .ofEvents (field.events depth) (field.compiled mode draft)) (index : Nat) :
    Field.slots mode draft depth index fields =
      .ofEvents (Field.listEvents depth fields) (Field.compiledSlots mode draft index fields) := by
  induction fields generalizing index with
  | nil => rfl
  | cons field rest ihRest =>
    have htail := ihRest (fun child hchild => ih child (List.mem_cons_of_mem _ hchild)) (index + 1)
    rw [Field.slots, Field.listEvents, Field.compiledSlots, ih field List.mem_cons_self]
    refine Build.bind_ofEvents ?_
    rw [htail]
    exact Build.map_ofEvents _ _ _

/-- A record is built from its fields, and then finished. -/
theorem Field.record_eq_ofEvents {α : Type} {fields : List Field} {depth : Nat}
    (ih : ∀ field ∈ fields, field.checker mode draft depth =
      .ofEvents (field.events depth) (field.compiled mode draft))
    {finish : List Slot → Build α} {events : List BuildEvent} {value : α}
    (hfinish : finish (Field.compiledSlots mode draft 0 fields) = .ofEvents events value) :
    (Field.slots mode draft depth 0 fields >>= finish) =
      .ofEvents (Field.listEvents depth fields ++ events) value := by
  rw [Field.slots_eq_ofEvents ih]
  exact Build.bind_ofEvents hfinish

namespace BlockOf

theorem payload_eq_ofEvents {block : BlockDefinition} {depth : Nat}
    (ih : ∀ field ∈ block.fields, field.checker mode draft depth =
      .ofEvents (field.events depth) (field.compiled mode draft)) (uid : String) :
    BlockOf.payload mode draft depth uid block =
      .ofEvents (block.events depth uid) (block.compiledPayload mode draft uid) := by
  obtain ⟨info, fields⟩ := block
  rw [payload, events, compiledPayload]
  split
  · rfl
  · exact Field.record_eq_ofEvents ih (checkName_eq_ofEvents uid fields _)

/-- What is known of the fields of every variant is known of the slots of the variants. -/
theorem slots_eq_ofEvents {blocks : List BlockDefinition} {depth : Nat}
    (ih : ∀ block ∈ blocks, ∀ field ∈ block.fields, field.checker mode draft depth =
      .ofEvents (field.events depth) (field.compiled mode draft)) (uid : String) (index : Nat) :
    BlockOf.slots mode draft depth uid index blocks =
      .ofEvents (listEvents depth uid blocks) (compiledSlots mode draft uid index blocks) := by
  induction blocks generalizing index with
  | nil => rfl
  | cons block rest ihRest =>
    have htail := ihRest (fun child hchild => ih child (List.mem_cons_of_mem _ hchild)) (index + 1)
    rw [slots, listEvents, compiledSlots, payload_eq_ofEvents (ih block List.mem_cons_self)]
    refine Build.bind_ofEvents ?_
    rw [htail]
    exact Build.map_ofEvents _ _ _

end BlockOf

/-- The check of a field is built under the events of its definition. -/
theorem Field.checker_eq_ofEvents (mode : Mode) (draft : Bool) (field : Field) (depth : Nat) :
    field.checker mode draft depth =
      .ofEvents (field.events depth) (field.compiled mode draft) := by
  induction field using Field.induct generalizing depth with
  | node info fields blocks ihFields ihBlocks =>
    rw [checker, events]
    split
    · rfl
    · rw [compiled]
      cases hkind : info.kind with
      | none =>
        rw [info.plainChecker_eq_ofEvents]
        exact Build.map_ofEvents _ _ _
      | some kind =>
        cases kind with
        | group =>
          exact Field.record_eq_ofEvents (fun child hchild => ihFields child hchild (depth + 1))
            (checkLimits_eq_ofEvents fields _)
        | blocks =>
          by_cases hempty : blocks.isEmpty = true
          · rw [List.isEmpty_iff.1 hempty]
            rfl
          · simp only [if_neg hempty]
            rw [BlockOf.slots_eq_ofEvents fun block hblock child hchild =>
              ihBlocks block hblock child hchild (depth + 1)]
            exact Build.map_ofEvents _ _ _
        | _ =>
          rw [info.plainChecker_eq_ofEvents]
          exact Build.map_ofEvents _ _ _

/-- The check of the entries of a content type is built under the events of its definitions. -/
theorem ContentType.checker_eq_ofEvents (mode : Mode) (draft : Bool) (contentType : ContentType) :
    contentType.checker mode draft =
      .ofEvents contentType.events (contentType.compiled mode draft) :=
  Field.record_eq_ofEvents (fun field _ => field.checker_eq_ofEvents mode draft 0)
    (checkLimits_eq_ofEvents contentType.fields _)

/-! ## Where errors come from -/

theorem Field.mem_listEvents {event : BuildEvent} {depth : Nat} {fields : List Field} :
    event ∈ listEvents depth fields ↔ ∃ field ∈ fields, event ∈ field.events depth := by
  induction fields with
  | nil => simp [listEvents]
  | cons field rest ih => simp [listEvents, ih]

theorem BlockOf.mem_listEvents {event : BuildEvent} {depth : Nat} {field : String}
    {blocks : List BlockDefinition} :
    event ∈ listEvents depth field blocks ↔ ∃ block ∈ blocks, event ∈ block.events depth field := by
  induction blocks with
  | nil => simp [listEvents]
  | cons block rest ih => simp [listEvents, ih]

theorem mem_limitEvents {event : BuildEvent} {fields : List Field} :
    event ∈ limitEvents fields ↔
      event = .refused .limitTooLarge ∧ ∃ field ∈ fields, field.isLimitTooLarge = true := by
  unfold limitEvents
  split
  · next hany =>
    rw [List.mem_singleton]
    exact ⟨fun hevent => ⟨hevent, List.any_eq_true.1 hany⟩, fun h => h.1⟩
  · next hnone => exact ⟨nofun, fun h => absurd (List.any_eq_true.2 h.2) hnone⟩

theorem mem_nameEvents {event : BuildEvent} {field : String} :
    event ∈ nameEvents field ↔ event = .refused .nullInName ∧ hasNull field = true := by
  unfold nameEvents
  split
  · next hnull =>
    rw [List.mem_singleton]
    exact ⟨fun hevent => ⟨hevent, hnull⟩, fun h => h.1⟩
  · next hnone => exact ⟨nofun, fun h => absurd h.2 hnone⟩

/-- An attribute of a field ends the building: its format or one of its date bounds, or its
limit. -/
def FieldInfo.EndsBuilding (field : FieldInfo) : Prop :=
  (∃ error, .refused error ∈ field.events) ∨ field.isLimitTooLarge = true

namespace Field

/-- An attribute of a field ends the building, its uid as part of the name of a record, or one of a
field in the definitions nested in it. -/
inductive EndsBuilding : Field → Prop
  | own {field : Field} (h : field.toFieldInfo.EndsBuilding) : EndsBuilding field
  | name {field : Field} {block : BlockDefinition} (hblock : block ∈ field.blocks)
      (hinline : block.isReference = false) (h : hasNull field.uid = true) : EndsBuilding field
  | member {field child : Field} (hmem : child ∈ field.fields) (h : EndsBuilding child) :
      EndsBuilding field
  | payload {field child : Field} {block : BlockDefinition} (hblock : block ∈ field.blocks)
      (hmem : child ∈ block.fields) (h : EndsBuilding child) : EndsBuilding field

/-- An error in a record is one of its fields, or a field of it has too large a limit. -/
theorem exists_endsBuilding {fields : List Field} {depth : Nat} {error : BuildError}
    (ih : ∀ field ∈ fields, .refused error ∈ field.events depth → field.EndsBuilding)
    (h : .refused error ∈ listEvents depth fields ∨ .refused error ∈ limitEvents fields) :
    ∃ field ∈ fields, field.EndsBuilding := by
  rcases h with h | h
  · obtain ⟨field, hfield, hevent⟩ := mem_listEvents.1 h
    exact ⟨field, hfield, ih field hfield hevent⟩
  · obtain ⟨-, field, hfield, hlimit⟩ := mem_limitEvents.1 h
    exact ⟨field, hfield, .own (Or.inr hlimit)⟩

/-- Apart from the depth, only an attribute or the uid of a field ends the building. -/
theorem endsBuilding_of_mem_events {field : Field} {depth : Nat} {error : BuildError}
    (herror : ∀ cause, error ≠ .contentType cause) (h : .refused error ∈ field.events depth) :
    field.EndsBuilding := by
  induction field using Field.induct generalizing depth with
  | node info fields blocks ihFields ihBlocks =>
    rw [events] at h
    split at h
    · exact absurd (BuildEvent.refused.inj (List.mem_singleton.1 h)) (herror _)
    · split at h
      · obtain ⟨child, hchild, hends⟩ :=
          exists_endsBuilding (fun child hchild => ihFields child hchild) (List.mem_append.1 h)
        exact .member hchild hends
      · obtain ⟨block, hblock, hevent⟩ := BlockOf.mem_listEvents.1 h
        obtain ⟨blockInfo, blockFields⟩ := block
        rw [BlockOf.events] at hevent
        split at hevent
        · cases hevent
        · next hinline =>
          rw [List.mem_append, List.mem_append, or_left_comm] at hevent
          rcases hevent with hname | hevent
          · exact .name hblock (Bool.eq_false_iff.2 hinline) (mem_nameEvents.1 hname).2
          · obtain ⟨child, hchild, hends⟩ :=
              exists_endsBuilding (fun child hchild => ihBlocks _ hblock child hchild) hevent
            exact .payload hblock hchild hends
      · exact .own (Or.inl ⟨error, h⟩)

end Field

/-! ## Validators -/

namespace ContentType

/-- Building the checks of a content type ends with an error that is not one of content types: the
first error met in the order of the definitions is that of a date bound, a format, a name or a
limit. -/
def Breaks (contentType : ContentType) : Prop :=
  ∃ error, firstError contentType.events = some error ∧ ∀ cause, error ≠ .contentType cause

/-- A content type that breaks the building has a field, at some level, with an attribute or a uid
that ends it. -/
theorem exists_endsBuilding {contentType : ContentType} (h : contentType.Breaks) :
    ∃ field ∈ contentType.fields, field.EndsBuilding := by
  obtain ⟨error, hfirst, herror⟩ := h
  exact Field.exists_endsBuilding
    (fun field _ hfield => Field.endsBuilding_of_mem_events herror hfield)
    (List.mem_append.1 (mem_of_firstError hfirst))

end ContentType

namespace Validator

/-- The validator of a content type is built under the events of its definitions. -/
theorem build_eq_ofEvents (contentType : ContentType) (mode : Mode) (draft : Bool) :
    build contentType mode draft =
      .ofEvents contentType.events (compiled contentType mode draft) := by
  rw [build, contentType.checker_eq_ofEvents]
  exact Build.map_ofEvents _ _ _

end Validator

end ContentModel
