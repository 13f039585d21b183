import ContentModel.Schema.Basic
import ContentModel.Validation.Build
import ContentModel.Validation.Values

/-!
# Checks of fields

The checks that the fields of a content type stand for.

* `FieldInfo.plainChecker` is the check of a field without nested definitions;
* `Field.checker` is the check of a field on values of it, by recursion on the schema;
* `Field.slot` is the member that a field declares in a record;
* `recordName` is how records are named in messages.

With `draft` on, mandatory fields may be absent. A field deeper than the greatest depth is an
error, and so are a name with a null character for the record of a block and a limit on the
instances of a group that cannot be counted to; these two show once all fields of the record have
been looked at, the name first.
-/

namespace ContentModel

/-! ## Names -/

/-- A character as it stands in the name of a record. -/
def nameChar (c : Char) : Char := if Text.isAsciiWord c then c else '_'

/-- The name of the record of a definition. -/
def recordName (sort : String) (uid : Option String) : String :=
  sort ++ ("_" ++ String.ofList (((filled? uid).getD "anonymous").toList.map nameChar))

/-! ## Fields without nested definitions -/

/-- The instant that a date bound names. -/
def readBound (field raw : String) : Build (Option Instant) :=
  match Iso.readInstant raw with
  | .instant t => .done (some t)
  | .nothing => .warned (.bound raw field) none
  | .outOfRange => .fail .boundOutOfRange

/-- The instant that a date bound names, if it is given. -/
def boundOf (field : String) (raw : Option String) : Build (Option Instant) :=
  match filled? raw with
  | some raw => readBound field raw
  | none => .done none

namespace FieldInfo

/-- The check on a text in the format of a field. -/
def formatChecker (field : FieldInfo) (raw : String) : Build Checker :=
  match Format.compile raw with
  | .ok format => .done (.pattern format)
  | .error .invalid => .warned (.format raw field.uid) .text
  | .error (.refused reason) => .fail (.format reason)

/-- The check of a text field. -/
def textChecker (field : FieldInfo) : Build Checker :=
  if field.isRichText then .done .text
  else if !field.choiceValues.isEmpty then .done (.choice field.choiceValues)
  else
    match filled? field.format with
    | some raw => field.formatChecker raw
    | none => .done .text

/-- The check of a date field. -/
def dateChecker (field : FieldInfo) : Build Checker :=
  if (filled? field.startDate).isNone && (filled? field.endDate).isNone then .done .isoDate
  else do
    let first ← boundOf field.uid field.startDate
    let last ← boundOf field.uid field.endDate
    return .timestamp first last

/-- The check of a file field. -/
def fileChecker (mode : Mode) : Checker :=
  match mode with
  | .read => ValueShape.asset
  | .upsert => .filledText

/-- The check of a single value of a field that is neither group nor blocks. -/
def plainChecker (mode : Mode) (field : FieldInfo) : Build Checker :=
  match field.kind with
  | some .text => field.textChecker
  | some .number => .done .number
  | some .boolean => .done .boolean
  | some .isodate => field.dateChecker
  | some .file => .done (fileChecker mode)
  | some .link => .done ValueShape.link
  | some .reference => .done ValueShape.reference
  | some .globalField => .done ValueShape.reference
  | some .taxonomy => .done (.list none ValueShape.taxonomyTerm)
  | some .json => .done (if field.isJsonRte then RichTextShape.document else .any)
  | some .group => .done .any
  | some .blocks => .done .any
  | none => .done .any

/-- Whether the values of a field are lists of what its kind says. Groups, blocks and
taxonomies make lists of their own. -/
def isListed (field : FieldInfo) : Bool :=
  field.multiple && !(field.isGroup || field.isBlocks || field.kind == some .taxonomy)

/-- The greatest number of instances of a repeatable group, if there is one. -/
def instanceLimit (field : FieldInfo) : Option Nat :=
  match field.maxInstance with
  | some n => if 0 < n then some n.toNat else none
  | none => none

/-- Whether the number of instances of a field is limited to a number beyond 64 bits. -/
def isLimitTooLarge (field : FieldInfo) : Bool :=
  field.isRepeatableGroup
    && match field.instanceLimit with
      | some n => Nat.pow 2 64 ≤ n
      | none => false

/-- The check of a group whose instances have the given slots. -/
def groupChecker (field : FieldInfo) (slots : List Slot) : Checker :=
  let one := Checker.record { name := recordName "Group" (some field.uid) } slots
  if field.multiple then .list field.instanceLimit one else one

/-- The slot of a field with a check on its values: a field that is not mandatory may be absent
or null, in a draft any field may be absent. -/
def slotWith (field : FieldInfo) (draft : Bool) (index : Nat) (checker : Checker) : Slot where
  key := field.uid
  handle := "f" ++ Digits.intText index
  required := field.mandatory && !draft
  checker := if field.mandatory then checker else checker.nullable

end FieldInfo

/-- The slot for the metadata of an instance or block. -/
def metadataSlot : Slot where
  key := "_metadata"
  handle := "item_metadata"
  checker := ValueShape.itemMetadata.nullable

/-- The slot for the metadata, unless a field has its key. -/
def metadataSlots (fields : List Field) : List Slot :=
  if fields.any fun field => field.uid == "_metadata" then [] else [metadataSlot]

/-- The check of the items of a blocks field whose variants have the given slots. -/
def blockItemChecker (uid : String) (slots : List Slot) : Checker :=
  .record { name := recordName "Blocks" (some uid), isTagged := true } slots

/-- Refuses the fields of a record if the instances of one cannot be counted against its limit. -/
def checkLimits (fields : List Field) : Build Unit :=
  if fields.any fun field => field.isLimitTooLarge then .fail .limitTooLarge else .done ()

/-- The slot of a variant with a check on its payload. -/
def variantSlot (uid : String) (index : Nat) (checker : Checker) : Slot where
  key := uid
  handle := "v" ++ Digits.intText index
  checker := checker

/-- Whether a text has a null character. -/
def hasNull (text : String) : Bool := text.toList.contains '\x00'

/-- Refuses the uid of a field with blocks as part of the name of a record, in which it stands as it
is, if it has a null character. -/
def checkName (field : String) : Build Unit :=
  if hasNull field then .fail .nullInName else .done ()

/-- The check of the payload of a block with fields of its own. -/
def payloadChecker (field block : String) (slots : List Slot) : Checker :=
  .record { name := recordName ("Block_" ++ field) (some block) } slots

/-! ## Fields -/

mutual

/-- The check of a field on one value of it, or on the list of its values. -/
def Field.checker (mode : Mode) (draft : Bool) (depth : Nat) : Field → Build Checker
  | ⟨info, fields, blocks⟩ =>
    if ContentTypeError.maxDepth < depth then .fail (.contentType .tooDeep)
    else
      match info.kind with
      | some .group => do
        let slots ← Field.slots mode draft (depth + 1) 0 fields
        checkLimits fields
        return info.groupChecker (slots ++ if info.multiple then metadataSlots fields else [])
      | some .blocks =>
        if blocks.isEmpty then .done (.list none .any)
        else do
          let slots ← BlockOf.slots mode draft (depth + 1) info.uid 0 blocks
          return .list none (blockItemChecker info.uid slots)
      | _ => do
        let checker ← info.plainChecker mode
        return if info.isListed then .list none checker else checker

/-- The slots of the fields of a record, from an index on. -/
def Field.slots (mode : Mode) (draft : Bool) (depth : Nat) :
    (index : Nat) → List Field → Build (List Slot)
  | _, [] => .done []
  | index, field :: rest => do
    let checker ← Field.checker mode draft depth field
    let others ← Field.slots mode draft depth (index + 1) rest
    return field.slotWith draft index checker :: others

/-- The slots of the variants of a blocks field, from an index on. -/
def BlockOf.slots (mode : Mode) (draft : Bool) (depth : Nat) (field : String) :
    (index : Nat) → List (BlockOf Field) → Build (List Slot)
  | _, [] => .done []
  | index, block :: rest => do
    let checker ← BlockOf.payload mode draft depth field block
    let others ← BlockOf.slots mode draft depth field (index + 1) rest
    return variantSlot block.uid index checker :: others

/-- The check of the payload of a variant. -/
def BlockOf.payload (mode : Mode) (draft : Bool) (depth : Nat) (field : String) :
    BlockOf Field → Build Checker
  | ⟨info, fields⟩ =>
    if info.isReference then .done ValueShape.reference
    else do
      let slots ← Field.slots mode draft depth 0 fields
      checkName field
      checkLimits fields
      return payloadChecker field info.uid (slots ++ metadataSlots fields)

end

/-- The member that a field declares in a record. -/
def Field.slot (mode : Mode) (draft : Bool) (field : Field) : Build Slot := do
  let checker ← field.checker mode draft 0
  return field.slotWith draft 0 checker

/-- The check of a record with one field. -/
def Field.recordChecker (mode : Mode) (draft : Bool) (name : String) (field : Field) :
    Build Checker := do
  let slot ← Field.slot mode draft field
  checkLimits [field]
  return .record { name, isOpen := false } [slot]

/-- The check of the entries of a content type. -/
def ContentType.checker (mode : Mode) (draft : Bool) (contentType : ContentType) :
    Build Checker := do
  let slots ← Field.slots mode draft 0 0 contentType.fields
  checkLimits contentType.fields
  return .record { name := recordName "Entry" contentType.uid, isOpen := false } slots

end ContentModel
