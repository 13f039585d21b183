import ContentModel.Issue.Location
import ContentModel.Schema.Basic

/-!
# Layouts

The order in which the parts of a value are declared.

* `Layout` gives the keys that are declared at each place of a value, in order;
* `Location.Before` compares two locations by a layout: indexes by number, keys by their positions
  among the declared keys. It is a strict order in which no location is followed by its own
  extensions;
* `Field.layout` and `ContentType.layout` are the layouts of the values of fields and of entries.
-/

namespace ContentModel

/-- The keys that are declared at each place of a value, in order. -/
abbrev Layout := Location → List String

namespace Layout

/-- What is declared below a step. -/
def below (layout : Layout) (step : Step) : Layout := fun location => layout (step :: location)

/-- A value without declared parts. -/
def bare : Layout := fun _ => []

/-- A list of values. -/
def list (item : Layout) : Layout
  | .index _ :: rest => item rest
  | _ => []

/-- An object with declared members. -/
def record (members : List (String × Layout)) : Layout
  | [] => members.map fun member => member.1
  | .key key :: rest => (members.lookup key).getD bare rest
  | _ => []

@[simp] theorem list_below (item : Layout) (n : Int) : (list item).below (.index n) = item := rfl

@[simp] theorem record_nil (members : List (String × Layout)) :
    record members [] = members.map fun member => member.1 := rfl

theorem record_below {members : List (String × Layout)} {key : String} {layout : Layout}
    (hnodup : (members.map fun member => member.1).Nodup) (h : (key, layout) ∈ members) :
    (record members).below (.key key) = layout := by
  have hlookup : members.lookup key = some layout := by
    induction members with
    | nil => cases h
    | cons member rest ih =>
      obtain ⟨hnotMem, hrest⟩ := List.nodup_cons.1 hnodup
      rcases List.mem_cons.1 h with rfl | hmem
      · exact List.lookup_cons_self
      · have hne : key ≠ member.1 := by
          rintro rfl
          exact hnotMem (List.mem_map.2 ⟨_, hmem, rfl⟩)
        rw [List.lookup_cons, beq_eq_false_iff_ne.2 hne]
        exact ih hrest hmem
  funext location
  rw [below, record, hlookup, Option.getD_some]

/-! ## Structured values -/

/-- An object whose members have no declared parts. -/
def flat (keys : List String) : Layout := record (keys.map fun key => (key, bare))

/-- An asset. -/
def asset : Layout := flat ["uid", "url"]

/-- A reference. The content type may be given under either of two keys. -/
def reference : Layout := flat ["uid", "_content_type_uid", "content_type_uid"]

/-- A link. -/
def link : Layout := flat ["title", "href"]

/-- A chosen term of a taxonomy. -/
def taxonomyTerm : Layout := flat ["taxonomy_uid", "term_uid"]

/-- The metadata of a group instance or block. -/
def itemMetadata : Layout := flat ["uid"]

/-- A node of a rich text: nodes are declared in the list of its children. -/
def node : Layout
  | [] => ["type", "text", "children", "attrs", "uid", "bold", "italic", "underline",
      "strikethrough", "code", "superscript", "subscript"]
  | .key key :: .index _ :: rest => if key = "children" then node rest else []
  | _ => []

/-- A rich text. -/
def document : Layout :=
  record [("type", bare), ("uid", bare), ("attrs", bare), ("children", list node)]

theorem node_below : node.below (.key "children") = list node := by
  funext location
  cases location with
  | nil => rfl
  | cons step rest => cases step <;> rfl

end Layout

/-! ## Locations in order -/

/-- A step leads to a part before that of another step: to an item with a smaller index, or to the
member under a key that is declared earlier. -/
inductive Step.Before (keys : List String) : Step → Step → Prop
  | index {i j : Int} (lt : i < j) : Step.Before keys (.index i) (.index j)
  | key {first second : String} (mem : second ∈ keys)
      (lt : keys.idxOf first < keys.idxOf second) : Step.Before keys (.key first) (.key second)

namespace Step.Before

variable {keys : List String} {step other third : Step}

theorem ne (h : step.Before keys other) : step ≠ other := by
  rintro rfl
  cases h with
  | index hlt => exact Int.lt_irrefl _ hlt
  | key _ hlt => exact Nat.lt_irrefl _ hlt

theorem trans (h : step.Before keys other) (hthird : other.Before keys third) :
    step.Before keys third := by
  cases h with
  | index hlt =>
    cases hthird with
    | index hlt' => exact .index (Int.lt_trans hlt hlt')
  | key _ hlt =>
    cases hthird with
    | key hmem hlt' => exact .key hmem (Nat.lt_trans hlt hlt')

theorem pairwise_keys (hnodup : keys.Nodup) :
    keys.Pairwise fun first second => (Step.key first).Before keys (.key second) := by
  rw [List.pairwise_iff_getElem]
  intro i j hi hj hij
  refine .key (List.getElem_mem hj) ?_
  rwa [hnodup.idxOf_getElem, hnodup.idxOf_getElem]

end Step.Before

/-- A location comes before another: after a common front, it takes a step to an earlier part. -/
inductive Location.Before : Layout → Location → Location → Prop
  | head {layout : Layout} {step other : Step} {rest more : Location}
      (step_before : step.Before (layout []) other) :
      Location.Before layout (step :: rest) (other :: more)
  | tail {layout : Layout} {step : Step} {rest more : Location}
      (rest_before : Location.Before (layout.below step) rest more) :
      Location.Before layout (step :: rest) (step :: more)

namespace Location.Before

variable {layout : Layout} {location other third : Location}

theorem trans (h : location.Before layout other) (hthird : other.Before layout third) :
    location.Before layout third := by
  induction h generalizing third with
  | head hstep =>
    cases hthird with
    | head hnext => exact .head (hstep.trans hnext)
    | tail => exact .head hstep
  | tail hrest ih =>
    cases hthird with
    | head hnext => exact .head hnext
    | tail hmore => exact .tail (ih hmore)

/-- Of two locations in order neither leads on from the other. -/
theorem not_isPrefix (h : location.Before layout other) :
    ¬ location <+: other ∧ ¬ other <+: location := by
  induction h with
  | head hstep =>
    simp only [List.cons_prefix_cons, not_and]
    exact ⟨fun heq => absurd heq hstep.ne, fun heq => absurd heq.symm hstep.ne⟩
  | tail hrest ih =>
    simp only [List.cons_prefix_cons, not_and]
    exact ⟨fun _ => ih.1, fun _ => ih.2⟩

theorem ne (h : location.Before layout other) : location ≠ other := by
  rintro rfl
  exact h.not_isPrefix.1 List.prefix_rfl

end Location.Before

/-! ## The layouts of a schema -/

/-- The layout of a single value of a field without nested definitions. -/
def FieldInfo.plainLayout (info : FieldInfo) : Layout :=
  match info.kind with
  | some .file => .asset
  | some .link => .link
  | some .reference => .reference
  | some .globalField => .reference
  | some .taxonomy => .list .taxonomyTerm
  | some .json => if info.isJsonRte then .document else .bare
  | _ => .bare

/-- The metadata of an instance or block, unless a field has its key. -/
def Field.metadataLayouts (fields : List Field) : List (String × Layout) :=
  if fields.any fun field => field.uid == "_metadata" then [] else [("_metadata", .itemMetadata)]

mutual

/-- The layout of a value of a field, or of the list of its values. -/
def Field.layout : Field → Layout
  | ⟨info, fields, blocks⟩ =>
    match info.kind with
    | some .group =>
      if info.multiple then
        .list (.record (Field.memberLayouts fields ++ Field.metadataLayouts fields))
      else .record (Field.memberLayouts fields)
    | some .blocks => .list (.record (BlockOf.memberLayouts blocks))
    | _ =>
      if info.multiple = true ∧ info.kind ≠ some .taxonomy then .list info.plainLayout
      else info.plainLayout

/-- The members that fields declare, with their layouts. -/
def Field.memberLayouts : List Field → List (String × Layout)
  | [] => []
  | field :: rest => (field.uid, Field.layout field) :: Field.memberLayouts rest

/-- The members that the variants of a block item declare, with the layouts of their payloads. -/
def BlockOf.memberLayouts : List (BlockOf Field) → List (String × Layout)
  | [] => []
  | block :: rest => (block.uid, BlockOf.payloadLayout block) :: BlockOf.memberLayouts rest

/-- The layout of the payload of a block. -/
def BlockOf.payloadLayout : BlockOf Field → Layout
  | ⟨info, fields⟩ =>
    if info.isReference then .reference
    else .record (Field.memberLayouts fields ++ Field.metadataLayouts fields)

end

/-- The layout of the entries of a content type. -/
def ContentType.layout (contentType : ContentType) : Layout :=
  .record (Field.memberLayouts contentType.fields)

/-! ## One kind of field at a time -/

namespace Field

variable {field : Field}

theorem memberLayouts_eq (fields : List Field) :
    memberLayouts fields = fields.map fun field => (field.uid, field.layout) := by
  induction fields with
  | nil => rfl
  | cons field rest ih => rw [memberLayouts, ih, List.map_cons]

theorem layout_single (hkind : field.kind = some .group) (hsingle : field.multiple = false) :
    field.layout = .record (memberLayouts field.fields) := by
  obtain ⟨info, fields, blocks⟩ := field
  have hnot : ¬ info.multiple = true := Bool.eq_false_iff.1 hsingle
  rw [layout, hkind]
  exact if_neg hnot

theorem layout_instances (hkind : field.kind = some .group) (hmultiple : field.multiple = true) :
    field.layout =
      .list (.record (memberLayouts field.fields ++ metadataLayouts field.fields)) := by
  obtain ⟨info, fields, blocks⟩ := field
  rw [layout, hkind]
  exact if_pos hmultiple

theorem layout_blocks (hkind : field.kind = some .blocks) :
    field.layout = .list (.record (BlockOf.memberLayouts field.blocks)) := by
  obtain ⟨info, fields, blocks⟩ := field
  rw [layout, hkind]

theorem layout_plain (hg : field.kind ≠ some .group) (hb : field.kind ≠ some .blocks) :
    field.layout = if field.multiple = true ∧ field.kind ≠ some .taxonomy then
      .list field.plainLayout else field.plainLayout := by
  obtain ⟨info, fields, blocks⟩ := field
  rw [layout]
  split
  · next h => exact absurd h hg
  · next h => exact absurd h hb
  · rfl

end Field

theorem BlockOf.memberLayouts_eq (blocks : List BlockDefinition) :
    memberLayouts blocks = blocks.map fun block => (block.uid, block.payloadLayout) := by
  induction blocks with
  | nil => rfl
  | cons block rest ih => rw [memberLayouts, ih, List.map_cons]

end ContentModel
