import ContentModel.Proofs.Issue.Place
import ContentModel.Proofs.Validation.Plain

/-!
# Places of findings

Every finding names a place of the value that it was found in.

* `Checker.PointsAt` says this of the findings in one value, `Checker.Points` of all findings of a
  check, with one lemma for every way to build checks;
* `Field.points_compiled` says it of the compiled checks of fields;
* `Validator.issues_point_into_entry` says it of the issues of an entry.
-/

namespace ContentModel

variable {mode : Mode} {draft : Bool}

namespace Checker

variable {checker : Checker} {value : Json}

/-- What is found in a value names places of it. -/
def PointsAt (checker : Checker) (value : Json) : Prop :=
  ∀ finding ∈ checker.findings value, finding.PointsInto value

/-- What is found in any value names places of it. -/
def Points (checker : Checker) : Prop := ∀ value, checker.PointsAt value

theorem points_leaf {problem? : Json → Option Problem}
    (h : ∀ value, problem? value ≠ some .missing) : (leaf problem?).Points := by
  intro value finding hmem
  obtain ⟨problem, hproblem, rfl⟩ := List.mem_map.1 hmem
  refine Finding.pointsInto_here (fun hmissing => h value ?_) value
  rw [← hmissing]
  exact Option.mem_toList.1 hproblem

theorem points_textWith {problem? : String → Option Problem}
    (h : ∀ s, problem? s ≠ some .missing) : (textWith problem?).Points := by
  refine points_leaf fun value => ?_
  cases value with
  | str s => exact h s
  | _ => simp

theorem points_any : any.Points := points_leaf fun _ => nofun

theorem points_text : text.Points := points_textWith fun _ => nofun

theorem points_boolean : boolean.Points := points_leaf fun value => by cases value <;> simp

theorem points_mapping : mapping.Points := points_leaf fun value => by cases value <;> simp

theorem points_number : number.Points := points_leaf fun value => by cases value <;> simp

theorem points_filledText : filledText.Points :=
  points_textWith fun s => by split <;> simp

theorem points_documentType : documentType.Points :=
  points_textWith fun s => by split <;> simp

theorem points_choice (choices : List Json) : (choice choices).Points :=
  points_leaf fun value => by split <;> simp

theorem points_pattern (format : Format) : (pattern format).Points :=
  points_textWith fun s => by split <;> simp

theorem points_isoDate : isoDate.Points := points_textWith fun s => by split <;> simp

theorem points_timestamp (first last : Option Instant) : (timestamp first last).Points := by
  refine points_textWith fun s => ?_
  split
  · split <;> simp
  · simp

/-! ## Null, lists and records -/

theorem PointsAt.nullable (h : checker.PointsAt value) : checker.nullable.PointsAt value := by
  cases value with
  | null => exact nofun
  | _ => exact h

theorem Points.nullable (h : checker.Points) : checker.nullable.Points :=
  fun value => (h value).nullable

theorem pointsAt_list {most : Option Nat}
    (h : ∀ items, value = .arr items → ∀ item ∈ items, checker.PointsAt item) :
    (list most checker).PointsAt value := by
  intro finding hmem
  rcases findings_list_cases hmem with
    rfl | ⟨limit, actual, rfl⟩ | ⟨items, i, item, inner, rfl, hget, hinner, rfl⟩
  · exact Finding.pointsInto_here (by simp) value
  · exact Finding.pointsInto_here (by simp) value
  · have hitem := h items rfl item (List.mem_of_getElem? hget)
    exact (hitem inner hinner).under hget

theorem Points.list (most : Option Nat) (h : checker.Points) : (list most checker).Points :=
  fun _ => pointsAt_list fun _ _ item _ => h item

theorem pointsAt_record {shape : Shape} {slots : List Slot}
    (h : ∀ members : Members, value = .obj members → ∀ slot ∈ slots, ∀ key member,
      members.get? key = some member → slot.read members = some (key, member) →
        slot.checker.PointsAt member) : (record shape slots).PointsAt value := by
  intro finding hmem
  rcases findings_record_cases hmem with
    rfl | ⟨members, rfl, ⟨-, -, rfl⟩ | ⟨slot, hs, hslot⟩⟩
  · exact Finding.pointsInto_here (by simp) value
  · exact Finding.pointsInto_here (by simp) _
  · rcases Slot.findings_cases hslot with ⟨key, member, inner, hread, hinner, rfl⟩ | ⟨hread, rfl⟩
    · have hmember : Members.get? members key = some member := by
        rcases Slot.read_cases hread with ⟨rfl, hmember⟩ | ⟨-, -, hmember⟩ <;> exact hmember
      exact (h members rfl slot hs key member hmember hread inner hinner).under hmember
    · exact Finding.pointsInto_missing (Slot.read_eq_none_iff.1 hread).1

theorem points_record (shape : Shape) {slots : List Slot}
    (h : ∀ slot ∈ slots, slot.checker.Points) : (record shape slots).Points :=
  fun _ => pointsAt_record fun _ _ slot hs _ member _ _ => h slot hs member

end Checker

/-! ## Structured values -/

namespace RichTextShape

theorem points_node : node.Points := by
  intro value
  rw [node_eq]
  induction value using Json.inductUnder "children" with
  | other value hvalue =>
    refine Checker.pointsAt_record fun members heq => ?_
    rw [heq] at hvalue
    cases hvalue
  | obj members ih =>
    refine Checker.pointsAt_record fun _ heq slot hs key member hmember hread => ?_
    cases heq
    rcases nodeSlots_cases hs with ⟨_, problem?, hproblem, rfl⟩ | rfl
    · exact (Checker.points_leaf hproblem).nullable member
    · obtain ⟨rfl, -⟩ := (Slot.read_eq_some_iff rfl).1 hread
      refine Checker.PointsAt.nullable (Checker.pointsAt_list fun items heq item hitem => ?_)
      rw [node_eq]
      exact ih items (heq ▸ hmember) item hitem

theorem points_document : document.Points := by
  refine Checker.points_record _ ?_
  simp only [List.forall_mem_cons, List.not_mem_nil, false_implies, implies_true, and_true]
  exact ⟨Checker.points_documentType, Checker.points_text.nullable, Checker.points_mapping.nullable,
    points_node.list none⟩

end RichTextShape

theorem Checker.OfTexts.points {keys : List String} {checker : Checker}
    (h : checker.OfTexts keys) : checker.Points := by
  cases h with
  | record _ _ _ hslots =>
    exact points_record _ fun slot hs =>
      (hslots slot hs).elim (P := Points) points_filledText points_text.nullable

/-! ## Fields without nested definitions -/

namespace FieldInfo

variable {info : FieldInfo} {checker : Checker}

theorem points_formatChecker {raw : String} (h : (info.formatChecker raw).result = .ok checker) :
    checker.Points := by
  unfold formatChecker at h
  split at h
  · cases h
    exact Checker.points_pattern _
  · cases h
    exact Checker.points_text
  · cases h

theorem points_textChecker (h : info.textChecker.result = .ok checker) : checker.Points := by
  unfold textChecker at h
  split at h
  · cases h
    exact Checker.points_text
  · split at h
    · cases h
      exact Checker.points_choice _
    · split at h
      · exact points_formatChecker h
      · cases h
        exact Checker.points_text

theorem points_dateChecker (h : info.dateChecker.result = .ok checker) : checker.Points := by
  unfold dateChecker at h
  split at h
  · cases h
    exact Checker.points_isoDate
  · simp only [Build.result_bind] at h
    obtain ⟨first, -, h⟩ := Build.bind_eq_ok h
    obtain ⟨last, -, h⟩ := Build.bind_eq_ok h
    cases h
    exact Checker.points_timestamp first last

theorem points_plainChecker (h : (info.plainChecker mode).result = .ok checker) :
    checker.Points := by
  unfold plainChecker at h
  split at h
  case h_1 => exact points_textChecker h
  case h_4 => exact points_dateChecker h
  all_goals cases h
  · exact Checker.points_number
  · exact Checker.points_boolean
  · cases mode with
    | read => exact ValueShape.asset_ofTexts.points
    | upsert => exact Checker.points_filledText
  · exact ValueShape.link_ofTexts.points
  · exact ValueShape.reference_ofTexts.points
  · exact ValueShape.reference_ofTexts.points
  · exact ValueShape.taxonomyTerm_ofTexts.points.list none
  · split
    · exact RichTextShape.points_document
    · exact Checker.points_any
  all_goals exact Checker.points_any

theorem points_compiledPlain (mode : Mode) (info : FieldInfo) :
    (info.compiledPlain mode).Points := by
  unfold compiledPlain
  split
  · next h => exact points_plainChecker h
  · exact Checker.points_text

end FieldInfo

/-! ## Fields -/

theorem Field.points_slots {fields : List Field} (withMetadata : Bool)
    (ih : ∀ field ∈ fields, (field.compiled mode draft).Points) :
    ∀ slot ∈ recordSlots mode draft withMetadata fields, slot.checker.Points := by
  intro slot hs
  rcases List.mem_append.1 hs with hs | hs
  · obtain ⟨i, field, hget, rfl⟩ := mem_compiledSlots.1 hs
    have hfield := ih field (List.mem_of_getElem? hget)
    rw [FieldInfo.checker_slotWith]
    split
    · exact hfield
    · exact hfield.nullable
  · rw [(eq_metadataSlot hs).1]
    exact ValueShape.itemMetadata_ofTexts.points.nullable

theorem BlockOf.points_payload {block : BlockDefinition} (uid : String)
    (ih : ∀ field ∈ block.fields, (field.compiled mode draft).Points) :
    (block.compiledPayload mode draft uid).Points := by
  obtain ⟨info, fields⟩ := block
  rw [compiledPayload]
  split
  · exact ValueShape.reference_ofTexts.points
  · exact Checker.points_record _ (Field.points_slots true ih)

namespace Field

/-- What the compiled check of a field finds in a value names places of the value. -/
theorem points_compiled (mode : Mode) (draft : Bool) (field : Field) :
    (field.compiled mode draft).Points := by
  induction field using Field.induct with
  | node info fields blocks ihFields ihBlocks =>
    by_cases hg : info.kind = some .group
    · cases hmultiple : info.multiple with
      | false =>
        rw [compiled_single hg hmultiple]
        exact Checker.points_record _ (points_slots false ihFields)
      | true =>
        rw [compiled_instances hg hmultiple]
        exact (Checker.points_record _ (points_slots true ihFields)).list _
    · by_cases hb : info.kind = some .blocks
      · rw [compiled_blocks hb]
        split
        · exact Checker.points_any.list none
        · refine (Checker.points_record _ fun slot hs => ?_).list none
          obtain ⟨i, block, hget, rfl⟩ := BlockOf.mem_compiledSlots.1 hs
          exact BlockOf.points_payload _ (ihBlocks block (List.mem_of_getElem? hget))
      · rw [compiled_plain hg hb]
        split
        · exact (info.points_compiledPlain mode).list none
        · exact info.points_compiledPlain mode

end Field

namespace Validator

/-- **Places of issues.** The location of an issue of a missing member leads to an object in the
entry and then to a key that the object lacks. The location of any other issue leads to a part of
the entry, or nowhere else than to the entry itself. -/
theorem issues_point_into_entry {contentType : ContentType} {validator : Validator}
    (h : (build contentType mode draft).result = .ok validator) (entry : Json) :
    ∀ issue ∈ (validator.check entry).issues,
      (issue.kind = .missingRequired → ∃ (front : Location) (key : String) (members : Members),
        issue.location = front ++ [.key key] ∧ entry.at? front = some (.obj members) ∧
          members.get? key = none) ∧
      (issue.kind ≠ .missingRequired → ∃ part, entry.at? issue.location = some part) := by
  obtain rfl := eq_compiled h
  intro issue hissue
  rw [check, Checker.issues_verdict] at hissue
  have hrecord : (contentType.compiled mode draft).Points := by
    rw [contentType.compiled_eq]
    exact Checker.points_record _
      (Field.points_slots false fun field _ => field.points_compiled mode draft)
  have hpoints := hrecord entry issue hissue
  rw [Finding.kind, Ne, Problem.kind_eq_missingRequired_iff]
  exact hpoints

/-- A reference with a number for its content type, given under the second key, and an instance of a
group without its mandatory text. -/
theorem issues_point_into_entry_rows :
    let text : Field := ⟨{ uid := "t", dataType := some "text", mandatory := true }, [], []⟩
    let rows : Field := ⟨{ uid := "rows", dataType := some "group", multiple := true }, [text], []⟩
    let ref : Field := ⟨{ uid := "ref", dataType := some "reference" }, [], []⟩
    let entry : Json := .obj [("rows", .arr [.obj []]),
      ("ref", .obj [("uid", .str "a"), ("content_type_uid", .int 5)])]
    ∃ validator, (build { fields := [ref, rows] } .read false).result = .ok validator ∧
      entry.LacksAt [.key "rows", .index 0, .key "t"] ∧
      ∃ part, entry.at? [.key "ref", .key "content_type_uid"] = some part := by
  intro text rows ref entry
  have h : (build { fields := [ref, rows] } .read false).result =
      .ok (compiled { fields := [ref, rows] } .read false) := rfl
  have hissues : ((compiled { fields := [ref, rows] } .read false).check entry).issues =
      [⟨[.key "ref", .key "content_type_uid"], .notAString⟩,
        ⟨[.key "rows", .index 0, .key "t"], .missing⟩] := by decide
  have hpoints := issues_point_into_entry h entry
  rw [hissues] at hpoints
  obtain ⟨href, hrow⟩ := List.forall_mem_cons.1 hpoints
  exact ⟨_, h, (hrow _ List.mem_cons_self).1 rfl, href.2 nofun⟩

end Validator

end ContentModel
