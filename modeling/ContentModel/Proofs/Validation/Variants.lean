import ContentModel.Proofs.Schema.Variant
import ContentModel.Proofs.Validation.Acceptance

/-!
# Variants of block items

What is found in the items of a modular blocks field.

* `Field.dispatch_agrees` says that the check of the field refuses the tags of just those objects
  for which no variant is found, and that an item of an accepted list has the payload of its
  variant;
* `Json.CarriesOneVariant` says that an item has one key for its variant and no other key that may
  be a tag. `Field.accepted_items` says what the items of an accepted list are instead, and when
  they all are like this.
-/

namespace ContentModel

variable {mode : Mode} {draft : Bool}

/-! ## The check of items -/

namespace Field

variable {field : Field} {checker : Checker} {depth : Nat} {items : List Json}

theorem compiled_items (hkind : field.kind = some .blocks) (hblocks : field.blocks ≠ []) :
    field.compiled mode draft = .list none (blockItemChecker field.uid
      (BlockOf.compiledSlots mode draft field.uid 0 field.blocks)) := by
  rw [compiled_blocks hkind, if_neg (by simpa using hblocks)]

/-- The lists that are accepted: their items are objects whose tag is the uid of a variant, and the
members under the uids of variants conform to these. -/
theorem findings_items_eq_nil_iff (hkind : field.kind = some .blocks) (hblocks : field.blocks ≠ [])
    (h : (field.checker mode draft depth).result = .ok checker) :
    checker.findings (.arr items) = [] ↔ ∀ item ∈ items, item.IsRecord fun members =>
      (∃ block ∈ field.blocks, members.tag? = some block.uid) ∧
        BlockOf.MembersConform mode draft field.blocks members := by
  rw [tests_checker h, conforms_blocks_iff hkind, if_neg (by simpa using hblocks), Json.IsListOf]
  simp only [Json.arr.injEq, exists_eq_left']
  have htag : ∀ members : Members, (∃ tag, members.tag? = some tag ∧
      ∃ block ∈ field.blocks, block.uid = tag) ↔
        ∃ block ∈ field.blocks, members.tag? = some block.uid := by
    grind
  simp only [htag]

/-- A tag is refused in the items that are objects of no variant. -/
theorem unknownVariant_iff {item : Json} :
    (∃ finding ∈ (blockItemChecker field.uid
        (BlockOf.compiledSlots mode draft field.uid 0 field.blocks)).findings item,
      finding.location = [] ∧ finding.kind = .noMatchingVariant) ↔
    item.isObject = true ∧ ∃ key payload, BlockMatch.of item field.blocks = .unknown key payload := by
  rw [BlockMatch.of_eq_unknown_iff]
  have htag : ∀ members : Members, tagDeclared
      (BlockOf.compiledSlots mode draft field.uid 0 field.blocks) members = false ↔
      ∀ block ∈ field.blocks, members.tag? ≠ some block.uid := by
    intro members
    rw [← Bool.not_eq_true, BlockOf.tagDeclared_compiledSlots_iff]
    grind
  constructor
  · rintro ⟨finding, hmem, hlocation, hfinding⟩
    rcases Checker.findings_record_cases hmem with
      rfl | ⟨members, rfl, ⟨-, hundeclared, -⟩ | ⟨slot, -, hslot⟩⟩
    · cases hfinding
    · exact ⟨rfl, (htag members).1 hundeclared⟩
    · rcases Slot.findings_cases hslot with ⟨key, value, inner, -, -, rfl⟩ | ⟨-, rfl⟩
      · cases hlocation
      · cases hlocation
  · rintro ⟨hobject, hnone⟩
    cases item with
    | obj members =>
      refine ⟨.here (.unknownVariant (Members.tag? members)), ?_, rfl, rfl⟩
      simp [blockItemChecker, Checker.record, (htag members).2 hnone]
    | _ => cases hobject

/-- In a list a tag is refused at the indexes of such items. -/
theorem unknownVariant_at_iff (hkind : field.kind = some .blocks) (hblocks : field.blocks ≠ [])
    (i : Nat) : (∃ finding ∈ (field.compiled mode draft).findings (.arr items),
        finding.location = [.index i] ∧ finding.kind = .noMatchingVariant) ↔
      ∃ item, items[i]? = some item ∧ item.isObject = true ∧
        ∃ key payload, BlockMatch.of item field.blocks = .unknown key payload := by
  rw [compiled_items hkind hblocks]
  constructor
  · rintro ⟨finding, hmem, hlocation, hfinding⟩
    obtain ⟨j, item, inner, hget, hinner, rfl⟩ := Checker.mem_itemFindings_iff.1 hmem
    rw [Finding.location_under, List.cons.injEq, Step.index.injEq, Nat.zero_add] at hlocation
    obtain ⟨hindex, hhere⟩ := hlocation
    obtain rfl : j = i := by omega
    exact ⟨item, hget, unknownVariant_iff.1 ⟨inner, hinner, hhere, hfinding⟩⟩
  · rintro ⟨item, hget, hunknown⟩
    obtain ⟨inner, hinner, hhere, hfinding⟩ := unknownVariant_iff.2 hunknown
    refine ⟨inner.under (.index i), Checker.mem_itemFindings_iff.2 ?_, by simp [hhere], hfinding⟩
    exact ⟨i, item, inner, hget, hinner, by rw [Nat.zero_add]⟩

/-- **Dispatch.** The check of a modular blocks field reports at an index that no variant matches
just when there is an object for which no variant is found. In a list that it accepts a variant is
found for every item, and the payload under the tag of the item conforms to this variant. -/
theorem dispatch_agrees (hkind : field.kind = some .blocks) (hblocks : field.blocks ≠ [])
    (h : (field.checker mode draft depth).result = .ok checker) (items : List Json) :
    (∀ i : Nat, (∃ finding ∈ checker.findings (.arr items),
        finding.location = [.index i] ∧ finding.kind = .noMatchingVariant) ↔
      ∃ item, items[i]? = some item ∧ item.isObject = true ∧
        ∃ key payload, BlockMatch.of item field.blocks = .unknown key payload) ∧
    (checker.findings (.arr items) = [] → ∀ item ∈ items,
      ∃ (i : Nat) (block : BlockDefinition) (payload : Json),
        BlockMatch.of item field.blocks = .variant block.uid i block payload ∧
        field.blocks[i]? = some block ∧ item.get? block.uid = some payload ∧
        block.PayloadConforms mode draft payload) := by
  constructor
  · intro i
    rw [eq_compiled h]
    exact unknownVariant_at_iff hkind hblocks i
  · intro haccepted item hitem
    obtain ⟨members, rfl, ⟨declared, hdeclared, htag⟩, hmembers⟩ :=
      (findings_items_eq_nil_iff hkind hblocks h).1 haccepted item hitem
    rcases BlockMatch.of_cases (.obj members) field.blocks with
      ⟨i, block, hget, hblock, hof⟩ | ⟨hnone, -⟩
    · obtain ⟨value, hvalue⟩ : ∃ value, Members.get? members block.uid = some value :=
        Option.isSome_iff_exists.1 (Members.has_iff.2 (Members.isTag_of_tag? hblock).2)
      have hpayload : (Json.obj members).get? block.uid = some value := hvalue
      refine ⟨i, block, value, by rw [hof, hpayload]; rfl, hget, hpayload, ?_⟩
      exact BlockOf.membersConform_iff.1 hmembers block (List.mem_of_getElem? hget) value hvalue
    · exact absurd htag (hnone declared hdeclared)

/-- A field with two variants of one uid, and a list of an item of it, of an item with another tag
and of a text. -/
theorem dispatch_agrees_tags :
    let hero : BlockDefinition := { uid := "hero", referenceTo := some "hero", fields := [] }
    let other : BlockDefinition := { uid := "hero", fields := [] }
    let field : Field := ⟨{ uid := "sections", dataType := some "blocks" }, [], [hero, other]⟩
    let item : Json := .obj [("_metadata", .null), ("hero", .obj [("uid", .str "a")])]
    ∃ checker, (field.checker .read false 0).result = .ok checker ∧
      (∃ finding ∈ checker.findings (.arr [item, .obj [("quote", .null)], .str "hero"]),
        finding.location = [.index 1] ∧ finding.kind = .noMatchingVariant) ∧
      (¬ ∃ finding ∈ checker.findings (.arr [item, .obj [("quote", .null)], .str "hero"]),
        finding.location = [.index 2] ∧ finding.kind = .noMatchingVariant) ∧
      ∃ payload, item.get? "hero" = some payload ∧ hero.PayloadConforms .read false payload := by
  intro hero other field item
  have hkind : field.kind = some .blocks := rfl
  have h : (field.checker .read false 0).result = .ok (field.compiled .read false) := rfl
  have hagrees := dispatch_agrees hkind (by simp [field]) h
  refine ⟨_, h, ?_, fun hfound => ?_, ?_⟩
  · exact ((hagrees _).1 1).2 ⟨_, rfl, rfl, _, _, rfl⟩
  · obtain ⟨_, hget, hobject, -⟩ := ((hagrees _).1 2).1 hfound
    cases hget
    cases hobject
  · obtain ⟨i, block, payload, hof, -, hpayload, hconforms⟩ :=
      (hagrees [item]).2 (by decide) item List.mem_cons_self
    obtain ⟨-, -, rfl, -⟩ := BlockMatch.variant.inj hof
    exact ⟨payload, hpayload, hconforms⟩

end Field

/-! ## Items with one variant -/

/-- An item is an object with one key that is the uid of a variant, and all its other keys begin
with an underscore. -/
def Json.CarriesOneVariant (blocks : List BlockDefinition) : Json → Prop :=
  IsRecord fun members => ∃ tag,
    (∀ key, (members.has key = true ∧ ∃ block ∈ blocks, block.uid = key) ↔ key = tag) ∧
      ∀ key, members.has key = true → key ≠ tag → Members.isTag key = false

/-- An object whose tag is the uid of a variant carries one variant just when it has no second key
that may be a tag. -/
theorem Json.carriesOneVariant_iff {blocks : List BlockDefinition} {members : Members}
    {block : BlockDefinition} (htags : ∀ block ∈ blocks, Members.isTag block.uid = true)
    (hblock : block ∈ blocks) (htag : members.tag? = some block.uid) :
    CarriesOneVariant blocks (.obj members) ↔
      ∀ key other, members.has key = true → members.has other = true →
        Members.isTag key = true → Members.isTag other = true → key = other := by
  have hhas : members.has block.uid = true := Members.has_iff.2 (Members.isTag_of_tag? htag).2
  constructor
  · rintro ⟨_, heq, tag, hdeclared, hrest⟩ key other hkey hother hkeyTag hotherTag
    cases heq
    have honly : ∀ key, members.has key = true → Members.isTag key = true → key = tag := by
      intro key hkey hkeyTag
      by_cases heq : key = tag
      · exact heq
      · rw [hrest key hkey heq] at hkeyTag
        cases hkeyTag
    rw [honly key hkey hkeyTag, honly other hother hotherTag]
  · intro hunique
    have honly : ∀ key, members.has key = true → Members.isTag key = true → key = block.uid :=
      fun key hkey hkeyTag => hunique key block.uid hkey hhas hkeyTag (htags block hblock)
    refine ⟨members, rfl, block.uid, fun key => ⟨?_, ?_⟩, fun key hkey hne => ?_⟩
    · rintro ⟨hkey, declared, hdeclared, rfl⟩
      exact honly _ hkey (htags declared hdeclared)
    · rintro rfl
      exact ⟨hhas, block, hblock, rfl⟩
    · exact Bool.eq_false_iff.2 fun hkeyTag => hne (honly key hkey hkeyTag)

namespace Field

variable {field : Field} {checker : Checker} {depth : Nat} {items : List Json}

/-- **Accepted items.** The accepted lists are those of objects whose tag is the uid of a variant and
whose members under the uids of variants conform to these. The items of such a list carry one
variant each just when none of them has a second key that does not begin with an underscore. -/
theorem accepted_items (hkind : field.kind = some .blocks) (hblocks : field.blocks ≠ [])
    (htags : ∀ block ∈ field.blocks, Members.isTag block.uid = true)
    (h : (field.checker mode draft depth).result = .ok checker) (items : List Json) :
    (checker.findings (.arr items) = [] ↔ ∀ item ∈ items, item.IsRecord fun members =>
      (∃ block ∈ field.blocks, members.tag? = some block.uid) ∧
        BlockOf.MembersConform mode draft field.blocks members) ∧
    (checker.findings (.arr items) = [] →
      ((∀ item ∈ items, item.CarriesOneVariant field.blocks) ↔
        ∀ item ∈ items, ∀ key other, item.members.has key = true → item.members.has other = true →
          Members.isTag key = true → Members.isTag other = true → key = other)) := by
  have haccepted : checker.findings (.arr items) = [] ↔ _ :=
    findings_items_eq_nil_iff hkind hblocks h
  refine ⟨haccepted, fun hnil => forall₂_congr fun item hitem => ?_⟩
  obtain ⟨members, rfl, ⟨block, hblock, htag⟩, -⟩ := haccepted.1 hnil item hitem
  exact Json.carriesOneVariant_iff htags hblock htag

/-- An item with the keys of two variants is accepted. -/
theorem accepted_items_two :
    let hero : BlockDefinition := { uid := "hero", fields := [] }
    let quote : BlockDefinition := { uid := "quote", fields := [] }
    let field : Field := ⟨{ uid := "sections", dataType := some "blocks" }, [], [hero, quote]⟩
    let item : Json := .obj [("hero", .obj []), ("quote", .obj [])]
    ∃ checker, (field.checker .read false 0).result = .ok checker ∧
      checker.findings (.arr [item]) = [] ∧ ¬ item.CarriesOneVariant field.blocks := by
  intro hero quote field item
  have hkind : field.kind = some .blocks := rfl
  have h : (field.checker .read false 0).result = .ok (field.compiled .read false) := rfl
  have hnil : (field.compiled .read false).findings (.arr [item]) = [] := by decide
  have hitems := (accepted_items hkind (by simp [field]) (by decide) h [item]).2 hnil
  refine ⟨_, h, hnil, fun hone => ?_⟩
  have hall : ∀ other ∈ [item], other.CarriesOneVariant field.blocks := by simpa using hone
  exact absurd (hitems.1 hall item List.mem_cons_self "hero" "quote" rfl rfl rfl rfl) (by decide)

end Field

end ContentModel
