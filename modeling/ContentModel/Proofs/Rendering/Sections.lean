import Mathlib.Data.List.Forall2
import ContentModel.Proofs.Rendering.Congruence
import ContentModel.Proofs.Text.Within

/-!
# Sections and rules

A rule is written below every section of a blocks field, and in the end the last one is taken away.

* `Rendering.dropLastRule_ruledLines` says what is left: the sections with a rule between each two;
* `Rendering.blocksText_arr` gives the value of a blocks field by its sections;
* `Rendering.blockSections_eq_ok_iff` says that these are the sections of the items that are
  recognised, `Rendering.blockSections_filter` that the other items do not count;
* `Rendering.blocksText_sections` is the main statement.
-/

namespace ContentModel

theorem Text.strip_append_newline (text : String) : strip (text ++ "\n") = strip text := by
  have hblank : isBlank '\n' = true := by decide
  have hend : ("\n" : String).toList = ['\n'] := rfl
  have hdrop : ['\n'].dropWhile isBlank = [] := by simp [hblank]
  simp only [strip, trimChars, String.toList_append, List.dropWhile_append, hend, hdrop]
  split
  · next hnil => rw [List.isEmpty_iff.1 hnil]
  · rw [trimEnd_append_of_all (List.forall_mem_singleton.2 hblank)]

namespace Rendering

open Text

/-! ## Rules -/

theorem dropLastRule_append (lines : List String) :
    dropLastRule (lines ++ ["---", ""]) = lines ++ [""] := by
  have hlength : (lines ++ ["---", ""]).length - 2 = lines.length := by simp
  rw [dropLastRule, hlength, if_pos ⟨by simp, by simp⟩, List.eraseIdx_append_of_length_le (by simp),
    Nat.sub_self]
  rfl

/-- Sections with a rule below each are, but for the last rule, sections with a rule between each
two. -/
theorem ruledLines_eq {sections : List (List String)} (h : sections ≠ []) :
    ruledLines sections = ["---", ""].intercalate sections ++ ["---", ""] := by
  induction sections with
  | nil => exact absurd rfl h
  | cons lines rest ih =>
    cases rest with
    | nil => simp [ruledLines]
    | cons next more =>
      have hrest := ih (List.cons_ne_nil next more)
      rw [ruledLines] at hrest ⊢
      rw [List.flatMap_cons, hrest, List.intercalate_cons_cons]
      simp only [List.append_assoc]

theorem dropLastRule_ruledLines {sections : List (List String)} (h : sections ≠ []) :
    dropLastRule (ruledLines sections) = ["---", ""].intercalate sections ++ [""] := by
  rw [ruledLines_eq h, dropLastRule_append]

theorem infix_intercalate {lines : List String} {sections : List (List String)}
    (h : lines ∈ sections) : lines <:+: ["---", ""].intercalate sections := by
  induction sections with
  | nil => cases h
  | cons first rest ih =>
    cases rest with
    | nil =>
      obtain rfl := List.mem_singleton.1 h
      exact ⟨[], [], by simp⟩
    | cons next more =>
      rw [List.intercalate_cons_cons]
      rcases List.mem_cons.1 h with rfl | hrest
      · rw [List.append_assoc]
        exact (List.prefix_append lines _).isInfix
      · exact (ih hrest).trans (List.suffix_append _ _).isInfix

theorem strip_dropLastRule (sections : List (List String)) :
    strip (joinWith "\n" (dropLastRule (ruledLines sections))) =
      strip (joinWith "\n" (["---", ""].intercalate sections)) := by
  by_cases hsections : sections = []
  · rw [hsections]
    rfl
  rw [dropLastRule_ruledLines hsections]
  by_cases hlines : ["---", ""].intercalate sections = []
  · rw [hlines]
    rfl
  · rw [joinWith_append hlines (List.cons_ne_nil _ _), joinWith_singleton, String.append_empty,
      strip_append_newline]

variable {options : RenderOptions} {level : Int} {definitions : List BlockDefinition}
  {items : List Json}

theorem blocksText_arr (options : RenderOptions) (level : Int) (definitions : List BlockDefinition)
    (items : List Json) : blocksText options level definitions (.arr items) =
      (blockSections options level definitions items).map fun sections =>
        strip (joinWith "\n" (["---", ""].intercalate sections)) := by
  simp only [← strip_dropLastRule]
  cases hsections : blockSections options level definitions items with
  | error error => simp [blocksText, hsections, Except.map, bind, Except.bind]
  | ok sections => simp [blocksText, hsections, Except.map, bind, Except.bind, pure, Except.pure]

/-! ## Items -/

/-- Whether an item is of one of the variants. -/
def isRecognised (definitions : List BlockDefinition) (item : Json) : Bool :=
  match BlockMatch.of item definitions with
  | .variant _ _ _ _ => true
  | .unknown _ _ => false

/-- These are the lines of an item, which is of one of the variants. -/
def IsSection (options : RenderOptions) (level : Int) (definitions : List BlockDefinition)
    (item : Json) (lines : List String) : Prop :=
  ∃ key index definition payload,
    BlockMatch.of item definitions = .variant key index definition payload ∧
      blockLines options level key definition payload = .ok lines

/-- Items that are of no variant have no section. -/
theorem blockSections_filter (items : List Json) :
    blockSections options level definitions (items.filter (isRecognised definitions)) =
      blockSections options level definitions items := by
  induction items with
  | nil => rfl
  | cons item rest ih =>
    rw [List.filter_cons, isRecognised]
    cases hmatch : BlockMatch.of item definitions with
    | unknown key payload => simp [blockSections, hmatch, ih]
    | variant key index definition payload => simp [blockSections, hmatch, ih]

/-- The sections are those of the items that are of a variant, in order. -/
theorem blockSections_eq_ok_iff {sections : List (List String)} :
    blockSections options level definitions items = .ok sections ↔
      List.Forall₂ (IsSection options level definitions)
        (items.filter (isRecognised definitions)) sections := by
  induction items generalizing sections with
  | nil =>
    rw [List.filter_nil, List.forall₂_nil_left_iff, blockSections]
    exact ⟨fun h => (Except.ok.inj h).symm, fun h => congrArg Except.ok h.symm⟩
  | cons item rest ih =>
    rw [List.filter_cons, isRecognised, blockSections]
    cases hmatch : BlockMatch.of item definitions with
    | unknown key payload => simpa using ih
    | variant key index definition payload =>
      have hown (lines : List String) : IsSection options level definitions item lines ↔
          blockLines options level key definition payload = .ok lines := by
        refine ⟨?_, fun h => ⟨key, index, definition, payload, hmatch, h⟩⟩
        rintro ⟨_, _, _, _, hof, hlines⟩
        cases hmatch.symm.trans hof
        exact hlines
      simp only [if_true, List.forall₂_cons_left_iff, hown, ← ih]
      cases blockLines options level key definition payload with
      | error error => simp [bind, Except.bind]
      | ok lines =>
        cases blockSections options level definitions rest with
        | error error => simp [bind, Except.bind]
        | ok others => simp [bind, Except.bind, pure, Except.pure, eq_comm]

/-- **The value of a blocks field is the sections of its recognised items, joined by rules.** It can
be written just when every item that is of one of the variants has a section. It is then the
sections of these items, in order, with one rule and an empty line between each two of them and none
before the first or after the last, trimmed. So lists with the same recognised items have the same
value, whatever stands between these, before or after them, and both fail alike. -/
theorem blocksText_sections (options : RenderOptions) (level : Int)
    (definitions : List BlockDefinition) (items : List Json) :
    (∀ text, blocksText options level definitions (.arr items) = .ok text ↔
      ∃ sections, List.Forall₂ (IsSection options level definitions)
          (items.filter (isRecognised definitions)) sections ∧
        text = strip (joinWith "\n" (["---", ""].intercalate sections))) ∧
    ∀ others : List Json,
      others.filter (isRecognised definitions) = items.filter (isRecognised definitions) →
        blocksText options level definitions (.arr others) =
          blocksText options level definitions (.arr items) := by
  refine ⟨fun text => ?_, fun others hothers => ?_⟩
  · simp only [blocksText_arr, ← blockSections_eq_ok_iff]
    cases blockSections options level definitions items with
    | error error => simp [Except.map]
    | ok sections => simp [Except.map, eq_comm]
  · rw [blocksText_arr, blocksText_arr, ← blockSections_filter others, hothers,
      blockSections_filter]

/-- Two blocks, the first of which has a rule as its text, with items of no variant before, between
and behind them. -/
theorem blocksText_sections_skipped :
    let body : Field := ⟨{ uid := "body", dataType := some "text" }, [], []⟩
    let definitions : List BlockDefinition := [⟨{ uid := "note" }, [body]⟩]
    let note (text : String) : Json := .obj [("note", .obj [("body", .str text)])]
    let other : Json := .obj [("other", .obj []), ("note", .obj [])]
    let items : List Json := [.null, note "\n---", other, note "b", other, .str "note"]
    [note "\n---", note "b"].filter (isRecognised definitions) =
        items.filter (isRecognised definitions) ∧
      blocksText {} 3 definitions (.arr items) =
        .ok "### note\n\n**body:** \n---\n\n---\n\n### note\n\n**body:** b" := by
  intro body definitions note other items
  have hitems : [note "\n---", note "b"].filter (isRecognised definitions) =
      items.filter (isRecognised definitions) := rfl
  have hvalue : blocksText {} 3 definitions (.arr [note "\n---", note "b"]) =
      .ok "### note\n\n**body:** \n---\n\n---\n\n### note\n\n**body:** b" := by decide +kernel
  exact ⟨hitems, ((blocksText_sections {} 3 definitions items).2 _ hitems).symm.trans hvalue⟩

end Rendering

end ContentModel
