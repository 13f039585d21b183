import ContentModel.Proofs.Markdown.Quotation
import ContentModel.Proofs.Rendering.GroupTable

/-!
# Quotations in documents

The description of an entry is quoted, and so are rich text and long or multiline text in blocks and
the text and source of quotation blocks. Only rich text is marked line by line; elsewhere one mark
is put in front.

* `Rendering.lines_description` says where the description stands in a document;
* `Rendering.blockFieldLines_forms` takes the lines of a block apart, `Rendering.QuotesField` says
  how a field is written there;
* `ContentType.render_quotes` is the main statement.
-/

namespace ContentModel

open Rendering Text Markdown

namespace Rendering

variable {options : RenderOptions} {members : Members} {fields : List Field}

/-! ## The description -/

/-- Values that are joined are texts. -/
theorem joinTexts_eq_ok {separator text : String} {values : List Json}
    (h : joinTexts separator values = .ok text) :
    ∃ texts : List String, values = texts.map .str ∧ text = joinWith separator texts := by
  have hall : ∀ value ∈ values, ∃ s, value = .str s := fun value hvalue =>
    (within_of_joinTexts h value hvalue).imp fun _ => And.left
  have htexts : ∃ texts : List String, values = texts.map .str := by
    clear h
    induction values with
    | nil => exact ⟨[], rfl⟩
    | cons value rest ih =>
      obtain ⟨⟨s, rfl⟩, hrest⟩ := List.forall_mem_cons.1 hall
      obtain ⟨texts, rfl⟩ := ih hrest
      exact ⟨s :: texts, rfl⟩
  obtain ⟨texts, rfl⟩ := htexts
  have hjoined : joinTexts separator (texts.map Json.str) = .ok (joinWith separator texts) := by
    simp [joinTexts, List.filterMap_map]
  exact ⟨texts, rfl, Except.ok.inj (h.symm.trans hjoined)⟩

theorem head?_heading (text : String) (level : Int) :
    (heading text level).toList.head? = some '#' := by
  obtain ⟨n, hn⟩ : ∃ n, (min (max level 1) 6).toNat = n + 1 :=
    Nat.exists_eq_add_one_of_ne_zero (by omega)
  rw [heading, hn, repeated, List.replicate_succ]
  simp

/-- Above the description stands nothing, or the title in a heading. -/
theorem titleLines_cases (options : RenderOptions) (members : Members) :
    ∃ above : List String, titleLines options members = above.map .str ∧
      ∀ rest, ∃ c, (terminated above ++ ("> " ++ rest)).toList.head? = some c ∧
        isBlank c = false := by
  have hnone : ∃ above : List String, ([] : List Json) = above.map .str ∧
      ∀ rest, ∃ c, (terminated above ++ ("> " ++ rest)).toList.head? = some c ∧
        isBlank c = false :=
    ⟨[], rfl, fun rest => ⟨'>', by simp [terminated], by decide⟩⟩
  unfold titleLines textLines
  split
  · next title _ =>
    split
    · exact hnone
    · refine ⟨[heading title options.headingLevel, ""], rfl, fun rest => ⟨'#', ?_, by decide⟩⟩
      simp [terminated, head?_heading]
  · exact hnone

/-- A quotation with other lines below it stands in the trimmed text as it is, or trimmed at its
end if there is nothing to see below it. -/
theorem lines_strip_quoted {above : List String} {quoted rest : String} {c : Char}
    (hfront : (terminated above ++ (quoted ++ ("\n" ++ rest))).toList.head? = some c)
    (hc : isBlank c = false) (hvisible : stripEnd quoted ≠ "") :
    (∃ below, lines (strip (terminated above ++ (quoted ++ ("\n" ++ rest)))) =
        above.flatMap lines ++ lines quoted ++ below) ∨
      lines (strip (terminated above ++ (quoted ++ ("\n" ++ rest)))) =
        above.flatMap lines ++ lines (stripEnd quoted) := by
  have hnewline : stripEnd "\n" = "" := by decide
  rw [strip_eq_stripEnd hfront hc, stripEnd_append, stripEnd_append quoted, stripEnd_append "\n",
    hnewline]
  by_cases hrest : stripEnd rest = ""
  · rw [if_pos hrest, if_pos rfl, if_neg hvisible, lines_terminated_append]
    exact Or.inr rfl
  · rw [if_neg hrest, if_neg (by simp), if_neg (by simp), lines_terminated_append,
      lines_append_newline]
    exact Or.inl ⟨_, (List.append_assoc _ _ _).symm⟩

/-- The mark in front of a text stays when the end is trimmed. -/
theorem stripEnd_marked (text : String) : stripEnd ("> " ++ text) =
    if stripEnd text = "" then ">" else "> " ++ stripEnd text := by
  rw [stripEnd_append, show stripEnd "> " = ">" by decide]

theorem isQuoted_marked_iff (text : String) : IsQuoted ("> " ++ text) ↔ IsQuotedBelow text := by
  have h := isQuoted_append_iff "> " text "" (by decide) (by decide) (by decide) (by decide)
  rwa [String.append_empty] at h

theorem isQuoted_stripEnd_iff (text : String) :
    IsQuoted (stripEnd ("> " ++ text)) ↔ IsQuotedBelow (stripEnd text) := by
  rw [stripEnd_marked]
  split
  · next hblank =>
    rw [hblank]
    decide
  · exact isQuoted_marked_iff _

/-- The lines of a document hold a text with one mark in front of it, trimmed at its end if no line
follows. All its lines are marked just when those below the first are marked in the text itself. -/
def ShowsQuoted (text document : String) : Prop :=
  ∃ above quoted below, lines document = above ++ lines quoted ++ below ∧
    (quoted = "> " ++ text ∧ (IsQuoted quoted ↔ IsQuotedBelow text) ∨
      below = [] ∧ quoted = stripEnd ("> " ++ text) ∧
        (IsQuoted quoted ↔ IsQuotedBelow (stripEnd text)))

theorem showsQuoted_strip {above below : List String} {text : String} {c : Char}
    (hfront : (terminated above ++
      ("> " ++ (text ++ ("\n" ++ joinWith "\n" ("" :: below))))).toList.head? = some c)
    (hc : isBlank c = false) :
    ShowsQuoted text (strip (joinWith "\n" (above ++ ("> " ++ text) :: "" :: below))) := by
  have hvisible : stripEnd ("> " ++ text) ≠ "" := by
    rw [stripEnd_marked]
    split <;> simp
  rw [← @String.append_assoc "> " text] at hfront
  rw [joinWith_terminated above (List.cons_ne_nil _ _), joinWith_cons_cons]
  rcases lines_strip_quoted hfront hc hvisible with ⟨rest, hlines⟩ | hlines
  · exact ⟨_, _, rest, hlines, Or.inl ⟨rfl, isQuoted_marked_iff text⟩⟩
  · exact ⟨_, _, [], by rw [hlines, List.append_nil], Or.inr ⟨rfl, rfl, isQuoted_stripEnd_iff text⟩⟩

/-! ## Blocks -/

/-- Whether a field has a form of its own in a block, whose title field is given. -/
def isWritten (options : RenderOptions) (members : Members) (title : Option String)
    (field : Field) : Bool :=
  !hidden options field.uid && title != some field.uid && isFilled options members field

/-- How a field is written in a block. Rich text is quoted line by line, long and multiline text
with one mark in front of it. -/
def QuotesField (options : RenderOptions) (members : Members) (field : Field) (form : String) :
    Prop :=
  ∃ rendered, primitive options field.toFieldInfo (valueOf members field.uid) = .ok rendered ∧
    form = blockFieldLine field.toFieldInfo (valueOf members field.uid) rendered ∧
    (field.isJsonRte = true → form = blockquote rendered.display ∧ IsQuoted form) ∧
    (field.kind = some .text → field.metadata.multiline = true ∨ longText < rendered.display.length →
      form = "> " ++ rendered.display ∧ (IsQuoted form ↔ IsQuotedBelow rendered.display))

theorem quotesField_blockFieldLine {field : Field} {rendered : Json}
    (h : primitive options field.toFieldInfo (valueOf members field.uid) = .ok rendered) :
    QuotesField options members field
      (blockFieldLine field.toFieldInfo (valueOf members field.uid) rendered) := by
  refine ⟨rendered, h, rfl, fun hrte => ?_, fun htext hlong => ?_⟩
  · have hkind : field.kind = some .json := by simp_all [FieldInfo.isJsonRte]
    have hform : blockFieldLine field.toFieldInfo (valueOf members field.uid) rendered =
        blockquote rendered.display := by
      simp [blockFieldLine, hkind, hrte]
    exact ⟨hform, hform ▸ isQuoted_blockquote _⟩
  · have hform : blockFieldLine field.toFieldInfo (valueOf members field.uid) rendered =
        "> " ++ rendered.display := by
      simp [blockFieldLine, htext, FieldInfo.isJsonRte, hlong]
    exact ⟨hform, hform ▸ isQuoted_marked_iff _⟩

/-- The lines of a block are one form for each field that is written, in order, each with an empty
line below it. -/
theorem blockFieldLines_forms {title : Option String} {lines : List String}
    (h : blockFieldLines options members title fields = .ok lines) :
    ∃ forms, List.Forall₂ (QuotesField options members)
        (fields.filter (isWritten options members title)) forms ∧
      lines = forms.flatMap fun form => [form, ""] := by
  induction fields generalizing lines with
  | nil =>
    cases h
    exact ⟨[], .nil, rfl⟩
  | cons field rest ih =>
    rw [blockFieldLines] at h
    rw [List.filter_cons]
    split at h
    · next hleft =>
      have hnot : isWritten options members title field = false := by
        rcases Bool.or_eq_true_iff.1 hleft with hleft | hskipped
        · rcases Bool.or_eq_true_iff.1 hleft with hhidden | htitle
          · simp [isWritten, hhidden]
          · simp [isWritten, bne, htitle]
        · have hempty := (Bool.and_eq_true_iff.1 hskipped).2
          simp [isWritten, isFilled, primitive_of_isEmptyValue hempty, Json.isTruthy]
      rw [hnot]
      exact ih h
    · next hvisible =>
      simp only [Bool.or_eq_true, not_or, Bool.not_eq_true] at hvisible
      obtain ⟨rendered, hrendered, h⟩ := bind_eq_ok h
      obtain ⟨others, hothers, h⟩ := bind_eq_ok h
      obtain ⟨forms, hforms, rfl⟩ := ih hothers
      have hwritten : isWritten options members title field = rendered.isTruthy := by
        simp [isWritten, isFilled, hrendered, hvisible.1.1, bne, hvisible.1.2]
      rw [hwritten]
      cases h
      split
      · exact ⟨_ :: forms, .cons (quotesField_blockFieldLine hrendered) hforms, rfl⟩
      · exact ⟨forms, hforms, rfl⟩

/-- The form of the text of a quotation block. -/
def quoteForm (quote : Json) : String := "> *\"" ++ (quote.display ++ "\"*")

/-- The form of the source of a quotation block. -/
def sourceForm (source : Json) : String := "> — **" ++ (source.display ++ "**")

theorem isQuoted_quoteForm_iff (quote : Json) :
    IsQuoted (quoteForm quote) ↔ IsQuotedBelow quote.display :=
  isQuoted_append_iff "> *\"" _ "\"*" (by decide) (by decide) (by decide) (by decide)

theorem isQuoted_sourceForm_iff (source : Json) :
    IsQuoted (sourceForm source) ↔ IsQuotedBelow source.display :=
  isQuoted_append_iff "> — **" _ "**" (by decide) (by decide) (by decide) (by decide)

/-- How a block is written below its heading. A quotation block has its text and its source, each
with one mark in front of it; a block with fields of its own has one form for each field that is
written, in order, each with an empty line below it. -/
structure QuotesBlock (options : RenderOptions) (block : BlockDefinition) (members : Members)
    (body : List String) : Prop where
  quotation (uid : block.uid = "quote") (filled : (valueOf members "quote_text").isTruthy = true) :
    let quote := valueOf members "quote_text"
    let source := valueOf members "attribution"
    body = quoteForm quote ::
        (if source.isTruthy then [">", sourceForm source, ""] else [""]) ∧
      (IsQuoted (quoteForm quote) ↔ IsQuotedBelow quote.display) ∧
      (IsQuoted (sourceForm source) ↔ IsQuotedBelow source.display)
  fields (plain : block.uid ≠ "quote") (inline : block.isReference = false) :
    ∃ forms, List.Forall₂ (QuotesField options members)
        (block.fields.filter
          (isWritten options members (block.titleField.map fun title => title.uid))) forms ∧
      body = forms.flatMap fun form => [form, ""]

theorem quotesBlock_blockBody {block : BlockDefinition} {payload : Json} {body : List String}
    (h : blockBody options block.uid block payload = .ok body) :
    QuotesBlock options block payload.members body := by
  refine ⟨fun uid filled => ⟨?_, isQuoted_quoteForm_iff _, isQuoted_sourceForm_iff _⟩,
    fun plain inline => ?_⟩
  · rw [blockBody, if_pos uid] at h
    rw [← Except.ok.inj h, quoteLines, if_pos filled]
    congr 1
    split <;> rfl
  · rw [blockBody, if_neg plain, if_neg (by simp [inline])] at h
    exact blockFieldLines_forms h

end Rendering

/-! ## Documents -/

/-- **Quoted text stays inside its quotation where it brings no unmarked lines.** In the document of
an entry a description that is a nonempty text stands with one mark in front of it, and every line
of it is marked just when its lines below the first begin with a mark themselves. The same holds, in
the section of any block, of multiline text, of text longer than a hundred characters, and of the
text and the source of a quotation block. Rich text is marked line by line, whatever it holds. -/
theorem ContentType.render_quotes {contentType : ContentType} {options : RenderOptions}
    {entry : Json} {document : String} (h : contentType.render options entry = .ok document) :
    (∀ description, entry.members.get? options.descriptionField = some (.str description) →
      description ≠ "" → ShowsQuoted description document) ∧
    ∀ level block payload, contentType.HasSection options entry level block payload →
      ∃ body, blockLines options level block.uid block payload =
          .ok (blockHeading block payload.members level :: "" :: body) ∧
        Within (strip (joinWith "\n" (blockHeading block payload.members level :: "" :: body)))
          document ∧
        QuotesBlock options block payload.members body := by
  refine ⟨fun description hvalue hne => ?_, fun level block payload hsection => ?_⟩
  · obtain ⟨fields, -, h⟩ := bind_eq_ok h
    obtain ⟨joined, hjoined, h⟩ := bind_eq_ok h
    cases h
    obtain ⟨texts, htexts, rfl⟩ := joinTexts_eq_ok hjoined
    obtain ⟨above, habove, hfront⟩ := titleLines_cases options entry.members
    have hdescription : descriptionLines options entry.members =
        [.str ("> " ++ description), .str ""] := by
      rw [descriptionLines, textLines, hvalue]
      simp [hne]
    rw [habove, hdescription, eq_comm, List.map_eq_append_iff] at htexts
    obtain ⟨front, below, rfl, hfrontTexts, -⟩ := htexts
    have hfrontEq : front = above ++ ["> " ++ description, ""] :=
      List.map_injective_iff.2 (fun _ _ => Json.str.inj) (by simpa using hfrontTexts)
    rw [hfrontEq, List.append_assoc]
    obtain ⟨c, hc, hblank⟩ := hfront (description ++ ("\n" ++ joinWith "\n" ("" :: below)))
    exact showsQuoted_strip hc hblank
  · obtain ⟨lines, hlines, hwithin⟩ := hsection.within h
    rw [blockLines_eq] at hlines ⊢
    obtain ⟨body, hbody, rfl⟩ := map_eq_ok hlines
    exact ⟨body, by rw [hbody]; rfl, hwithin, quotesBlock_blockBody hbody⟩

/-- A page with a description of two lines and a block with rich text of two paragraphs and a
multiline text of two lines: the rich text is marked in every line, the other texts are not. -/
theorem ContentType.render_quotes_lines :
    let rich : Field :=
      ⟨{ uid := "rich", dataType := some "json", metadata := { allowJsonRte := true } }, [], []⟩
    let note : Field :=
      ⟨{ uid := "note", dataType := some "text", metadata := { multiline := true } }, [], []⟩
    let hero : BlockDefinition := ⟨{ uid := "hero" }, [rich, note]⟩
    let sections : Field := ⟨{ uid := "sections", dataType := some "blocks" }, [], [hero]⟩
    let paragraph (text : String) : Json :=
      .obj [("type", .str "p"), ("children", .arr [.obj [("text", .str text)]])]
    let payload : Json := .obj [("note", .str "x\ny"),
      ("rich", .obj [("type", .str "doc"), ("children", .arr [paragraph "A", paragraph "B"])])]
    let entry : Json :=
      .obj [("meta_description", .str "a\nb"), ("sections", .arr [.obj [("hero", payload)]])]
    ∃ document form other, ContentType.render { fields := [sections] } {} entry = .ok document ∧
      ShowsQuoted "a\nb" document ∧ ¬ IsQuotedBelow "a\nb" ∧
      blockLines {} 3 "hero" hero payload = .ok ["### hero", "", form, "", other, ""] ∧
      IsQuoted form ∧ ¬ IsQuoted other := by
  intro rich note hero sections paragraph payload entry
  have hok : (ContentType.render { fields := [sections] } {} entry).toOption.isSome = true := by
    decide +kernel
  cases hrender : ContentType.render { fields := [sections] } {} entry with
  | error error => simp [hrender, Except.toOption] at hok
  | ok document =>
    obtain ⟨hdescription, hblocks⟩ := render_quotes hrender
    have hsection : ContentType.HasSection {} { fields := [sections] } entry 3 hero payload :=
      ⟨sections, List.mem_cons_self, by decide, by decide, rfl, .item rfl List.mem_cons_self rfl⟩
    obtain ⟨body, hbody, -, hquotes⟩ := hblocks 3 hero payload hsection
    obtain ⟨forms, hforms, rfl⟩ := hquotes.fields (by decide) rfl
    have hwritten : hero.fields.filter (isWritten {} payload.members none) = [rich, note] := by
      have hrich : isWritten {} payload.members none rich = true := by decide +kernel
      have hnote : isWritten {} payload.members none note = true := by decide +kernel
      simp only [hero, List.filter_cons, hrich, hnote]
      rfl
    rw [show (hero.titleField.map fun title => title.uid) = none from rfl, hwritten] at hforms
    obtain ⟨form, rest, ⟨_, -, -, hrich, -⟩, hrest, rfl⟩ := List.forall₂_cons_left_iff.1 hforms
    obtain ⟨other, last, ⟨rendered, hrendered, -, -, hnote⟩, hlast, rfl⟩ :=
      List.forall₂_cons_left_iff.1 hrest
    obtain rfl := List.forall₂_nil_left_iff.1 hlast
    have hvalue : primitive {} note.toFieldInfo (valueOf payload.members note.uid) =
        .ok (.str "x\ny") := rfl
    obtain rfl : Json.str "x\ny" = rendered := Except.ok.inj (hvalue.symm.trans hrendered)
    have hnot : ¬ IsQuotedBelow (Json.str "x\ny").display := by decide +kernel
    exact ⟨document, form, other, rfl, hdescription "a\nb" rfl (by decide), by decide, hbody,
      (hrich rfl).2, fun hother => hnot ((hnote rfl (Or.inl rfl)).2.1 hother)⟩

end ContentModel
