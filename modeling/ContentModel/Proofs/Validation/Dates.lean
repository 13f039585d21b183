import ContentModel.Proofs.Calendar.Timestamp
import ContentModel.Proofs.Validation.Acceptance

/-!
# Dates

Which values a date field accepts, with its bounds and without.

* `Field.accepts_date_iff` says which values are accepted under the key of a date field;
* `Field.accepts_unbounded_iff` says which of the values that a field with bounds accepts it would
  accept without them;
* `Field.accepts_stamp_iff` says that timestamps are compared with the bounds in whole microseconds.
-/

namespace ContentModel

open Json

/-- The texts among a value and, if it is a list, its items have a property. -/
def Json.EachText (P : String → Prop) : Json → Prop
  | .str s => P s
  | .arr items => ∀ s, .str s ∈ items → P s
  | _ => True

/-! ## Date fields -/

namespace FieldInfo

variable {info : FieldInfo} {s : String}

theorem fitsDate_unbounded_iff {value : Json} (hstart : filled? info.startDate = none)
    (hend : filled? info.endDate = none) :
    info.FitsDate value ↔ ∃ s, value = .str s ∧ Iso.isIsoDate s = true := by
  simp only [FitsDate, hstart, hend, and_self, if_true]

theorem FitsDate.isText {value : Json} (h : info.FitsDate value) : value.IsText :=
  h.imp fun _ h => h.1

/-- Of the texts that fit a date field, those with a plain fraction are in the plain form. -/
theorem isIsoDate_iff_of_fitsDate (h : info.FitsDate (.str s)) :
    Iso.isIsoDate s = true ↔ Iso.HasPlainFraction s := by
  obtain ⟨_, heq, h⟩ := h
  cases heq
  split at h
  · exact iff_of_true h (Iso.hasPlainFraction_of_isIsoDate h)
  · exact Iso.isIsoDate_iff_of_isTimestamp h.1

end FieldInfo

namespace Field

variable {mode : Mode} {draft : Bool} {field : Field} {depth : Nat} {checker : Checker}

/-- A value is accepted under the key of a date field if it is null and need not be given, or if it
is a date that fits, or a list of such dates where the field holds several. -/
theorem accepts_date_iff (hkind : field.kind = some .isodate)
    (h : (field.checker mode draft depth).result = .ok checker) (index : Nat) (value : Json) :
    (field.slotWith draft index checker).checker.findings value = [] ↔
      (value = .null ∧ field.mandatory = false) ∨
        if field.multiple = true then value.IsListOf field.FitsDate else field.FitsDate value := by
  have hfits : field.Fits mode = field.FitsDate := by
    funext value
    simp only [FieldInfo.Fits, hkind]
  have hconforms : field.Conforms mode draft value ↔
      if field.multiple = true then value.IsListOf field.FitsDate else field.FitsDate value := by
    rw [conforms_plain_iff (by simp [hkind]) (by simp [hkind]), hfits]
    simp [hkind]
  exact (FieldInfo.tests_slotWith (tests_checker h) index value).trans (or_congr_right hconforms)

/-! ## Without the bounds -/

/-- A field without its date bounds. -/
def unbounded (field : Field) : Field := { field with startDate := none, endDate := none }

theorem events_eq_of_isodate (hkind : field.kind = some .isodate)
    (hdepth : ¬ ContentTypeError.maxDepth < depth) : field.events depth =
      boundEvents field.uid field.startDate ++ boundEvents field.uid field.endDate := by
  obtain ⟨info, fields, blocks⟩ := field
  change info.kind = _ at hkind
  rw [events, if_neg hdepth, hkind]
  simp only [FieldInfo.events, hkind]

/-- A date field that can be built is not too deep, and none of its bounds ends the building. -/
theorem firstError_of_isodate (hkind : field.kind = some .isodate)
    (h : (field.checker mode draft depth).result = .ok checker) :
    ¬ ContentTypeError.maxDepth < depth ∧
      firstError (boundEvents field.uid field.startDate) = none ∧
      firstError (boundEvents field.uid field.endDate) = none := by
  have hnone := firstError_events_eq_none h
  have hdepth : ¬ ContentTypeError.maxDepth < depth := by
    intro hdeep
    obtain ⟨info, fields, blocks⟩ := field
    rw [events, if_pos hdeep] at hnone
    cases hnone
  rw [events_eq_of_isodate hkind hdepth] at hnone
  exact ⟨hdepth, firstError_append_eq_none_iff.1 hnone⟩

/-- **Date bounds narrow a field down but for the fractions of seconds.** A date field that can be
built can be built without its bounds. Of the values accepted with the bounds, those are accepted
without them in which every fraction of a second has three digits or there is none. -/
theorem accepts_unbounded_iff (hkind : field.kind = some .isodate)
    (h : (field.checker mode draft depth).result = .ok checker) :
    ∃ plain, (field.unbounded.checker mode draft depth).result = .ok plain ∧
      ∀ (index : Nat) (value : Json),
        (field.slotWith draft index checker).checker.findings value = [] →
        ((field.unbounded.slotWith draft index plain).checker.findings value = [] ↔
          value.EachText Iso.HasPlainFraction) := by
  obtain ⟨hdepth, -⟩ := firstError_of_isodate hkind h
  have hkind' : field.unbounded.kind = some .isodate := hkind
  have hplain : (field.unbounded.checker mode draft depth).result =
      .ok (field.unbounded.compiled mode draft) := by
    rw [checker_eq_ofEvents, events_eq_of_isodate hkind' hdepth]
    rfl
  refine ⟨_, hplain, fun index value haccepts => ?_⟩
  rw [accepts_date_iff hkind h] at haccepts
  rw [accepts_date_iff hkind' hplain]
  have hfits (value : Json) : field.unbounded.FitsDate value ↔
      ∃ s, value = .str s ∧ Iso.isIsoDate s = true :=
    FieldInfo.fitsDate_unbounded_iff rfl rfl
  have hmultiple : field.unbounded.multiple = field.multiple := rfl
  rw [hmultiple]
  rcases haccepts with ⟨rfl, hmandatory⟩ | haccepts
  · exact iff_of_true (Or.inl ⟨rfl, hmandatory⟩) trivial
  · split at haccepts
    · next hlist =>
      obtain ⟨items, rfl, hitems⟩ := haccepts
      rw [if_pos hlist]
      constructor
      · rintro (⟨hnull, -⟩ | ⟨_, heq, hplain⟩) s hs
        · cases hnull
        · cases heq
          obtain ⟨_, heq, hdate⟩ := (hfits _).1 (hplain _ hs)
          cases heq
          exact (FieldInfo.isIsoDate_iff_of_fitsDate (hitems _ hs)).1 hdate
      · intro htexts
        refine Or.inr ⟨items, rfl, fun item hitem => ?_⟩
        obtain ⟨s, rfl⟩ := (hitems item hitem).isText
        exact (hfits _).2
          ⟨s, rfl, (FieldInfo.isIsoDate_iff_of_fitsDate (hitems _ hitem)).2 (htexts s hitem)⟩
    · next hsingle =>
      rw [if_neg hsingle]
      obtain ⟨s, rfl⟩ := haccepts.isText
      rw [hfits]
      simpa [EachText] using FieldInfo.isIsoDate_iff_of_fitsDate haccepts

/-- A fraction of one digit is accepted with a bound, but not without it. -/
theorem half_second_accepted_only_with_bound :
    let field : Field :=
      ⟨{ uid := "day", dataType := some "isodate", startDate := some "2024-01-01" }, [], []⟩
    ∃ bounded plain : Checker, (field.checker .read false 0).result = .ok bounded ∧
      (field.unbounded.checker .read false 0).result = .ok plain ∧
      (field.slotWith false 0 bounded).checker.findings (.str "2024-06-01T00:00:00.5Z") = [] ∧
      (field.unbounded.slotWith false 0 plain).checker.findings (.str "2024-06-01T00:00:00.5Z")
        ≠ [] :=
  ⟨.timestamp (some ⟨63839664000000000⟩) none, .isoDate, rfl, rfl, rfl, by decide⟩

/-- A fraction of three digits is accepted with a bound, and so without it. -/
theorem accepts_unbounded_iff_milliseconds :
    let field : Field :=
      ⟨{ uid := "day", dataType := some "isodate", startDate := some "2024-01-01" }, [], []⟩
    ∃ bounded plain : Checker, (field.checker .read false 0).result = .ok bounded ∧
      (field.unbounded.checker .read false 0).result = .ok plain ∧
      (field.slotWith false 0 bounded).checker.findings (.str "2024-06-01T00:00:00.500Z") = [] ∧
      (field.unbounded.slotWith false 0 plain).checker.findings (.str "2024-06-01T00:00:00.500Z")
        = [] := by
  intro field
  have hbounded : (field.checker .read false 0).result =
      .ok (.timestamp (some ⟨63839664000000000⟩) none) := rfl
  obtain ⟨plain, hplain, hiff⟩ := accepts_unbounded_iff rfl hbounded
  have hfraction : Iso.HasPlainFraction "2024-06-01T00:00:00.500Z" := by decide
  let bounded : Checker := .timestamp (some ⟨63839664000000000⟩) none
  have haccepts : (field.slotWith false 0 bounded).checker.findings
      (.str "2024-06-01T00:00:00.500Z") = [] := rfl
  exact ⟨_, plain, hbounded, hplain, haccepts, (hiff 0 _ haccepts).2 hfraction⟩

end Field

/-! ## Timestamps within bounds -/

namespace FieldInfo

variable {α : Type} [LE α]

/-- A moment is not before the first date of a field and not after its last one, by a measure of
moments. A bound that names no moment does not count. -/
def InBounds (info : FieldInfo) (measure : ℚ → α) (moment : ℚ) : Prop :=
  (∀ raw first, filled? info.startDate = some raw → Iso.Names raw first →
    measure first ≤ measure moment) ∧
  ∀ raw last, filled? info.endDate = some raw → Iso.Names raw last → measure moment ≤ measure last

end FieldInfo

theorem readInstant_ne_outOfRange {uid raw : String} {bound : Option String}
    (h : firstError (boundEvents uid bound) = none) (hraw : filled? bound = some raw) :
    Iso.readInstant raw ≠ .outOfRange := by
  intro hread
  simp only [boundEvents, hraw, hread] at h
  cases h

/-- What holds of the instant of a bound that can be built holds of the moment that it names, in
whole microseconds. -/
theorem forall_instant_iff {uid : String} {bound : Option String}
    (h : firstError (boundEvents uid bound) = none) (P : ℤ → Prop) :
    (∀ (t : Instant) raw, filled? bound = some raw → Iso.readInstant raw = .instant t →
        P t.micros) ↔
      ∀ raw moment, filled? bound = some raw → Iso.Names raw moment →
        P (Iso.wholeMicroseconds moment) := by
  constructor
  · intro hinstant raw moment hraw hnames
    obtain ⟨t, hread, hmicros⟩ := hnames.exists_readInstant_eq (readInstant_ne_outOfRange h hraw)
    rw [← hmicros]
    exact hinstant t raw hraw hread
  · intro hmoment t raw hraw hread
    obtain ⟨moment, hnames, hmicros, -⟩ := Iso.readInstant_eq_instant_iff.1 hread
    rw [← hmicros]
    exact hmoment raw moment hraw hnames

/-- A timestamp fits a date field with bounds when its moment lies within them, in whole
microseconds. -/
theorem FieldInfo.fitsDate_stamp_iff {info : FieldInfo}
    (hbounds : filled? info.startDate ≠ none ∨ filled? info.endDate ≠ none)
    (hstart : firstError (boundEvents info.uid info.startDate) = none)
    (hend : firstError (boundEvents info.uid info.endDate) = none) (stamp : Iso.Stamp) :
    info.FitsDate (.str stamp.text) ↔ info.InBounds Iso.wholeMicroseconds stamp.moment := by
  have hfirst := forall_instant_iff hstart (· ≤ (stamp.instant.micros : ℤ))
  have hlast := forall_instant_iff hend ((stamp.instant.micros : ℤ) ≤ ·)
  simp only [Nat.cast_le] at hfirst hlast
  have hnot : ¬ (filled? info.startDate = none ∧ filled? info.endDate = none) := by tauto
  simp only [FitsDate, str.injEq, exists_eq_left', if_neg hnot, stamp.isTimestamp_text,
    stamp.readInstant_text, Iso.Reading.instant.injEq, true_and, hfirst, hlast]
  rw [InBounds, stamp.wholeMicroseconds_moment]

namespace Field

variable {mode : Mode} {draft : Bool} {field : Field} {depth : Nat} {checker : Checker}

/-- **Timestamps are compared with date bounds in whole microseconds.** A date field with a bound
accepts a timestamp just when its moment, cut down to whole microseconds, is not before the moment
that the first date names and not after the one that the last date names, each cut down likewise. A
field with several values accepts a list of timestamps under the same condition on each. The
comparison is exact where the moments are whole numbers of microseconds. -/
theorem accepts_stamp_iff (hkind : field.kind = some .isodate)
    (hbounds : filled? field.startDate ≠ none ∨ filled? field.endDate ≠ none)
    (h : (field.checker mode draft depth).result = .ok checker) (index : Nat) :
    (field.multiple = false → ∀ stamp : Iso.Stamp,
      ((field.slotWith draft index checker).checker.findings (.str stamp.text) = [] ↔
        field.InBounds Iso.wholeMicroseconds stamp.moment)) ∧
    (field.multiple = true → ∀ stamps : List Iso.Stamp,
      ((field.slotWith draft index checker).checker.findings
          (.arr (stamps.map fun stamp => .str stamp.text)) = [] ↔
        ∀ stamp ∈ stamps, field.InBounds Iso.wholeMicroseconds stamp.moment)) ∧
    ∀ moment : ℚ, Iso.IsWholeMicroseconds moment →
      (∀ raw bound, filled? field.startDate = some raw ∨ filled? field.endDate = some raw →
        Iso.Names raw bound → Iso.IsWholeMicroseconds bound) →
      (field.InBounds Iso.wholeMicroseconds moment ↔ field.InBounds id moment) := by
  obtain ⟨-, hstart, hend⟩ := firstError_of_isodate hkind h
  have hfits := FieldInfo.fitsDate_stamp_iff hbounds hstart hend
  refine ⟨fun hsingle stamp => ?_, fun hlist stamps => ?_, fun moment hmoment hwhole => ?_⟩
  · rw [accepts_date_iff hkind h, hsingle]
    simp [hfits]
  · rw [accepts_date_iff hkind h, if_pos hlist]
    simp [IsListOf, hfits]
  · refine and_congr ?_ ?_
    · refine forall₄_congr fun raw first hraw hnames => ?_
      exact Iso.wholeMicroseconds_le_iff (hwhole raw first (Or.inl hraw) hnames) hmoment
    · refine forall₄_congr fun raw last hraw hnames => ?_
      exact Iso.wholeMicroseconds_le_iff hmoment (hwhole raw last (Or.inr hraw) hnames)

/-- A tenth of a microsecond after the last date is still accepted. -/
theorem accepts_stamp_after_last :
    let field : Field :=
      ⟨{ uid := "day", dataType := some "isodate", endDate := some "2024-01-01T00:00:00Z" }, [], []⟩
    ∃ (checker : Checker) (stamp : Iso.Stamp) (last : ℚ),
      (field.checker .read false 0).result = .ok checker ∧
      stamp.text = "2024-01-01T00:00:00.0000001Z" ∧
      (field.slotWith false 0 checker).checker.findings (.str stamp.text) = [] ∧
      Iso.Names "2024-01-01T00:00:00Z" last ∧ last < stamp.moment := by
  intro field
  let newYear : Date := ⟨2024, 1, 1, by decide⟩
  let last : Iso.Stamp := .ofDateTime newYear 0 0 0 [] (by decide) nofun
  let late : Iso.Stamp :=
    .ofDateTime newYear 0 0 0 ['0', '0', '0', '0', '0', '0', '1'] (by decide) (List.all_eq_true.1 rfl)
  have hlast : last.text = "2024-01-01T00:00:00Z" := by decide
  have hlate : late.text = "2024-01-01T00:00:00.0000001Z" := by decide
  refine ⟨.timestamp none (some ⟨63839664000000000⟩), late, last.moment, rfl, hlate, ?_, ?_, ?_⟩
  · rw [hlate]
    rfl
  · rw [← hlast]
    exact last.names
  · have hvalue : Text.digitsValue ['0', '0', '0', '0', '0', '0', '1'] = 1 := by decide
    rw [Iso.Stamp.moment_ofDateTime, Iso.Stamp.moment_ofDateTime, Iso.fractionValue,
      Iso.fractionValue, hvalue, Text.digitsValue_nil]
    norm_num

/-- A first date in the west whose day in UTC is the next one: the last microsecond before it is not
accepted, the second that it names is, and not only in whole microseconds. -/
theorem accepts_stamp_iff_first_of_march :
    let field : Field :=
      ⟨{ uid := "day", dataType := some "isodate", startDate := some "2024-02-29T23:30-01:30" },
        [], []⟩
    ∃ (checker : Checker) (early first : Iso.Stamp),
      (field.checker .read false 0).result = .ok checker ∧
      early.text = "2024-03-01T00:59:59.999999Z" ∧ first.text = "2024-03-01T01:00:00Z" ∧
      ¬ field.InBounds Iso.wholeMicroseconds early.moment ∧
      (field.slotWith false 0 checker).checker.findings (.str first.text) = [] ∧
      field.InBounds Iso.wholeMicroseconds first.moment ∧ field.InBounds id first.moment := by
  intro field
  let march : Date := ⟨2024, 3, 1, by decide⟩
  let early : Iso.Stamp :=
    .ofDateTime march 0 59 59 ['9', '9', '9', '9', '9', '9'] (by decide) (List.all_eq_true.1 rfl)
  let first : Iso.Stamp := .ofDateTime march 1 0 0 [] (by decide) nofun
  have hearly : early.text = "2024-03-01T00:59:59.999999Z" := by decide
  have hfirst : first.text = "2024-03-01T01:00:00Z" := by decide
  have hchecker : (field.checker .read false 0).result =
      .ok (.timestamp (some ⟨63844851600000000⟩) none) := rfl
  obtain ⟨hsingle, -, hexact⟩ := accepts_stamp_iff rfl (by simp [field, filled?]) hchecker 0
  let checker : Checker := .timestamp (some ⟨63844851600000000⟩) none
  have haccepts : (field.slotWith false 0 checker).checker.findings (.str first.text) = [] := by
    rw [hfirst]
    rfl
  have hwhole : ∀ raw bound, filled? field.startDate = some raw ∨ filled? field.endDate = some raw →
      Iso.Names raw bound → Iso.IsWholeMicroseconds bound := by
    rintro raw bound (hraw | hraw) ⟨parts, hwritten, hmoment⟩
    · obtain rfl : "2024-02-29T23:30-01:30" = raw := Option.some.inj hraw
      have hparts : Iso.split? "2024-02-29T23:30-01:30" = some
          { year := ['2', '0', '2', '4'], month := ['0', '2'], day := ['2', '9'],
            clock := some (['2', '3'], ['3', '0'], []),
            offset := some (true, ['0', '1'], ['3', '0']) } := rfl
      cases hparts.symm.trans (Iso.split?_eq_some_iff.2 hwritten)
      exact hmoment.isWholeMicroseconds (by decide)
    · cases hraw
  have hbounds := (hsingle rfl first).1 haccepts
  refine ⟨_, early, first, hchecker, hearly, hfirst, ?_, haccepts, hbounds, ?_⟩
  · rw [← hsingle rfl, hearly]
    decide
  · exact (hexact first.moment (first.namesMoment.isWholeMicroseconds (by decide)) hwhole).1 hbounds

end Field

end ContentModel
