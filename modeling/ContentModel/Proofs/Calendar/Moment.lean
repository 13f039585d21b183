import Mathlib.Algebra.Order.Floor.Ring
import Mathlib.Data.Rat.Floor
import Mathlib.Tactic.FieldSimp
import Mathlib.Tactic.Linarith
import Mathlib.Tactic.Ring
import ContentModel.Proofs.Calendar.Written

/-!
# The moments that texts name

A text of the general form names a moment exactly: a rational number of seconds since the beginning
of year 1, in UTC.

* `Iso.Parts.NamesLocal` reads date and time of day off the parts, `Iso.Names` the moment off a
  text;
* `Iso.readInstant_eq_instant_iff` says that the instant read from a text is the moment that it
  names, cut down to whole microseconds;
* `Iso.Names.unique` says that a text names one moment at most.
-/

namespace ContentModel

namespace Instant

theorem ofMicros?_eq_some_iff {n : Int} {t : Instant} :
    ofMicros? n = some t ↔ (t.micros : Int) = n ∧ t.micros < limit := by
  unfold ofMicros?
  constructor
  · intro h
    split at h
    · next hin =>
      cases h
      simp only
      omega
    · cases h
  · rintro ⟨rfl, hlimit⟩
    rw [if_pos ⟨Int.natCast_nonneg _, by exact_mod_cast hlimit⟩]
    rfl

theorem shift_eq_some_iff {t moved : Instant} {n : Int} :
    t.shift n = some moved ↔ (moved.micros : Int) = t.micros + n ∧ moved.micros < limit :=
  ofMicros?_eq_some_iff

end Instant

namespace Iso

/-! ## Fractions -/

/-- The fraction of a second that a run of digits writes. -/
def fractionValue (run : List Char) : ℚ := Text.digitsValue run / 10 ^ run.length

/-- The whole microseconds of a number of seconds. -/
def wholeMicroseconds (moment : ℚ) : ℤ := ⌊moment * 10 ^ 6⌋

/-- A moment is a whole number of microseconds. -/
def IsWholeMicroseconds (moment : ℚ) : Prop := ∃ n : ℤ, moment * 10 ^ 6 = n

theorem wholeMicroseconds_le_iff {first second : ℚ} (hfirst : IsWholeMicroseconds first)
    (hsecond : IsWholeMicroseconds second) :
    wholeMicroseconds first ≤ wholeMicroseconds second ↔ first ≤ second := by
  obtain ⟨n, hn⟩ := hfirst
  obtain ⟨m, hm⟩ := hsecond
  rw [wholeMicroseconds, wholeMicroseconds, hn, hm, Int.floor_intCast, Int.floor_intCast,
    ← Int.cast_le (R := ℚ), ← hn, ← hm]
  exact mul_le_mul_iff_left₀ (by positivity)

theorem isWholeMicroseconds_fractionValue {run : List Char} (h : run.length ≤ 6) :
    IsWholeMicroseconds (fractionValue run) := by
  refine ⟨Text.digitsValue run * 10 ^ (6 - run.length), ?_⟩
  have hpow : (10 : ℚ) ^ 6 = 10 ^ (6 - run.length) * 10 ^ run.length := by
    rw [← pow_add, Nat.sub_add_cancel h]
  rw [fractionValue, hpow]
  push_cast
  field_simp

/-- The digits after the sixth make less than a microsecond. -/
theorem microseconds_eq_div (run : List Char) :
    microseconds run = Text.digitsValue run * 10 ^ 6 / 10 ^ run.length := by
  have hvalue := Text.digitsValue_append (run.take 6) (run.drop 6)
  have hrest := Text.digitsValue_lt (run.drop 6)
  rw [List.take_append_drop] at hvalue
  rw [microseconds, hvalue]
  simp only [List.length_take, List.length_drop, Nat.pow_eq] at *
  symm
  rcases le_total run.length 6 with hshort | hlong
  · have hzero : Text.digitsValue (run.drop 6) = 0 := by
      simpa [Nat.sub_eq_zero_of_le hshort] using hrest
    have hpow : 10 ^ 6 = 10 ^ (6 - run.length) * 10 ^ run.length := by
      rw [← pow_add, Nat.sub_add_cancel hshort]
    refine Nat.div_eq_of_eq_mul_left (by positivity) ?_
    rw [hzero, Nat.sub_eq_zero_of_le hshort, pow_zero, Nat.mul_one, Nat.add_zero,
      min_eq_right hshort, Nat.mul_assoc, ← hpow]
  · obtain ⟨more, hmore⟩ := Nat.exists_eq_add_of_le hlong
    rw [hmore, Nat.add_sub_cancel_left] at hrest ⊢
    rw [min_eq_left (Nat.le_add_right 6 more), Nat.sub_self, pow_zero, Nat.mul_one, pow_add,
      Nat.mul_comm _ (10 ^ 6), Nat.mul_div_mul_left _ _ (by positivity)]
    exact Nat.div_eq_of_lt_le (by omega) (by rw [Nat.add_mul, Nat.one_mul]; omega)

theorem microseconds_lt (run : List Char) : microseconds run < 10 ^ 6 := by
  rw [microseconds_eq_div, Nat.div_lt_iff_lt_mul (by positivity), Nat.mul_comm]
  exact Nat.mul_lt_mul_of_pos_left (Text.digitsValue_lt run) (by positivity)

theorem microseconds_eq_floor (run : List Char) :
    (microseconds run : Int) = ⌊fractionValue run * 10 ^ 6⌋ := by
  have hfraction : fractionValue run * 10 ^ 6 =
      ((Text.digitsValue run * 10 ^ 6 : Nat) : ℚ) / (10 ^ run.length : Nat) := by
    rw [fractionValue]
    push_cast
    ring
  rw [hfraction, Rat.floor_natCast_div_natCast, microseconds_eq_div]
  rfl

/-! ## Times of day and offsets -/

namespace Parts

variable {parts : Parts}

/-- Hours, minutes and seconds as numbers; those that are not given are zero. -/
def clockNumbers (parts : Parts) : Nat × Nat × Nat :=
  match parts.clock with
  | none => (0, 0, 0)
  | some (hour, minute, second) =>
    (Text.digitsValue hour, Text.digitsValue minute, Text.digitsValue second)

/-- The parts name a date and a time of day, as it is written there. -/
structure NamesLocal (parts : Parts) (date : Date) (hour minute second : Nat) : Prop where
  date_eq : parts.date? = some date
  clock_eq : parts.clockNumbers = (hour, minute, second)
  clock_lt : hour < 24 ∧ minute < 60 ∧ second < 60

theorem local?_eq_some_iff {t : Instant} :
    parts.local? = some t ↔ ∃ date hour minute second,
      parts.NamesLocal date hour minute second ∧
        t = .ofDateTime date hour minute second (microseconds parts.fraction) := by
  have hlocal : parts.local? = parts.date?.bind fun date =>
      let clock := parts.clockNumbers
      if clock.1 < 24 ∧ clock.2.1 < 60 ∧ clock.2.2 < 60 then
        some (.ofDateTime date clock.1 clock.2.1 clock.2.2 (microseconds parts.fraction))
      else none := rfl
  rw [hlocal, Option.bind_eq_some_iff]
  constructor
  · rintro ⟨date, hdate, h⟩
    dsimp only at h
    split at h
    · next hclock =>
      cases h
      exact ⟨date, _, _, _, ⟨hdate, rfl, hclock⟩, rfl⟩
    · cases h
  · rintro ⟨date, hour, minute, second, ⟨hdate, hclock, hlt⟩, rfl⟩
    refine ⟨date, hdate, ?_⟩
    rw [hclock]
    exact if_pos hlt

/-- The seconds by which a signed offset is ahead of UTC. -/
def offsetSeconds : Option (Bool × List Char × List Char) → Int
  | none => 0
  | some (west, hours, minutes) =>
    (if west then -1 else 1) * (Text.digitsValue hours * 3600 + Text.digitsValue minutes * 60)

theorem ahead_eq (parts : Parts) : parts.ahead = offsetSeconds parts.offset * 10 ^ 6 := by
  unfold ahead offsetSeconds
  cases parts.offset with
  | none => rfl
  | some offset =>
    obtain ⟨west, hours, minutes⟩ := offset
    cases west <;> simp [Instant.second] <;> ring

/-- The parts name a moment, exactly: seconds since the beginning of year 1, in UTC. -/
def NamesMoment (parts : Parts) (moment : ℚ) : Prop :=
  ∃ date hour minute second, parts.NamesLocal date hour minute second ∧
    moment = date.dayNumber * 86400 + hour * 3600 + minute * 60 + second +
      fractionValue parts.fraction - offsetSeconds parts.offset

theorem NamesMoment.unique {first second : ℚ} (h : parts.NamesMoment first)
    (h' : parts.NamesMoment second) : first = second := by
  obtain ⟨_, _, _, _, hlocal, rfl⟩ := h
  obtain ⟨_, _, _, _, hlocal', rfl⟩ := h'
  cases Option.some.inj (hlocal.date_eq.symm.trans hlocal'.date_eq)
  cases hlocal.clock_eq.symm.trans hlocal'.clock_eq
  rfl

/-- In a moment, only the fraction of the second may be less than a microsecond. -/
theorem moment_mul (date : Date) (hour minute second : Nat) (parts : Parts) :
    (date.dayNumber * 86400 + hour * 3600 + minute * 60 + second +
        fractionValue parts.fraction - offsetSeconds parts.offset : ℚ) * 10 ^ 6 =
      (((date.dayNumber * 86400 + hour * 3600 + minute * 60 + second -
        offsetSeconds parts.offset) * 10 ^ 6 : ℤ) : ℚ) +
        fractionValue parts.fraction * 10 ^ 6 := by
  push_cast
  ring

/-- A moment whose fraction has six digits at most is a whole number of microseconds. -/
theorem NamesMoment.isWholeMicroseconds {moment : ℚ} (h : parts.NamesMoment moment)
    (hshort : parts.fraction.length ≤ 6) : IsWholeMicroseconds moment := by
  obtain ⟨date, hour, minute, second, -, rfl⟩ := h
  obtain ⟨micros, hmicros⟩ := isWholeMicroseconds_fractionValue hshort
  exact ⟨_, by rw [moment_mul, hmicros, ← Int.cast_add]⟩

/-- The moment of a date and time of day, in whole microseconds. -/
theorem wholeMicroseconds_moment (date : Date) (hour minute second : Nat) (parts : Parts) :
    wholeMicroseconds (date.dayNumber * 86400 + hour * 3600 + minute * 60 + second +
        fractionValue parts.fraction - offsetSeconds parts.offset) =
      (Instant.ofDateTime date hour minute second (microseconds parts.fraction)).micros -
        parts.ahead := by
  rw [wholeMicroseconds, moment_mul, Int.floor_intCast_add, ← microseconds_eq_floor, ahead_eq]
  simp only [Instant.ofDateTime, Instant.day, Instant.second]
  push_cast
  ring

end Parts

/-! ## Moments and instants -/

/-- A text names a moment, exactly: without the blanks around it, it is written from parts that name
the moment. -/
def Names (text : String) (moment : ℚ) : Prop :=
  ∃ parts, Written parts (Text.trimChars Text.isBlank text.toList) ∧ parts.NamesMoment moment

variable {text : String}

theorem Names.unique {first second : ℚ} (h : Names text first) (h' : Names text second) :
    first = second := by
  obtain ⟨parts, hparts, hmoment⟩ := h
  obtain ⟨other, hother, hmoment'⟩ := h'
  rw [← splitChars?_eq_some_iff] at hparts hother
  obtain rfl := Option.some.inj (hparts.symm.trans hother)
  exact hmoment.unique hmoment'

/-- An instant is read from the parts of a text, and moved by its offset. -/
theorem readInstant_eq_instant_iff_shift {t : Instant} :
    readInstant text = .instant t ↔ ∃ parts, split? text = some parts ∧
      ∃ moment, parts.local? = some moment ∧ moment.shift (-parts.ahead) = some t := by
  unfold readInstant
  cases split? text with
  | none => simp
  | some parts =>
    cases hlocal : parts.local? with
    | none => simp [hlocal]
    | some moment =>
      cases hshift : moment.shift (-parts.ahead) <;> simp [hlocal, hshift]

/-- **The instant of a text** is the moment that it names, cut down to whole microseconds, provided
that this lies in the years 1 to 9999. -/
theorem readInstant_eq_instant_iff {t : Instant} :
    readInstant text = .instant t ↔
      ∃ moment, Names text moment ∧ wholeMicroseconds moment = t.micros ∧
        t.micros < Instant.limit := by
  rw [readInstant_eq_instant_iff_shift]
  constructor
  · rintro ⟨parts, hsplit, _, hlocal, hshift⟩
    obtain ⟨date, hour, minute, second, hnames, rfl⟩ := Parts.local?_eq_some_iff.1 hlocal
    obtain ⟨hmicros, hlimit⟩ := Instant.shift_eq_some_iff.1 hshift
    refine ⟨_, ⟨parts, split?_eq_some_iff.1 hsplit, date, hour, minute, second, hnames, rfl⟩, ?_,
      hlimit⟩
    rw [Parts.wholeMicroseconds_moment, hmicros, sub_eq_add_neg]
  · rintro ⟨_, ⟨parts, hwritten, date, hour, minute, second, hnames, rfl⟩, hfloor, hlimit⟩
    rw [Parts.wholeMicroseconds_moment] at hfloor
    refine ⟨parts, split?_eq_some_iff.2 hwritten, _,
      Parts.local?_eq_some_iff.2 ⟨date, hour, minute, second, hnames, rfl⟩, ?_⟩
    rw [Instant.shift_eq_some_iff, ← sub_eq_add_neg]
    exact ⟨hfloor.symm, hlimit⟩

/-- A text that names a moment names an instant, unless its offset leads out of the years 1 to
9999. -/
theorem Names.exists_readInstant_eq {moment : ℚ} (h : Names text moment)
    (hrange : readInstant text ≠ .outOfRange) :
    ∃ t, readInstant text = .instant t ∧ (t.micros : Int) = wholeMicroseconds moment := by
  obtain ⟨parts, hwritten, date, hour, minute, second, hnames, rfl⟩ := h
  have hsplit := split?_eq_some_iff.2 hwritten
  have hlocal := Parts.local?_eq_some_iff.2 ⟨date, hour, minute, second, hnames, rfl⟩
  cases hshift : (Instant.ofDateTime date hour minute second
      (microseconds parts.fraction)).shift (-parts.ahead) with
  | none =>
    refine absurd ?_ hrange
    simp [readInstant, hsplit, hlocal, hshift]
  | some t =>
    refine ⟨t, readInstant_eq_instant_iff_shift.2 ⟨parts, hsplit, _, hlocal, hshift⟩, ?_⟩
    rw [Parts.wholeMicroseconds_moment, (Instant.shift_eq_some_iff.1 hshift).1, sub_eq_add_neg]

end Iso

end ContentModel
