import ContentModel.Proofs.Calendar.Stamp

/-!
# Instants and their written forms

What reading an instant and writing it have to do with one another, and what an offset does.

* `Iso.readInstant_text` says that the written form of an instant is read as the instant;
* `Iso.readInstant_append` gives the instant of a date and time of day with an offset by the one
  that is read without it;
* `Iso.readInstant_normal_form` is the main statement, on both.
-/

namespace ContentModel

open Digits

namespace Iso

/-! ## Written instants -/

/-- The digits of a fraction of a second, which are left out if there is none. -/
def microChars (micro : Nat) : List Char := if micro = 0 then [] else padded 6 micro

theorem isAsciiDigit_of_mem_microChars {micro : Nat} {c : Char} (h : c ∈ microChars micro) :
    Text.isAsciiDigit c = true := by
  unfold microChars at h
  split at h
  · cases h
  · exact isAsciiDigit_of_mem_padded h

theorem microseconds_microChars {micro : Nat} (h : micro < 10 ^ 6) :
    microseconds (microChars micro) = micro := by
  unfold microChars
  split
  · next hzero =>
    rw [hzero]
    rfl
  · have hlength := length_padded (by decide) h
    rw [microseconds, List.take_of_length_le hlength.le, digitsValue_padded, hlength]
    exact Nat.mul_one micro

theorem announced_microChars {micro : Nat} (h : micro < 10 ^ 6) :
    announced '.' (microChars micro) = if micro = 0 then [] else '.' :: padded 6 micro := by
  unfold microChars
  split
  · rfl
  · exact announced_of_isRun '.' (isAsciiRun_padded (by decide) h).isRun

/-- An instant of the years 1 to 9999 is that of a date and time of day, which it is written as. -/
theorem exists_stamp {t : Instant} (h : t.micros < Instant.limit) :
    ∃ stamp : Stamp, stamp.instant = t ∧
      t.text.toList = stamp.localChars ++ offsetChars false ['0', '0'] ['0', '0'] true := by
  obtain ⟨date, hnumber, hcivil⟩ := @Date.exists_dayNumber_eq (t.micros / Instant.day)
    (Nat.div_lt_of_lt_mul (by rwa [Instant.limit, Nat.mul_comm] at h))
  have hday := Nat.div_add_mod' t.micros Instant.day
  have hsecond := Nat.div_add_mod' (t.micros % Instant.day) Instant.second
  have hsecondLt : t.micros % Instant.day / Instant.second < 86400 :=
    Nat.div_lt_of_lt_mul (Nat.mod_lt t.micros (show 0 < Instant.day by decide))
  have hmicro : t.micros % Instant.day % Instant.second < 10 ^ 6 := Nat.mod_lt _ (by decide)
  refine ⟨.ofDateTime date (t.micros % Instant.day / Instant.second / 3600)
    (t.micros % Instant.day / Instant.second / 60 % 60)
    (t.micros % Instant.day / Instant.second % 60)
    (microChars (t.micros % Instant.day % Instant.second))
    ⟨by omega, Nat.mod_lt _ (by decide), Nat.mod_lt _ (by decide)⟩
    (fun _ => isAsciiDigit_of_mem_microChars), ?_, ?_⟩
  · have hclock (n : Nat) : n / 3600 * 3600 + n / 60 % 60 * 60 + n % 60 = n := by omega
    rw [Stamp.instant_ofDateTime, microseconds_microChars hmicro, Instant.ofDateTime, hnumber,
      hclock, Nat.add_assoc, hsecond, hday]
  · rw [Instant.text, hcivil, String.toList_ofList]
    simp only [Stamp.localChars, Stamp.ofDateTime, dateChars, Date.isoChars,
      announced_microChars hmicro, List.append_assoc, List.cons_append]
    rfl

/-- The written form of an instant is read as the instant. -/
theorem readInstant_text {t : Instant} (h : t.micros < Instant.limit) :
    readInstant t.text = .instant t := by
  obtain ⟨stamp, rfl, htext⟩ := exists_stamp h
  have hzone : Zone (some (false, ['0', '0'], ['0', '0']))
      (offsetChars false ['0', '0'] ['0', '0'] true) :=
    .offset false true (by decide) (by decide)
  have hzero : Parts.offsetSeconds (some (false, ['0', '0'], ['0', '0'])) = 0 := by decide
  have hwritten := Written.time stamp.writtenLocal hzone
  rw [readInstant_eq_instant_iff_shift]
  refine ⟨{ stamp.parts with offset := some (false, ['0', '0'], ['0', '0']) },
    split?_of_written (htext ▸ hwritten), stamp.instant, stamp.local?_parts, ?_⟩
  exact Instant.shift_eq_some_iff.2 ⟨by rw [Parts.ahead_eq, hzero]; simp, h⟩

/-! ## Offsets -/

variable {p : String} {parts : Parts} {u : Instant} {tail : List Char}
  {offset : Option (Bool × List Char × List Char)}

theorem WrittenLocal.offset_eq {text : List Char} (h : WrittenLocal parts text) :
    parts.offset = none := by
  cases h
  rfl

/-- What is read from a date and time of day with an offset is what is read without it, moved by the
offset. -/
theorem readInstant_append (hwritten : WrittenLocal parts p.toList)
    (hread : readInstant p = .instant u) (hzone : Zone offset tail) :
    readInstant (p ++ String.ofList tail) =
      match u.shift (-(Parts.offsetSeconds offset * 10 ^ 6)) with
      | none => .outOfRange
      | some t => .instant t := by
  have hplain : split? p = some parts := split?_of_written (by
    have := Written.time hwritten .none
    rwa [List.append_nil, ← hwritten.offset_eq] at this)
  have hmoved : split? (p ++ String.ofList tail) = some { parts with offset } :=
    split?_of_written (by simpa using Written.time hwritten hzone)
  obtain ⟨_, hsplit, moment, hlocal, hshift⟩ := readInstant_eq_instant_iff_shift.1 hread
  cases hplain.symm.trans hsplit
  rw [Parts.ahead_eq, hwritten.offset_eq] at hshift
  have hlocal' : ({ parts with offset } : Parts).local? = some u := by
    obtain ⟨hmicros, -⟩ := Instant.shift_eq_some_iff.1 hshift
    obtain rfl : moment = u := by
      cases moment
      cases u
      simpa [Parts.offsetSeconds, eq_comm] using hmicros
    exact hlocal
  cases hshift' : u.shift (-(Parts.offsetSeconds offset * 10 ^ 6)) <;>
    simp only [readInstant, hmoved, hlocal', Parts.ahead_eq, hshift']

/-- **Instants have a normal form, and offsets are taken into account.** The written form of an
instant that is read from some text is read as the same instant. A date and time of day `p` names
the same instant with a `Z` after it; with a signed offset after it, with a colon or without, it
names the instant moved back by the offset, provided that this lies in the years 1 to 9999. So two
texts with offsets that name the same instant are read alike. -/
theorem readInstant_normal_form :
    (∀ (s : String) (t : Instant), readInstant s = .instant t → readInstant t.text = .instant t) ∧
    (∀ (p : String) (parts : Parts) (u : Instant), WrittenLocal parts p.toList →
      readInstant p = .instant u →
      readInstant (p ++ "Z") = .instant u ∧
      ∀ (west colon : Bool) (hours minutes : List Char) (t : Instant), IsRun 2 hours →
        IsRun 2 minutes → t.micros < Instant.limit →
        (t.micros : Int) =
          u.micros - Parts.offsetSeconds (some (west, hours, minutes)) * Instant.second →
        readInstant (p ++ String.ofList (offsetChars west hours minutes colon)) = .instant t) ∧
    ∀ (p p' : String) (parts parts' : Parts) (u u' : Instant) (tail tail' : List Char)
      (offset offset' : Option (Bool × List Char × List Char)), WrittenLocal parts p.toList →
      WrittenLocal parts' p'.toList → readInstant p = .instant u → readInstant p' = .instant u' →
      Zone offset tail → Zone offset' tail' →
      (u.micros : Int) - Parts.offsetSeconds offset * Instant.second =
        u'.micros - Parts.offsetSeconds offset' * Instant.second →
      readInstant (p ++ String.ofList tail) = readInstant (p' ++ String.ofList tail') := by
  have hsecond : (Instant.second : Int) = 10 ^ 6 := rfl
  refine ⟨fun s t h => ?_, fun p parts u hp hu => ⟨?_, ?_⟩, ?_⟩
  · obtain ⟨_, _, _, hlimit⟩ := readInstant_eq_instant_iff.1 h
    exact readInstant_text hlimit
  · obtain ⟨_, _, _, hlimit⟩ := readInstant_eq_instant_iff.1 hu
    have hshift : u.shift (-(Parts.offsetSeconds none * 10 ^ 6)) = some u :=
      Instant.shift_eq_some_iff.2 ⟨by simp [Parts.offsetSeconds], hlimit⟩
    have h := readInstant_append hp hu .utc
    rwa [hshift] at h
  · intro west colon hours minutes t hhours hminutes hlimit ht
    rw [hsecond, sub_eq_add_neg] at ht
    rw [readInstant_append hp hu (.offset west colon hhours hminutes),
      Instant.shift_eq_some_iff.2 ⟨ht, hlimit⟩]
  · intro p p' parts parts' u u' tail tail' offset offset' hp hp' hu hu' hzone hzone' hsame
    have hshift : u.shift (-(Parts.offsetSeconds offset * 10 ^ 6)) =
        u'.shift (-(Parts.offsetSeconds offset' * 10 ^ 6)) := by
      rw [Instant.shift, Instant.shift, ← sub_eq_add_neg, ← sub_eq_add_neg, ← hsecond, hsame]
    rw [readInstant_append hp hu hzone, readInstant_append hp' hu' hzone', hshift]

/-- Half an hour before midnight on a leap day, an hour and a half to the west, is the morning of
the first of March in UTC. -/
theorem readInstant_normal_form_leap_day :
    let p := "2024-02-29T23:30"
    ∃ u t : Instant, readInstant p = .instant u ∧ readInstant (p ++ "Z") = .instant u ∧
      t.text = "2024-03-01T01:00:00+00:00" ∧ readInstant t.text = .instant t ∧
      readInstant (p ++ "-01:30") = .instant t ∧ readInstant (p ++ "-0130") = .instant t ∧
      readInstant (p ++ "-01:30") = readInstant ("2024-03-01 02:45" ++ "+01:45") := by
  intro p
  obtain ⟨hnormal, hoffset, hsame⟩ := readInstant_normal_form
  have hp : WrittenLocal _ "2024-02-29T23:30".toList :=
    @WrittenLocal.intro ['2', '0', '2', '4'] ['0', '2'] ['2', '9'] ['2', '3'] ['3', '0'] [] [] 'T'
      (Or.inl rfl) (by decide)
      (by decide) (Or.inl rfl) nofun
  have hp' : WrittenLocal _ "2024-03-01 02:45".toList :=
    @WrittenLocal.intro ['2', '0', '2', '4'] ['0', '3'] ['0', '1'] ['0', '2'] ['4', '5'] [] [] ' '
      (Or.inr rfl) (by decide)
      (by decide) (Or.inl rfl) nofun
  have hu : readInstant p = .instant ⟨63844846200000000⟩ := by decide
  have hu' : readInstant "2024-03-01 02:45" = .instant ⟨63844857900000000⟩ := by decide
  obtain ⟨hz, hmoved⟩ := hoffset p _ _ hp hu
  have hwest (colon : Bool) := hmoved true colon ['0', '1'] ['3', '0'] ⟨63844851600000000⟩
    (by decide) (by decide) (by decide) (by decide)
  have hwestZone : Zone (some (true, ['0', '1'], ['3', '0'])) ['-', '0', '1', ':', '3', '0'] :=
    .offset true true (by decide) (by decide)
  have heastZone : Zone (some (false, ['0', '1'], ['4', '5'])) ['+', '0', '1', ':', '4', '5'] :=
    .offset false true (by decide) (by decide)
  exact ⟨_, ⟨63844851600000000⟩, hu, hz, by decide, hnormal _ _ (hwest true), hwest true,
    hwest false, hsame _ _ _ _ _ _ _ _ _ _ hp hp' hu hu' hwestZone heastZone (by decide)⟩

end Iso

end ContentModel
