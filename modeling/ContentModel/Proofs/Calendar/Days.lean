import Mathlib.Order.Monotone.Basic
import ContentModel.Calendar.Instant

/-!
# The days of the calendar

Counting days from the first of January of year 1, and finding the date of a count.

* `Calendar.yearLength` is the number of days of a year; years and months follow one another by
  `Calendar.daysBeforeYear_succ` and `Calendar.daysBeforeMonth_succ`;
* `Date.dayNumber_of_follows` says that the count goes up by one from a date to the next;
* `Date.dayNumber_lt` bounds the count, `Date.exists_dayNumber_eq` says that below the bound the
  date of a count is one that has it.
-/

namespace ContentModel

namespace Calendar

/-! ## Years -/

/-- The number of days of a year. -/
def yearLength (year : Nat) : Nat := if isLeap year then 366 else 365

theorem isLeap_iff {year : Nat} :
    isLeap year = true ↔ year % 4 = 0 ∧ (year % 100 ≠ 0 ∨ year % 400 = 0) := by
  simp [isLeap]

theorem daysBeforeYear_succ {year : Nat} (hyear : 1 ≤ year) :
    daysBeforeYear (year + 1) = daysBeforeYear year + yearLength year := by
  obtain ⟨past, rfl⟩ := Nat.exists_eq_add_of_le' hyear
  have hle : past / 100 ≤ past / 4 := Nat.div_le_div_left (by decide) (by decide)
  have h4 : (past + 1) % 100 = 0 → (past + 1) % 4 = 0 := by omega
  have h100 : (past + 1) % 400 = 0 → (past + 1) % 100 = 0 := by omega
  simp only [daysBeforeYear, yearLength, isLeap_iff, Nat.add_sub_cancel, Nat.succ_div,
    Nat.dvd_iff_mod_eq_zero]
  generalize past / 4 = a at *
  generalize past / 100 = b at *
  generalize past / 400 = c at *
  by_cases hn : (past + 1) % 4 = 0 <;> by_cases hn' : (past + 1) % 100 = 0 <;>
    by_cases hn'' : (past + 1) % 400 = 0 <;> simp only [hn, hn', hn'', true_implies] at h4 h100 <;>
    simp [hn, hn', hn''] <;> omega

theorem daysBeforeYear_mono : Monotone daysBeforeYear := by
  refine monotone_nat_of_le_succ fun year => ?_
  cases year with
  | zero => decide
  | succ year =>
    rw [daysBeforeYear_succ (Nat.succ_pos year)]
    exact Nat.le_add_right _ _

/-- The days before a year that is given by its cycle of 400 years, its century, its cycle of four
years and its place there. -/
theorem daysBeforeYear_eq {cycle century four one : Nat} (hcentury : century ≤ 3)
    (hfour : four ≤ 24) (hone : one ≤ 3) :
    daysBeforeYear (400 * cycle + 100 * century + 4 * four + one + 1) =
      daysPer400Years * cycle + 36524 * century + 1461 * four + 365 * one := by
  simp only [daysBeforeYear, daysPer400Years, Nat.add_sub_cancel]
  have h4 : (400 * cycle + 100 * century + 4 * four + one) / 4 =
      100 * cycle + 25 * century + four := by omega
  have h100 : (400 * cycle + 100 * century + 4 * four + one) / 100 = 4 * cycle + century := by omega
  have h400 : (400 * cycle + 100 * century + 4 * four + one) / 400 = cycle := by omega
  rw [h4, h100, h400]
  omega

/-- The last year of a cycle of four has a day more, but for the last one of a century that is not
the last of its cycle. -/
theorem yearLength_eq {cycle century four one : Nat} (hcentury : century ≤ 3)
    (hfour : four ≤ 24) (hone : one ≤ 3) :
    yearLength (400 * cycle + 100 * century + 4 * four + one + 1) =
      if one = 3 ∧ (four ≠ 24 ∨ century = 3) then 366 else 365 := by
  have h4 : (400 * cycle + 100 * century + 4 * four + one + 1) % 4 = 0 ↔ one = 3 := by omega
  have h100 : (400 * cycle + 100 * century + 4 * four + one + 1) % 100 = 0 ↔
      four = 24 ∧ one = 3 := by omega
  have h400 : (400 * cycle + 100 * century + 4 * four + one + 1) % 400 = 0 ↔
      century = 3 ∧ four = 24 ∧ one = 3 := by omega
  simp only [yearLength, isLeap_iff, Ne, h4, h100, h400]
  refine if_congr ?_ rfl rfl
  omega

/-! ## Months -/

theorem monthLength_le (year month : Nat) : monthLength year month ≤ 31 := by
  unfold monthLength
  split <;> split <;> omega

theorem daysBeforeMonth_succ (year month : Nat) (hmonth : 1 ≤ month) :
    daysBeforeMonth year (month + 1) = daysBeforeMonth year month + monthLength year month := by
  obtain ⟨month, rfl⟩ := Nat.exists_eq_add_of_le' hmonth
  rfl

/-- Twelve months make a year. -/
theorem daysBeforeMonth_thirteen (year : Nat) : daysBeforeMonth year 13 = yearLength year := by
  cases h : isLeap year <;> simp [daysBeforeMonth, monthLength, yearLength, h]

theorem daysBeforeMonth_mono (year : Nat) : Monotone (daysBeforeMonth year) := by
  refine monotone_nat_of_le_succ fun month => ?_
  cases month with
  | zero => exact le_of_eq rfl
  | succ month =>
    rw [daysBeforeMonth_succ year (month + 1) (Nat.succ_pos month)]
    exact Nat.le_add_right _ _

/-- A day of a month is a day of its year. -/
theorem daysBeforeMonth_add_le {year month day : Nat} (hmonth : 1 ≤ month) (hlast : month ≤ 12)
    (hday : day ≤ monthLength year month) :
    daysBeforeMonth year month + day ≤ yearLength year := by
  calc daysBeforeMonth year month + day
      ≤ daysBeforeMonth year (month + 1) := by rw [daysBeforeMonth_succ year month hmonth]; omega
    _ ≤ daysBeforeMonth year 13 := daysBeforeMonth_mono year (by omega)
    _ = yearLength year := daysBeforeMonth_thirteen year

/-- Searching from a month on finds the month and day of a day of the year. -/
theorem monthAndDay_spec {year tries month day : Nat} (hmonth : 1 ≤ month)
    (htries : tries + month = 12)
    (hday : daysBeforeMonth year month + day < yearLength year) :
    let (m, d) := monthAndDay year tries month day
    1 ≤ m ∧ m ≤ 12 ∧ 1 ≤ d ∧ d ≤ monthLength year m ∧
      daysBeforeMonth year m + (d - 1) = daysBeforeMonth year month + day := by
  induction tries generalizing month day with
  | zero =>
    obtain rfl : month = 12 := by omega
    have hlast := daysBeforeMonth_succ year 12 (by omega)
    rw [daysBeforeMonth_thirteen] at hlast
    simp only [monthAndDay]
    omega
  | succ tries ih =>
    simp only [monthAndDay]
    split
    · next hin =>
      simp only
      omega
    · have hnext := daysBeforeMonth_succ year month hmonth
      have hrest := @ih (month + 1) (day - monthLength year month) (by omega)
        (by omega) (by omega)
      simp only at hrest ⊢
      omega

end Calendar

namespace Date

open Calendar

/-! ## The next date -/

/-- A date is the next one after another: the next day of the month, the first day of the next month
after a last day, or the first day of the next year after the last of December. -/
inductive Follows (date next : Date) : Prop
  | day (year_eq : next.year = date.year) (month_eq : next.month = date.month)
      (day_eq : next.day = date.day + 1)
  | month (last : date.day = monthLength date.year date.month) (year_eq : next.year = date.year)
      (month_eq : next.month = date.month + 1) (day_eq : next.day = 1)
  | year (last_month : date.month = 12) (last : date.day = 31) (year_eq : next.year = date.year + 1)
      (month_eq : next.month = 1) (day_eq : next.day = 1)

theorem bounds (date : Date) : (1 ≤ date.year ∧ date.year ≤ 9999) ∧
    (1 ≤ date.month ∧ date.month ≤ 12) ∧
    (1 ≤ date.day ∧ date.day ≤ monthLength date.year date.month) := by
  have h := date.valid
  simp only [isDate, Bool.and_eq_true, decide_eq_true_eq] at h
  omega

theorem dayNumber_of_follows {date next : Date} (h : date.Follows next) :
    next.dayNumber = date.dayNumber + 1 := by
  obtain ⟨⟨hyear, -⟩, ⟨hmonth, -⟩, ⟨hday, -⟩⟩ := date.bounds
  unfold dayNumber
  cases h with
  | day year_eq month_eq day_eq =>
    rw [year_eq, month_eq, day_eq]
    omega
  | month last year_eq month_eq day_eq =>
    rw [year_eq, month_eq, day_eq, daysBeforeMonth_succ _ _ hmonth]
    omega
  | year last_month last year_eq month_eq day_eq =>
    have hdecember := daysBeforeMonth_succ date.year 12 (by omega)
    rw [daysBeforeMonth_thirteen, show monthLength date.year 12 = 31 from rfl] at hdecember
    rw [year_eq, month_eq, day_eq, last_month, last, daysBeforeYear_succ hyear, hdecember]
    simp only [daysBeforeMonth]
    omega

/-- The days before year 10000. -/
theorem dayNumber_lt (date : Date) : date.dayNumber < 3652059 := by
  obtain ⟨⟨hyear, hlast⟩, ⟨hmonth, hmonth'⟩, ⟨hday, hday'⟩⟩ := date.bounds
  have hin := daysBeforeMonth_add_le hmonth hmonth' hday'
  have hnext := daysBeforeYear_succ hyear
  have hend : daysBeforeYear (date.year + 1) ≤ daysBeforeYear 10000 :=
    daysBeforeYear_mono (by omega)
  rw [show daysBeforeYear 10000 = 3652059 from rfl] at hend
  unfold dayNumber
  omega

/-! ## The date of a day number -/

/-- The last of four parts may be longer than the others. -/
theorem min_div_cases (n : Nat) {k : Nat} (hk : 0 < k) :
    ∃ rest, min (n / k) 3 * k + rest = n ∧ (rest < k ∨ min (n / k) 3 = 3) := by
  rcases le_total (n / k) 3 with h | h
  · rw [min_eq_left h]
    exact ⟨n % k, Nat.div_add_mod' n k, Or.inl (Nat.mod_lt n hk)⟩
  · rw [min_eq_right h]
    exact ⟨n - 3 * k, Nat.add_sub_cancel' (Nat.mul_le_of_le_div k 3 n h), Or.inr rfl⟩

/-- The digits of a day number: its cycle of 400 years, its century, its cycle of four years and its
year there, the last ones of which may be a day longer. -/
theorem civil_digits (number : Nat) :
    let cycle := number / daysPer400Years
    let inCycle := number % daysPer400Years
    let century := min (inCycle / 36524) 3
    let inCentury := inCycle - century * 36524
    let four := inCentury / 1461
    let inFour := inCentury % 1461
    let one := min (inFour / 365) 3
    let day := inFour - one * 365
    century ≤ 3 ∧ four ≤ 24 ∧ one ≤ 3 ∧
      daysPer400Years * cycle + 36524 * century + 1461 * four + 365 * one + day = number ∧
      (day < 365 ∨ day = 365 ∧ one = 3 ∧ (four ≠ 24 ∨ century = 3)) := by
  simp only [daysPer400Years]
  have hcycle := Nat.div_add_mod number 146097
  have hin := Nat.mod_lt number (Nat.succ_pos 146096)
  generalize number / 146097 = cycle at *
  generalize number % 146097 = inCycle at *
  have hcentury := min_le_right (inCycle / 36524) 3
  obtain ⟨inCentury, hsum, hlast⟩ := min_div_cases inCycle (k := 36524) (by omega)
  generalize min (inCycle / 36524) 3 = century at *
  subst hsum
  rw [Nat.add_sub_cancel_left]
  have hfour := Nat.div_add_mod inCentury 1461
  have hinFour := Nat.mod_lt inCentury (Nat.succ_pos 1460)
  generalize inCentury / 1461 = four at *
  generalize inCentury % 1461 = inFour at *
  have hone := min_le_right (inFour / 365) 3
  obtain ⟨day, hsum, hlast'⟩ := min_div_cases inFour (k := 365) (by omega)
  generalize min (inFour / 365) 3 = one at *
  subst hsum
  rw [Nat.add_sub_cancel_left]
  omega

/-- Below the bound every day number is that of a date, the one that is found for it. -/
theorem exists_dayNumber_eq {number : Nat} (h : number < 3652059) :
    ∃ date : Date, date.dayNumber = number ∧ civil number = (date.year, date.month, date.day) := by
  have hdigits := civil_digits number
  simp only at hdigits
  unfold civil
  simp only
  generalize number / daysPer400Years = cycle at *
  generalize number % daysPer400Years = inCycle at *
  generalize min (inCycle / 36524) 3 = century at *
  generalize (inCycle - century * 36524) / 1461 = four at *
  generalize (inCycle - century * 36524) % 1461 = inFour at *
  generalize min (inFour / 365) 3 = one at *
  generalize inFour - one * 365 = day at *
  obtain ⟨hcentury, hfour, hone, hsum, hday⟩ := hdigits
  have hlength := @yearLength_eq cycle _ _ _ hcentury hfour hone
  rw [← daysBeforeYear_eq hcentury hfour hone] at hsum
  have hpos : 1 ≤ 400 * cycle + 100 * century + 4 * four + one + 1 := by omega
  have hyear : 400 * cycle + 100 * century + 4 * four + one + 1 ≤ 9999 := by
    by_contra hlate
    have hmono : daysBeforeYear 10000 ≤ _ := daysBeforeYear_mono (Nat.lt_of_not_le hlate)
    rw [show daysBeforeYear 10000 = 3652059 from rfl] at hmono
    omega
  generalize 400 * cycle + 100 * century + 4 * four + one + 1 = year at *
  have hshort : day < yearLength year := by
    rw [hlength]
    split <;> omega
  have hspec := @monthAndDay_spec year 11 1 day le_rfl rfl
    (by rw [show daysBeforeMonth year 1 = 0 from rfl]; omega)
  generalize monthAndDay year 11 1 day = found at *
  obtain ⟨month, dayOfMonth⟩ := found
  simp only [show daysBeforeMonth year 1 = 0 from rfl] at hspec
  obtain ⟨hmonth, hmonth', hfirst, hlast, hplace⟩ := hspec
  have hvalid : isDate year month dayOfMonth = true := by
    simp only [isDate, Bool.and_eq_true, decide_eq_true_eq]
    omega
  refine ⟨⟨year, month, dayOfMonth, hvalid⟩, ?_, rfl⟩
  rw [dayNumber]
  simp only
  omega

end Date

end ContentModel
