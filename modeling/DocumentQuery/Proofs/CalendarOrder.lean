import DocumentQuery.Calendar.DayNumber
import Mathlib.Logic.Function.Iterate
import Mathlib.Order.Monotone.Basic

/-!
# Dates in the order of their days

Day numbers grow with dates, and they count days: the day after a date has the next number.

**Years.** The days of a year lie from its start to the start of the next one
(`daysBeforeYear_le_of_isValid`, `lt_daysBeforeYear_of_isValid`). So the year of a day is found by
comparing the day with the starts of years (`year_ofDayNumber_lt_iff`), without going through
cycles of 400 years.

**Order.** A date comes before another by its year, then its month, then its day. On dates that
exist this is the order of their day numbers (`dayNumber_lt_iff`).

**Counting.** `next` is the day after a date by the lengths of the months alone. `CountsTo` counts
days with it, forwards or backwards, and `countsTo_iff` says that day numbers give that count.

Main results: `year_ofDayNumber_lt_iff`, `dayNumber_lt_iff` and `countsTo_iff`.
-/

namespace DocumentQuery

namespace Date

/-! ## Years -/

theorem daysBeforeYear_mono {y z : Int} (h : y ≤ z) : daysBeforeYear y ≤ daysBeforeYear z := by
  unfold daysBeforeYear
  omega

theorem daysBeforeMonth_thirteen (year : Int) :
    daysBeforeMonth year 13 = if IsLeap year then 366 else 365 := by
  by_cases h : IsLeap year <;> simp [daysBeforeMonth, daysInMonth, h]

/-- A year is over after all of its months. -/
theorem daysBeforeYear_succ (year : Int) :
    daysBeforeYear (year + 1) = daysBeforeYear year + daysBeforeMonth year 13 := by
  rw [daysBeforeMonth_thirteen]
  by_cases h : IsLeap year
  · rw [if_pos h]
    unfold IsLeap at h
    unfold daysBeforeYear
    omega
  · rw [if_neg h]
    unfold IsLeap at h
    unfold daysBeforeYear
    omega

theorem daysBeforeMonth_succ {month : Nat} (year : Int) (h : 1 ≤ month) :
    daysBeforeMonth year (month + 1) = daysBeforeMonth year month + daysInMonth year month := by
  obtain ⟨k, rfl⟩ := Nat.exists_eq_add_of_le' h
  rfl

theorem daysBeforeMonth_mono (year : Int) : Monotone (daysBeforeMonth year) := by
  refine monotone_nat_of_le_succ fun month => ?_
  cases month with
  | zero => exact Nat.le_refl 0
  | succ k => exact Nat.le_add_right _ _

/-- The days up to the end of a month are over when a later month begins. -/
theorem daysBeforeMonth_add_le (year : Int) {m n : Nat} (hm : 1 ≤ m) (h : m < n) :
    daysBeforeMonth year m + daysInMonth year m ≤ daysBeforeMonth year n := by
  rw [← daysBeforeMonth_succ year hm]
  exact daysBeforeMonth_mono year h

variable {d e : Date}

theorem daysBeforeYear_le_of_isValid (hd : d.IsValid) :
    daysBeforeYear d.year ≤ d.dayNumber + epoch := by
  have hday := hd.2.2.1
  unfold dayNumber
  omega

theorem lt_daysBeforeYear_of_isValid (hd : d.IsValid) :
    d.dayNumber + epoch < daysBeforeYear (d.year + 1) := by
  obtain ⟨hmonth, hle, -, hday⟩ := hd
  have hend := daysBeforeMonth_add_le d.year hmonth (show d.month < 13 by omega)
  rw [daysBeforeYear_succ]
  unfold dayNumber
  omega

/-- **A day lies before a year just when it comes before the start of that year.** -/
theorem year_ofDayNumber_lt_iff (n year : Int) :
    (ofDayNumber n).year < year ↔ n + epoch < daysBeforeYear year := by
  have hvalid := isValid_ofDayNumber n
  have hlow := daysBeforeYear_le_of_isValid hvalid
  have hhigh := lt_daysBeforeYear_of_isValid hvalid
  rw [dayNumber_ofDayNumber] at hlow hhigh
  constructor
  · intro h
    exact Int.lt_of_lt_of_le hhigh (daysBeforeYear_mono h)
  · intro h
    refine Int.not_le.1 fun hle => ?_
    have := daysBeforeYear_mono hle
    omega

/-! ## Order -/

/-- The date comes before the other: by year, then by month, then by day. -/
def Before (d e : Date) : Prop :=
  d.year < e.year ∨ d.year = e.year ∧ (d.month < e.month ∨ d.month = e.month ∧ d.day < e.day)

theorem eq_or_before_or_before (d e : Date) : d = e ∨ d.Before e ∨ e.Before d := by
  cases d
  cases e
  simp only [Date.mk.injEq, Before]
  omega

theorem dayNumber_lt_of_before (hd : d.IsValid) (he : e.IsValid) (h : d.Before e) :
    d.dayNumber < e.dayNumber := by
  rcases h with hyear | ⟨hyear, hmonth | ⟨hmonth, hday⟩⟩
  · have hend := lt_daysBeforeYear_of_isValid hd
    have hstart := daysBeforeYear_le_of_isValid he
    have hyears := daysBeforeYear_mono (show d.year + 1 ≤ e.year by omega)
    omega
  · have hend := daysBeforeMonth_add_le e.year hd.1 hmonth
    have hlow := he.2.2.1
    have hhigh := hd.2.2.2
    unfold dayNumber
    rw [hyear] at hhigh ⊢
    omega
  · unfold dayNumber
    rw [hyear, hmonth]
    omega

/-- **Dates that exist are ordered as their day numbers are.** -/
theorem dayNumber_lt_iff (hd : d.IsValid) (he : e.IsValid) :
    d.dayNumber < e.dayNumber ↔ d.Before e := by
  constructor
  · intro h
    rcases eq_or_before_or_before d e with rfl | hbefore | hafter
    · omega
    · exact hbefore
    · have := dayNumber_lt_of_before he hd hafter
      omega
  · exact dayNumber_lt_of_before hd he

theorem eq_of_dayNumber_eq (hd : d.IsValid) (he : e.IsValid) (h : d.dayNumber = e.dayNumber) :
    d = e := by
  rcases eq_or_before_or_before d e with heq | hbefore | hafter
  · exact heq
  · have := dayNumber_lt_of_before hd he hbefore
    omega
  · have := dayNumber_lt_of_before he hd hafter
    omega

/-! ## Counting days -/

/-- The day after. -/
def next (d : Date) : Date :=
  if d.day < daysInMonth d.year d.month then ⟨d.year, d.month, d.day + 1⟩
  else if d.month < 12 then ⟨d.year, d.month + 1, 1⟩
  else ⟨d.year + 1, 1, 1⟩

theorem one_le_daysInMonth (year : Int) (month : Nat) : 1 ≤ daysInMonth year month := by
  unfold daysInMonth
  split
  · split <;> omega
  all_goals omega

theorem isValid_next (hd : d.IsValid) : d.next.IsValid := by
  obtain ⟨hmonth, hle, hday, hlast⟩ := hd
  unfold next
  split
  · next h => exact ⟨hmonth, hle, Nat.le_add_left 1 _, h⟩
  split
  · next h => exact ⟨Nat.le_add_left 1 _, h, Nat.le_refl 1, one_le_daysInMonth _ _⟩
  · exact ⟨Nat.le_refl 1, (by decide : 1 ≤ 12), Nat.le_refl 1, one_le_daysInMonth _ _⟩

/-- The day after has the next number. -/
theorem dayNumber_next (hd : d.IsValid) : d.next.dayNumber = d.dayNumber + 1 := by
  obtain ⟨hmonth, hle, hday, hlast⟩ := hd
  unfold next
  split
  · simp only [dayNumber]
    omega
  split
  · have hsucc := daysBeforeMonth_succ d.year hmonth
    simp only [dayNumber]
    omega
  · -- On the last day of the last month all days of the year are over.
    have hyear := daysBeforeMonth_succ d.year hmonth
    rw [show d.month + 1 = 13 by omega] at hyear
    simp only [dayNumber, daysBeforeYear_succ, show daysBeforeMonth (d.year + 1) 1 = 0 from rfl]
    omega

theorem isValid_iterate_next (hd : d.IsValid) (k : Nat) : (next^[k] d).IsValid :=
  Function.Iterate.rec IsValid hd (fun _ => isValid_next) k

theorem dayNumber_iterate_next (hd : d.IsValid) (k : Nat) :
    (next^[k] d).dayNumber = d.dayNumber + k := by
  induction k with
  | zero => exact (Int.add_zero _).symm
  | succ k ih =>
    rw [Function.iterate_succ_apply', dayNumber_next (isValid_iterate_next hd k), ih]
    omega

/-- So many days after the first date, or before it if the number is negative, comes the second. -/
def CountsTo (d e : Date) (days : Int) : Prop := next^[days.toNat] d = next^[(-days).toNat] e

/-- **Day numbers count the days between two dates.** -/
theorem countsTo_iff (hd : d.IsValid) (he : e.IsValid) (days : Int) :
    CountsTo d e days ↔ d.dayNumber + days = e.dayNumber := by
  have hforth := dayNumber_iterate_next hd days.toNat
  have hback := dayNumber_iterate_next he (-days).toNat
  constructor
  · intro h
    have := congrArg dayNumber h
    omega
  · intro h
    exact eq_of_dayNumber_eq (isValid_iterate_next hd _) (isValid_iterate_next he _) (by omega)

end Date

end DocumentQuery
