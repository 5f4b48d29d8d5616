import DocumentQuery.Calendar.Basic

/-!
# Day numbers and dates correspond

Every day number has a date, and the rule for leap years and the lengths of the months lead back
from the date to the number.

**Years.** A year is one more than so many cycles, centuries, groups of four years and years
(`daysBeforeYear_cycles`), and whether it is a leap year shows in the last three counts
(`isLeap_cycles`). So the days before it add up to the count that `yearOfDay` took apart.

**Months.** Where months begin depends on the year only through the leap rule, so the year 2000
speaks for the leap years and the year 2001 for the others.

Main results: `isValid_ofDayNumber` and `dayNumber_ofDayNumber`.
-/

namespace DocumentQuery

namespace Date

/-! ## Years -/

theorem daysBeforeYear_cycles {a g b f : Int} (hg : 0 ≤ g ∧ g ≤ 3) (hb : 0 ≤ b ∧ b ≤ 24)
    (hf : 0 ≤ f ∧ f ≤ 3) :
    daysBeforeYear (400 * a + 100 * g + 4 * b + f + 1) =
      146097 * a + 36524 * g + 1461 * b + 365 * f := by
  have h4 : (400 * a + 100 * g + 4 * b + f + 1 - 1) / 4 = 100 * a + 25 * g + b := by omega
  have h100 : (400 * a + 100 * g + 4 * b + f + 1 - 1) / 100 = 4 * a + g := by omega
  have h400 : (400 * a + 100 * g + 4 * b + f + 1 - 1) / 400 = a := by omega
  rw [daysBeforeYear, h4, h100, h400]
  omega

theorem isLeap_cycles {a g b f : Int} (hg : 0 ≤ g ∧ g ≤ 3) (hb : 0 ≤ b ∧ b ≤ 24)
    (hf : 0 ≤ f ∧ f ≤ 3) :
    IsLeap (400 * a + 100 * g + 4 * b + f + 1) ↔ f = 3 ∧ (b ≠ 24 ∨ g = 3) := by
  unfold IsLeap
  omega

theorem daysBeforeYear_yearOfDay (n : Int) :
    daysBeforeYear (yearOfDay n).1 + (yearOfDay n).2 = n := by
  simp only [yearOfDay]
  rw [daysBeforeYear_cycles (by omega) (by omega) (by omega)]
  omega

theorem yearOfDay_snd_lt (n : Int) :
    (yearOfDay n).2 < if IsLeap (yearOfDay n).1 then 366 else 365 := by
  by_cases h : IsLeap (yearOfDay n).1
  · rw [if_pos h]
    simp only [yearOfDay] at h ⊢
    omega
  · rw [if_neg h]
    simp only [yearOfDay] at h ⊢
    rw [isLeap_cycles (by omega) (by omega) (by omega)] at h
    omega

/-! ## Months -/

/-- The day of the year lies in this month. -/
def InMonth (year : Int) (dayOfYear month : Nat) : Prop :=
  1 ≤ month ∧ month ≤ 12 ∧ daysBeforeMonth year month ≤ dayOfYear ∧
    dayOfYear < daysBeforeMonth year month + daysInMonth year month

instance (year : Int) (dayOfYear month : Nat) : Decidable (InMonth year dayOfYear month) :=
  inferInstanceAs (Decidable (_ ∧ _ ∧ _ ∧ _))

theorem daysInMonth_congr {y z : Int} (h : IsLeap y ↔ IsLeap z) (month : Nat) :
    daysInMonth y month = daysInMonth z month := by
  unfold daysInMonth
  split <;> simp [h]

theorem daysBeforeMonth_congr {y z : Int} (h : IsLeap y ↔ IsLeap z) :
    ∀ month, daysBeforeMonth y month = daysBeforeMonth z month
  | 0 | 1 => rfl
  | month + 2 => by
    rw [daysBeforeMonth, daysBeforeMonth, daysBeforeMonth_congr h (month + 1), daysInMonth_congr h]

theorem inMonth_congr {y z : Int} (h : IsLeap y ↔ IsLeap z) (dayOfYear : Nat) :
    InMonth y dayOfYear (monthOfDay y dayOfYear) ↔
      InMonth z dayOfYear (monthOfDay z dayOfYear) := by
  simp only [InMonth, monthOfDay, daysBeforeMonth_congr h, daysInMonth_congr h]

theorem inMonth_monthOfDay_leap :
    ∀ dayOfYear < 366, InMonth 2000 dayOfYear (monthOfDay 2000 dayOfYear) := by
  decide +kernel

theorem inMonth_monthOfDay_common :
    ∀ dayOfYear < 365, InMonth 2001 dayOfYear (monthOfDay 2001 dayOfYear) := by
  decide +kernel

/-- Every day of a year lies in the month that is counted for it. -/
theorem inMonth_monthOfDay {year : Int} {dayOfYear : Nat}
    (h : dayOfYear < if IsLeap year then 366 else 365) :
    InMonth year dayOfYear (monthOfDay year dayOfYear) := by
  by_cases hy : IsLeap year
  · rw [if_pos hy] at h
    exact (inMonth_congr (iff_of_true hy (by decide)) _).2 (inMonth_monthOfDay_leap _ h)
  · rw [if_neg hy] at h
    exact (inMonth_congr (iff_of_false hy (by decide)) _).2 (inMonth_monthOfDay_common _ h)

/-! ## Dates -/

/-- The date of a day number exists in the calendar. -/
theorem isValid_ofDayNumber (n : Int) : (ofDayNumber n).IsValid := by
  have hm := inMonth_monthOfDay (yearOfDay_snd_lt (n + epoch))
  simp only [ofDayNumber, IsValid]
  unfold InMonth at hm
  omega

/-- **Counting the days up to the date of a day number gives that number.** -/
theorem dayNumber_ofDayNumber (n : Int) : (ofDayNumber n).dayNumber = n := by
  have hm := inMonth_monthOfDay (yearOfDay_snd_lt (n + epoch))
  have hy := daysBeforeYear_yearOfDay (n + epoch)
  simp only [ofDayNumber, dayNumber]
  unfold InMonth at hm
  omega

end Date

end DocumentQuery
