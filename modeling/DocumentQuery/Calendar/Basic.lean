/-!
# The Gregorian calendar

Dates of the Gregorian calendar, extended to all years, and their correspondence with day numbers.

**Day numbers.** Day 0 is 1 January 1970. `Date.dayNumber` counts the days before a date by the
rule for leap years and the lengths of the months.

**Dates.** `Date.ofDayNumber` goes the other way. Counted from the year 1, a cycle of 400 years has
146097 days, a century 36524, four years 1461 and a year 365; in each cycle the last century, and
in each four years the last year, is one day longer, so these two counts stop at three.
-/

namespace DocumentQuery

/-- A day of the calendar. The year 0 is the one before the year 1. -/
structure Date where
  year : Int
  month : Nat
  day : Nat
  deriving DecidableEq, Repr

namespace Date

/-- Every fourth year is a leap year, but of the full centuries only every fourth. -/
def IsLeap (year : Int) : Prop := year % 4 = 0 ∧ (year % 100 ≠ 0 ∨ year % 400 = 0)

instance (year : Int) : Decidable (IsLeap year) := inferInstanceAs (Decidable (_ ∧ _))

def daysInMonth (year : Int) : Nat → Nat
  | 2 => if IsLeap year then 29 else 28
  | 4 | 6 | 9 | 11 => 30
  | _ => 31

/-- The month and the day exist. -/
def IsValid (d : Date) : Prop :=
  1 ≤ d.month ∧ d.month ≤ 12 ∧ 1 ≤ d.day ∧ d.day ≤ daysInMonth d.year d.month

instance (d : Date) : Decidable d.IsValid := inferInstanceAs (Decidable (_ ∧ _ ∧ _ ∧ _))

/-- The days from the start of the year 1 to the start of `year`. -/
def daysBeforeYear (year : Int) : Int :=
  365 * (year - 1) + (year - 1) / 4 - (year - 1) / 100 + (year - 1) / 400

/-- The days from the start of the year to the start of `month`. -/
def daysBeforeMonth (year : Int) : Nat → Nat
  | 0 | 1 => 0
  | month + 2 => daysBeforeMonth year (month + 1) + daysInMonth year (month + 1)

/-- The days from the start of the year 1 to 1 January 1970. -/
def epoch : Int := daysBeforeYear 1970

/-- The days from 1 January 1970 to the date, negative before it. -/
def dayNumber (d : Date) : Int :=
  daysBeforeYear d.year + daysBeforeMonth d.year d.month + d.day - 1 - epoch

/-- The year of a day counted from the start of the year 1, and the days before it in that year. -/
def yearOfDay (n : Int) : Int × Nat :=
  let inCycle := n % 146097
  let centuries := min (inCycle / 36524) 3
  let inCentury := inCycle - 36524 * centuries
  let inFourYears := inCentury % 1461
  let years := min (inFourYears / 365) 3
  (400 * (n / 146097) + 100 * centuries + 4 * (inCentury / 1461) + years + 1,
    (inFourYears - 365 * years).toNat)

/-- The month in which a day of the year lies: as many months as have begun by then. -/
def monthOfDay (year : Int) (dayOfYear : Nat) : Nat :=
  ((List.range' 1 12).filter fun month => daysBeforeMonth year month ≤ dayOfYear).length

/-- The date of a day number. -/
def ofDayNumber (n : Int) : Date :=
  let (year, dayOfYear) := yearOfDay (n + epoch)
  let month := monthOfDay year dayOfYear
  ⟨year, month, dayOfYear - daysBeforeMonth year month + 1⟩

end Date

end DocumentQuery
