import DocumentQuery.Calendar.Basic
import DocumentQuery.Text.Digits

/-!
# Instants

An `Instant` is a point of time in UTC, kept as milliseconds since the start of 1970. A
`Timestamp` is finer, with seconds and nanoseconds, and can lie in a leap second.

**Representable instants.** The calendar is used for the years -262143 to 262142. An instant
outside them has no date, and no timestamp.

**ISO text.** Year, month, day and time of day with three decimals of the second, ending in `Z`.
A year from 0 to 9999 has four digits, any other year has a sign and at least four digits.

**Leap seconds.** Within a leap second the nanoseconds of a timestamp run on past a full second,
while its seconds stay at the last second of the minute.
-/

namespace DocumentQuery

/-- Milliseconds since the start of 1970, in UTC. -/
structure Instant where
  millis : Int64
  deriving DecidableEq, Repr

/-- Seconds since the start of 1970 and nanoseconds from there, in UTC. -/
structure Timestamp where
  seconds : Int
  nanos : Nat
  seconds_ge : -8334601228800 ≤ seconds
  seconds_le : seconds ≤ 8210266876799
  nanos_lt : nanos < 1000000000 ∨ (nanos < 2000000000 ∧ seconds % 60 = 59)
  deriving DecidableEq, Repr

namespace Timestamp

/-- The timestamp of these seconds and nanoseconds, if there is one. -/
def ofParts? (seconds : Int) (nanos : Nat) : Option Timestamp :=
  if h : (-8334601228800 ≤ seconds ∧ seconds ≤ 8210266876799) ∧
      (nanos < 1000000000 ∨ (nanos < 2000000000 ∧ seconds % 60 = 59)) then
    some ⟨seconds, nanos, h.1.1, h.1.2, h.2⟩
  else none

/-- The instant of a timestamp, without what is finer than a millisecond. -/
def toInstant (t : Timestamp) : Instant :=
  ⟨Int64.ofInt (t.seconds * 1000 + (t.nanos / 1000000 : Nat))⟩

end Timestamp

/-- The time within a day. -/
structure TimeOfDay where
  hour : Nat
  minute : Nat
  second : Nat
  milli : Nat
  deriving DecidableEq, Repr

namespace TimeOfDay

/-- The time this many milliseconds after midnight. -/
def ofMillis (m : Nat) : TimeOfDay := ⟨m / 3600000, m / 60000 % 60, m / 1000 % 60, m % 1000⟩

/-- The milliseconds since midnight. -/
def toMillis (t : TimeOfDay) : Nat :=
  t.hour * 3600000 + t.minute * 60000 + t.second * 1000 + t.milli

theorem toMillis_ofMillis (m : Nat) : (ofMillis m).toMillis = m := by
  simp only [toMillis, ofMillis]; omega

end TimeOfDay

namespace Instant

/-- The start of 1970. -/
def epoch : Instant := ⟨0⟩

/-- The instant as a whole number of milliseconds. -/
def toInt (t : Instant) : Int := t.millis.toInt

theorem eq_of_toInt_eq {t u : Instant} (h : t.toInt = u.toInt) : t = u := by
  cases t
  cases u
  exact congrArg mk (Int64.toInt_inj.1 h)

/-- The instant lies in the years for which dates are given. -/
def IsRepresentable (t : Instant) : Prop :=
  -8334601228800000 ≤ t.toInt ∧ t.toInt ≤ 8210266876799999

instance (t : Instant) : Decidable t.IsRepresentable := inferInstanceAs (Decidable (_ ∧ _))

def toTimestamp? (t : Instant) : Option Timestamp :=
  if h : t.IsRepresentable then
    some {
      seconds := t.toInt / 1000
      nanos := (t.toInt % 1000).toNat * 1000000
      seconds_ge := by have := h.1; omega
      seconds_le := by have := h.2; omega
      nanos_lt := by omega }
  else none

/-- The day on which the instant lies. -/
def date (t : Instant) : Date := Date.ofDayNumber (t.toInt / 86400000)

/-- The time of that day. -/
def timeOfDay (t : Instant) : TimeOfDay := TimeOfDay.ofMillis (t.toInt % 86400000).toNat

/-- The year of an ISO text. -/
def writeYear (year : Int) : List Char :=
  if 0 ≤ year ∧ year ≤ 9999 then Text.padded 4 year.toNat
  else (if year < 0 then '-' else '+') :: Text.padded 4 year.natAbs

/-- The ISO text of a date and a time. -/
def writeIso (d : Date) (t : TimeOfDay) : List Char :=
  writeYear d.year ++ '-' :: Text.padded 2 d.month ++ '-' :: Text.padded 2 d.day ++
    'T' :: Text.padded 2 t.hour ++ ':' :: Text.padded 2 t.minute ++ ':' :: Text.padded 2 t.second ++
    '.' :: Text.padded 3 t.milli ++ ['Z']

/-- The ISO text of a representable instant. -/
def iso? (t : Instant) : Option (List Char) :=
  if t.IsRepresentable then some (writeIso t.date t.timeOfDay) else none

/-- The ISO text, or the bare milliseconds of an instant that has none. -/
def write (t : Instant) : List Char :=
  t.iso?.getD ("DateTime(".toList ++ Text.signed t.toInt ++ [')'])

/-- The instant lies in one of the years 1970 to 9999. -/
def IsModern (t : Instant) : Prop :=
  t.IsRepresentable ∧ 1970 ≤ t.date.year ∧ t.date.year ≤ 9999

instance (t : Instant) : Decidable t.IsModern := inferInstanceAs (Decidable (_ ∧ _ ∧ _))

/-- The instants in order of time. -/
def sorted (ts : List Instant) : List Instant := ts.mergeSort fun a b => a.toInt ≤ b.toInt

end Instant

end DocumentQuery
