import DocumentQuery.Instant

/-!
# Instants are timestamps cut to the millisecond

An instant keeps of a timestamp what is not finer than a millisecond, and it is cut towards the
past, also before 1970.

**Milliseconds.** Each representable instant is that of exactly one timestamp of whole milliseconds
outside the leap seconds, which is the one that it is turned into (`toTimestamp?_eq_some_iff`).

**Cutting.** Outside the leap seconds, the instant of a timestamp is the last one that is not after
it (`le_toInstant_iff`).

**Leap seconds.** The milliseconds of a leap second are counted on into the next second, and so two
timestamps are put out of order just when the first lies in a leap second, the other one in the
second that follows, and fewer milliseconds of it have passed (`toInstant_lt_iff_of_lt`). In the
last second of the calendar there is no next one, and the instant is not representable.

Main results: `toTimestamp?_eq_some_iff` and `toInstant_truncates`.
-/

namespace DocumentQuery

namespace Timestamp

/-- The timestamp lies in a leap second. -/
def IsLeap (t : Timestamp) : Prop := 1000000000 ≤ t.nanos

/-- Timestamps are ordered by their seconds, and within a second by their nanoseconds. -/
instance : LT Timestamp :=
  ⟨fun s t => s.seconds < t.seconds ∨ s.seconds = t.seconds ∧ s.nanos < t.nanos⟩

instance : LE Timestamp :=
  ⟨fun s t => s.seconds < t.seconds ∨ s.seconds = t.seconds ∧ s.nanos ≤ t.nanos⟩

variable {s t : Timestamp}

theorem lt_def : s < t ↔ s.seconds < t.seconds ∨ s.seconds = t.seconds ∧ s.nanos < t.nanos :=
  Iff.rfl

theorem le_def : s ≤ t ↔ s.seconds < t.seconds ∨ s.seconds = t.seconds ∧ s.nanos ≤ t.nanos :=
  Iff.rfl

theorem eq_iff : s = t ↔ s.seconds = t.seconds ∧ s.nanos = t.nanos := by
  cases s
  cases t
  rw [mk.injEq]

theorem nanos_lt_of_not_isLeap (h : ¬ t.IsLeap) : t.nanos < 1000000000 := Nat.lt_of_not_le h

/-! ## The instant of a timestamp -/

/-- The milliseconds of a timestamp are far within 64 bits. -/
theorem toInt_toInstant (t : Timestamp) :
    t.toInstant.toInt = t.seconds * 1000 + (t.nanos / 1000000 : Nat) := by
  have hge := t.seconds_ge
  have hle := t.seconds_le
  have hlt := t.nanos_lt
  exact Int64.toInt_ofInt_of_le (by omega) (by omega)

/-- Only the end of the last leap second leaves the calendar. -/
theorem isRepresentable_toInstant_iff :
    t.toInstant.IsRepresentable ↔ ¬ (t.IsLeap ∧ t.seconds = 8210266876799) := by
  have hge := t.seconds_ge
  have hle := t.seconds_le
  have hlt := t.nanos_lt
  rw [Instant.IsRepresentable, toInt_toInstant, IsLeap]
  omega

end Timestamp

namespace Instant

variable {m : Instant} {s t : Timestamp}

/-! ## The timestamp of an instant -/

theorem toTimestamp?_eq_none_iff : m.toTimestamp? = none ↔ ¬ m.IsRepresentable := by
  unfold toTimestamp?
  split <;> simp_all

theorem exists_toTimestamp? (h : m.IsRepresentable) : ∃ s, m.toTimestamp? = some s :=
  Option.ne_none_iff_exists'.1 fun hnone => toTimestamp?_eq_none_iff.1 hnone h

/-- **The timestamp of an instant is the one of whole milliseconds**, outside the leap seconds,
whose instant it is. -/
theorem toTimestamp?_eq_some_iff :
    m.toTimestamp? = some s ↔ s.toInstant = m ∧ ¬ s.IsLeap ∧ 1000000 ∣ s.nanos := by
  constructor
  · intro h
    unfold toTimestamp? at h
    split at h
    · obtain rfl := Option.some.inj h
      refine ⟨eq_of_toInt_eq ?_, ?_, ?_⟩
      · rw [Timestamp.toInt_toInstant]
        show m.toInt / 1000 * 1000 + ((m.toInt % 1000).toNat * 1000000 / 1000000 : Nat) = m.toInt
        omega
      · show ¬ 1000000000 ≤ (m.toInt % 1000).toNat * 1000000
        omega
      · exact Nat.dvd_mul_left _ _
    · exact nomatch h
  · rintro ⟨rfl, hleap, hwhole⟩
    have hrange : s.toInstant.IsRepresentable :=
      Timestamp.isRepresentable_toInstant_iff.2 fun h => hleap h.1
    have hnanos := Timestamp.nanos_lt_of_not_isLeap hleap
    have hmillis := s.toInt_toInstant
    rw [toTimestamp?, dif_pos hrange, Option.some.injEq, Timestamp.eq_iff]
    constructor
    · show s.toInstant.toInt / 1000 = s.seconds
      omega
    · show (s.toInstant.toInt % 1000).toNat * 1000000 = s.nanos
      omega

/-- **Cutting finds the last instant that is not later**, outside the leap seconds. -/
theorem le_toInstant_iff (h : m.toTimestamp? = some s) (ht : ¬ t.IsLeap) :
    m.toInt ≤ t.toInstant.toInt ↔ s ≤ t := by
  obtain ⟨rfl, hleap, hwhole⟩ := toTimestamp?_eq_some_iff.1 h
  have hs := Timestamp.nanos_lt_of_not_isLeap hleap
  have ht := Timestamp.nanos_lt_of_not_isLeap ht
  rw [s.toInt_toInstant, t.toInt_toInstant, Timestamp.le_def]
  omega

end Instant

namespace Timestamp

/-- **Order is lost from a leap second to the next second only.** -/
theorem toInstant_lt_iff_of_lt {a b : Timestamp} (h : a < b) :
    b.toInstant.toInt < a.toInstant.toInt ↔
      a.IsLeap ∧ b.seconds = a.seconds + 1 ∧
        b.nanos / 1000000 < (a.nanos - 1000000000) / 1000000 := by
  have ha := a.nanos_lt
  rw [lt_def] at h
  rw [a.toInt_toInstant, b.toInt_toInstant, IsLeap]
  omega

/-- **The instant of a timestamp is the timestamp cut to the millisecond, except in leap seconds.**
A representable instant has a timestamp, of which it is the instant, and outside the leap seconds
the instants up to that of a timestamp are those whose timestamps are not later. The timestamps
that come back are those of whole milliseconds outside the leap seconds, and none comes back at all
for a leap second at the end of the calendar. The instants of two timestamps are out of order just
when the earlier one lies in a leap second and the other one earlier in the second after it. -/
theorem toInstant_truncates :
    (∀ m : Instant, m.IsRepresentable →
      ∃ s, m.toTimestamp? = some s ∧ s.toInstant = m ∧
        ∀ t : Timestamp, t.nanos < 1000000000 → (m.toInt ≤ t.toInstant.toInt ↔ s ≤ t)) ∧
    (∀ t : Timestamp,
      (t.toInstant.toTimestamp? = some t ↔ t.nanos < 1000000000 ∧ 1000000 ∣ t.nanos) ∧
      (t.toInstant.toTimestamp? = none ↔ 1000000000 ≤ t.nanos ∧ t.seconds = 8210266876799)) ∧
    ∀ a b : Timestamp, a < b →
      (b.toInstant.toInt < a.toInstant.toInt ↔
        1000000000 ≤ a.nanos ∧ b.seconds = a.seconds + 1 ∧
          b.nanos / 1000000 < (a.nanos - 1000000000) / 1000000) := by
  refine ⟨fun m hm => ?_, fun t => ⟨?_, ?_⟩, fun a b hab => toInstant_lt_iff_of_lt hab⟩
  · obtain ⟨s, hs⟩ := Instant.exists_toTimestamp? hm
    refine ⟨s, hs, (Instant.toTimestamp?_eq_some_iff.1 hs).1, fun t ht => ?_⟩
    exact Instant.le_toInstant_iff hs (Nat.not_le_of_lt ht)
  · rw [Instant.toTimestamp?_eq_some_iff, IsLeap, Nat.not_le]
    exact and_iff_right rfl
  · rw [Instant.toTimestamp?_eq_none_iff, isRepresentable_toInstant_iff, Classical.not_not]
    exact Iff.rfl

/-- The last nanosecond before 1970. -/
def lastOf1969 : Timestamp := ⟨-1, 999999999, by decide, by decide, by decide⟩

/-- Half a second into the leap second at the end of 2016. -/
def leapSecond2016 : Timestamp := ⟨1483228799, 1500000000, by decide, by decide, by decide⟩

/-- A quarter of a second into the year 2017. -/
def newYear2017 : Timestamp := ⟨1483228800, 250000000, by decide, by decide, by decide⟩

/-- The last millisecond before 1970 is not after its last nanosecond, and the leap second at the
end of 2016 is counted on past the start of 2017. -/
theorem toInstant_truncates_lastOf1969 :
    (∃ s, (⟨-1⟩ : Instant).toTimestamp? = some s ∧ s ≤ lastOf1969) ∧
      leapSecond2016 < newYear2017 ∧
      newYear2017.toInstant.toInt < leapSecond2016.toInstant.toInt := by
  obtain ⟨s, hs, -, hle⟩ := toInstant_truncates.1 ⟨-1⟩ (by decide)
  have horder : leapSecond2016 < newYear2017 := Or.inl (by decide)
  exact ⟨⟨s, hs, (hle lastOf1969 (by decide)).1 (by decide)⟩, horder,
    (toInstant_truncates.2.2 _ _ horder).2 (by decide)⟩

end Timestamp

end DocumentQuery
