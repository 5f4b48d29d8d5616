import DocumentQuery.Proofs.CalendarOrder
import DocumentQuery.Proofs.ScalarText

/-!
# ISO texts read back

The ISO text of an instant consists of fields of digits, and what these fields denote is a date and
a time of day that exist and lie as far from the start of 1970 as the instant does.

**Fields.** `IsIsoText` says what the text of a date and a time looks like, field by field, without
saying how it is written. Only the year varies in length, and it shows by its sign when it does.

**Range.** A year is over when the next one begins, so whether an instant lies before a year is a
matter of comparing milliseconds (`year_lt_iff`). In particular the instants with a text are those
of the years -262143 to 262142.

**Counting.** The number of days is found by going from one date to the next, as the lengths of the
months and the rule for leap years say, so it does not rest on how the date was found.

Main results: `year_lt_iff`, `isIsoText_writeIso` and `iso?_reads_back`.
-/

namespace DocumentQuery

-- Powers of natural numbers are those of the core library, also beside a library with others.
attribute [local instance (2000)] instPowNat

/-! ## Fields -/

/-- Exactly so many digits, and the number that they denote. -/
structure IsField (width : Nat) (ds : List Char) (n : Nat) : Prop where
  length_eq : ds.length = width
  isDigit : ∀ c ∈ ds, c.isDigit
  value_eq : Text.value ds = n

theorem isField_padded {width n : Nat} (hw : 0 < width) (h : n < 10 ^ width) :
    IsField width (Text.padded width n) n :=
  ⟨Text.length_padded hw h, fun _ => Text.isDigit_of_mem_padded, Text.value_padded width n⟩

theorem le_length_padded (width n : Nat) : width ≤ (Text.padded width n).length := by
  rw [Text.padded, List.length_append, List.length_replicate]
  omega

/-- A year as it stands in a text: four digits from 0 to 9999, otherwise a sign and at least four
digits. -/
inductive IsYearText : List Char → Int → Prop
  | unsigned {ds : List Char} {n : Nat} (h : IsField 4 ds n) : IsYearText ds n
  | positive {ds : List Char} (hlength : 4 ≤ ds.length) (hdigits : ∀ c ∈ ds, c.isDigit)
    (h : 9999 < Text.value ds) : IsYearText ('+' :: ds) (Text.value ds)
  | negative {ds : List Char} (hlength : 4 ≤ ds.length) (hdigits : ∀ c ∈ ds, c.isDigit)
    (h : 0 < Text.value ds) : IsYearText ('-' :: ds) (-(Text.value ds : Int))

theorem isYearText_writeYear (year : Int) : IsYearText (Instant.writeYear year) year := by
  have hdigits : ∀ c ∈ Text.padded 4 year.natAbs, c.isDigit := fun _ => Text.isDigit_of_mem_padded
  have hlength := le_length_padded 4 year.natAbs
  have hvalue := Text.value_padded 4 year.natAbs
  unfold Instant.writeYear
  by_cases hplain : 0 ≤ year ∧ year ≤ 9999
  · have h := IsYearText.unsigned (isField_padded (n := year.toNat) (by decide : 0 < 4) (by omega))
    rw [if_pos hplain]
    rwa [Int.toNat_of_nonneg hplain.1] at h
  · rw [if_neg hplain]
    by_cases hneg : year < 0
    · have h := IsYearText.negative hlength hdigits (by omega)
      rw [if_pos hneg]
      rwa [hvalue, show -(year.natAbs : Int) = year by omega] at h
    · have h := IsYearText.positive hlength hdigits (by omega)
      rw [if_neg hneg]
      rwa [hvalue, show (year.natAbs : Int) = year by omega] at h

/-- The time exists in a day. -/
def TimeOfDay.IsValid (t : TimeOfDay) : Prop :=
  t.hour < 24 ∧ t.minute < 60 ∧ t.second < 60 ∧ t.milli < 1000

/-- A date and a time as they stand in an ISO text. -/
def IsIsoText (text : List Char) (d : Date) (t : TimeOfDay) : Prop :=
  ∃ year month day hour minute second milli : List Char,
    text = year ++ '-' :: month ++ '-' :: day ++
      'T' :: hour ++ ':' :: minute ++ ':' :: second ++ '.' :: milli ++ ['Z'] ∧
    IsYearText year d.year ∧ IsField 2 month d.month ∧ IsField 2 day d.day ∧
    IsField 2 hour t.hour ∧ IsField 2 minute t.minute ∧ IsField 2 second t.second ∧
    IsField 3 milli t.milli

theorem Date.daysInMonth_le (year : Int) (month : Nat) : daysInMonth year month ≤ 31 := by
  unfold daysInMonth
  split
  · split <;> omega
  all_goals omega

/-- **The text of a date and a time has their fields.** -/
theorem isIsoText_writeIso {d : Date} {t : TimeOfDay} (hd : d.IsValid) (ht : t.IsValid) :
    IsIsoText (Instant.writeIso d t) d t := by
  obtain ⟨-, hmonth, -, hday⟩ := hd
  obtain ⟨hhour, hminute, hsecond, hmilli⟩ := ht
  have hlast := Date.daysInMonth_le d.year d.month
  have htwo : ∀ {n : Nat}, n < 100 → IsField 2 (Text.padded 2 n) n :=
    fun h => isField_padded (by decide) h
  exact ⟨_, _, _, _, _, _, _, rfl, isYearText_writeYear d.year, htwo (by omega), htwo (by omega),
    htwo (by omega), htwo (by omega), htwo (by omega), isField_padded (by decide) hmilli⟩

namespace Instant

/-! ## The date and the time of an instant -/

theorem isValid_date (t : Instant) : t.date.IsValid := Date.isValid_ofDayNumber _

theorem dayNumber_date (t : Instant) : t.date.dayNumber = t.toInt / 86400000 :=
  Date.dayNumber_ofDayNumber _

theorem isValid_timeOfDay (t : Instant) : t.timeOfDay.IsValid := by
  simp only [TimeOfDay.IsValid, timeOfDay, TimeOfDay.ofMillis]
  omega

theorem toMillis_timeOfDay (t : Instant) :
    t.timeOfDay.toMillis = (t.toInt % 86400000).toNat :=
  TimeOfDay.toMillis_ofMillis _

/-- **An instant lies before a year just when it comes before the first millisecond of it.** -/
theorem year_lt_iff (t : Instant) (year : Int) :
    t.date.year < year ↔ t.toInt < (Date.daysBeforeYear year - Date.epoch) * 86400000 := by
  have h := Date.year_ofDayNumber_lt_iff (t.toInt / 86400000) year
  rw [show t.date.year < year ↔ _ from h]
  omega

/-- An instant is representable in the years -262143 to 262142. -/
theorem isRepresentable_iff (t : Instant) :
    t.IsRepresentable ↔ -262143 ≤ t.date.year ∧ t.date.year ≤ 262142 := by
  have hfirst := year_lt_iff t (-262143)
  have hlast := year_lt_iff t 262143
  rw [show (Date.daysBeforeYear (-262143) - Date.epoch) * 86400000 = -8334601228800000 by
    decide +kernel] at hfirst
  rw [show (Date.daysBeforeYear 262143 - Date.epoch) * 86400000 = 8210266876800000 by
    decide +kernel] at hlast
  unfold IsRepresentable
  omega

theorem isSome_iso?_iff (t : Instant) : t.iso?.isSome ↔ t.IsRepresentable := by
  unfold iso?
  split
  · next h => exact iff_of_true rfl h
  · next h => exact iff_of_false Bool.false_ne_true h

theorem eq_writeIso_of_iso? {t : Instant} {text : List Char} (h : t.iso? = some text) :
    text = writeIso t.date t.timeOfDay := by
  unfold iso? at h
  split at h
  · exact (Option.some.inj h).symm
  · exact nomatch h

/-! ## The text of every instant -/

/-- An ISO text starts with a digit or a sign. -/
theorem head_writeIso_ne (d : Date) (t : TimeOfDay) (cs : List Char) :
    writeIso d t ≠ 'D' :: cs := by
  obtain ⟨c, rest, hyear, hc⟩ : ∃ c rest, writeYear d.year = c :: rest ∧ c ≠ 'D' := by
    have hne : ∀ {n : Nat} {c : Char}, c ∈ Text.padded 4 n → c ≠ 'D' := by
      rintro n _ hmem rfl
      exact absurd (Text.isDigit_of_mem_padded hmem) (by decide)
    unfold writeYear
    split
    · obtain ⟨c, rest, hcs⟩ := List.exists_cons_of_ne_nil (Text.padded_ne_nil 4 d.year.toNat)
      exact ⟨c, rest, hcs, hne (hcs ▸ List.mem_cons_self)⟩
    · split
      · exact ⟨'-', _, rfl, by decide⟩
      · exact ⟨'+', _, rfl, by decide⟩
  intro h
  simp only [writeIso, hyear, List.cons_append] at h
  exact hc (List.cons.inj h).1

theorem eq_of_writeIso_eq {t u : Instant}
    (h : writeIso t.date t.timeOfDay = writeIso u.date u.timeOfDay) : t = u :=
  eq_of_date_eq (writeIso_injective h).1 (writeIso_injective h).2

theorem eq_of_signed_eq {t u : Instant}
    (h : "DateTime(".toList ++ Text.signed t.toInt ++ [')'] =
      "DateTime(".toList ++ Text.signed u.toInt ++ [')']) : t = u := by
  have htext := List.append_cancel_left (List.append_cancel_right h)
  exact eq_of_toInt_eq (Text.signed_injective htext)

/-- **A text has one instant**, be it an ISO text or bare milliseconds. -/
theorem write_injective {t u : Instant} (h : t.write = u.write) : t = u := by
  unfold write iso? at h
  by_cases ht : t.IsRepresentable <;> by_cases hu : u.IsRepresentable
  · rw [if_pos ht, if_pos hu] at h
    exact eq_of_writeIso_eq h
  · rw [if_pos ht, if_neg hu] at h
    exact absurd h (head_writeIso_ne _ _ _)
  · rw [if_neg ht, if_pos hu] at h
    exact absurd h.symm (head_writeIso_ne _ _ _)
  · rw [if_neg ht, if_neg hu] at h
    exact eq_of_signed_eq h

/-- **ISO texts read back.** The instants of the years -262143 to 262142 have one. Its fields are a
date and a time that exist, and counting the days from the start of 1970 to that date and adding the
time gives the instant. With the bare milliseconds of the other instants, no text is that of two. -/
theorem iso?_reads_back :
    (∀ t : Instant,
      (t.iso?.isSome ↔ -8334601228800000 ≤ t.toInt ∧ t.toInt ≤ 8210266876799999) ∧
      (t.iso?.isSome ↔ -262143 ≤ t.date.year ∧ t.date.year ≤ 262142) ∧
      ∀ text, t.iso? = some text → ∃ (d : Date) (time : TimeOfDay),
        IsIsoText text d time ∧ d.IsValid ∧ time.IsValid ∧
        ∀ days : Int, Date.CountsTo ⟨1970, 1, 1⟩ d days ↔
          days * 86400000 + time.toMillis = t.toInt) ∧
      ∀ t u : Instant, t.write = u.write ↔ t = u := by
  refine ⟨fun t => ⟨isSome_iso?_iff t, ?_, fun text h => ?_⟩, fun t u => ?_⟩
  · rw [isSome_iso?_iff, isRepresentable_iff]
  · rw [eq_writeIso_of_iso? h]
    refine ⟨t.date, t.timeOfDay, isIsoText_writeIso t.isValid_date t.isValid_timeOfDay,
      t.isValid_date, t.isValid_timeOfDay, fun days => ?_⟩
    have hstart : (⟨1970, 1, 1⟩ : Date).dayNumber = 0 := by decide
    rw [Date.countsTo_iff (by decide) t.isValid_date, hstart, dayNumber_date, toMillis_timeOfDay]
    omega
  · exact ⟨write_injective, fun h => h ▸ rfl⟩

/-- The last millisecond before the year 0, whose year is written with a sign. -/
theorem iso?_beforeYearZero :
    (⟨-62167219200001⟩ : Instant).iso? = some "-0001-12-31T23:59:59.999Z".toList ∧
      ∃ (d : Date) (time : TimeOfDay),
        IsIsoText "-0001-12-31T23:59:59.999Z".toList d time ∧ d.IsValid ∧ time.IsValid ∧
        ∀ days : Int, Date.CountsTo ⟨1970, 1, 1⟩ d days ↔
          days * 86400000 + time.toMillis = -62167219200001 := by
  have htext : (⟨-62167219200001⟩ : Instant).iso? = some "-0001-12-31T23:59:59.999Z".toList := by
    decide +kernel
  exact ⟨htext, (iso?_reads_back.1 ⟨-62167219200001⟩).2.2 _ htext⟩

end Instant

end DocumentQuery
