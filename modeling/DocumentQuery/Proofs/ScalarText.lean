import DocumentQuery.Calendar.DayNumber
import DocumentQuery.Decimal
import DocumentQuery.Instant
import DocumentQuery.Proofs.Scanning

/-!
# Texts of decimals and instants

The texts of two decimals are equal only when mantissa and scale are, and the ISO texts of two
instants only when the instants are.

**Decimals.** The digits behind the point are as many as the scale says, zeros included, so the
scale can be counted. A zero has no sign, so the sign of the mantissa can be seen.

**Instants.** Every field of an ISO text is a run of digits that ends at a mark. A year outside 0 to
9999 shows by its sign. From the fields follow the day number and the time of day, and from these
the instant.

Main results: `Decimal.write_injective`, `Instant.writeIso_injective` and `Instant.eq_of_date_eq`.
-/

namespace DocumentQuery

-- Powers of natural numbers are those of the core library, also beside a library with others.
attribute [local instance (2000)] instPowNat

/-! ## Decimals -/

namespace Decimal

/-- The point and the digits behind it. -/
def writeFraction (scale fraction : Nat) : List Char :=
  if scale = 0 then [] else '.' :: Text.padded scale fraction

theorem stops_writeFraction (scale fraction : Nat) :
    Text.Stops Char.isDigit (writeFraction scale fraction) := by
  unfold writeFraction
  split
  · exact Text.stops_nil _
  · exact Text.stops_cons rfl _

theorem writeFraction_injective {s t x y : Nat} (hx : x < 10 ^ s) (hy : y < 10 ^ t)
    (h : writeFraction s x = writeFraction t y) : s = t ∧ x = y := by
  unfold writeFraction at h
  by_cases hs : s = 0 <;> by_cases ht : t = 0
  · subst hs ht
    rw [Nat.pow_zero] at hx hy
    exact ⟨rfl, by omega⟩
  · rw [if_pos hs, if_neg ht] at h
    exact nomatch h
  · rw [if_neg hs, if_pos ht] at h
    exact nomatch h
  · rw [if_neg hs, if_neg ht] at h
    have hpadded := (List.cons.inj h).2
    have hlength : s = t := by
      rw [← Text.length_padded (Nat.pos_of_ne_zero hs) hx, hpadded,
        Text.length_padded (Nat.pos_of_ne_zero ht) hy]
    refine ⟨hlength, ?_⟩
    rw [← Text.value_padded s x, hpadded, Text.value_padded]

theorem writeUnsigned_injective {m n s t : Nat} (h : writeUnsigned m s = writeUnsigned n t) :
    m = n ∧ s = t := by
  obtain ⟨hwhole, hfraction⟩ := Text.digits_append_inj (stops_writeFraction s (m % 10 ^ s))
    (stops_writeFraction t (n % 10 ^ t)) h
  obtain ⟨rfl, hrest⟩ := writeFraction_injective (Nat.mod_lt _ (Nat.pow_pos (by decide)))
    (Nat.mod_lt _ (Nat.pow_pos (by decide))) hfraction
  refine ⟨?_, rfl⟩
  rw [← Nat.div_add_mod m (10 ^ s), hwhole, hrest, Nat.div_add_mod]

theorem writeUnsigned_ne_minus {m s : Nat} {cs : List Char} : writeUnsigned m s ≠ '-' :: cs := by
  intro h
  obtain ⟨c, ds, hds⟩ := List.exists_cons_of_ne_nil (Text.digits_ne_nil (m / 10 ^ s))
  rw [writeUnsigned, hds, List.cons_append] at h
  rw [(List.cons.inj h).1] at hds
  exact Text.head_digits_ne_minus hds

/-- **A text has one decimal**, with one mantissa and one scale. -/
theorem write_injective {a b : Decimal} (h : a.write = b.write) : a = b := by
  suffices hsame : a.mantissa = b.mantissa ∧ a.scale = b.scale by
    cases a
    cases b
    simpa using hsame
  unfold write at h
  by_cases ha : a.mantissa < 0 <;> by_cases hb : b.mantissa < 0
  · rw [if_pos ha, if_pos hb] at h
    have := writeUnsigned_injective (List.append_cancel_left h)
    omega
  · rw [if_pos ha, if_neg hb] at h
    exact absurd h.symm writeUnsigned_ne_minus
  · rw [if_neg ha, if_pos hb] at h
    exact absurd h writeUnsigned_ne_minus
  · rw [if_neg ha, if_neg hb] at h
    have := writeUnsigned_injective h
    omega

end Decimal

/-! ## Instants -/

namespace Instant

theorem writeYear_append_inj {y z : Int} {r s : List Char} (hr : Text.Stops Char.isDigit r)
    (hs : Text.Stops Char.isDigit s) (h : writeYear y ++ r = writeYear z ++ s) :
    y = z ∧ r = s := by
  -- A year with a sign is not written like one without, which starts with a digit.
  have hsign : ∀ {x : Int} {n : Nat} {r s : List Char},
      (if x < 0 then '-' else '+') :: r ≠ Text.padded 4 n ++ s := by
    intro x n r s heq
    obtain ⟨c, cs, hcs⟩ := List.exists_cons_of_ne_nil (Text.padded_ne_nil 4 n)
    have hc : c.isDigit := Text.isDigit_of_mem_padded (hcs ▸ List.mem_cons_self)
    rw [hcs, List.cons_append] at heq
    rw [← (List.cons.inj heq).1] at hc
    split at hc <;> exact absurd hc (by decide)
  unfold writeYear at h
  by_cases hy : 0 ≤ y ∧ y ≤ 9999 <;> by_cases hz : 0 ≤ z ∧ z ≤ 9999
  · rw [if_pos hy, if_pos hz] at h
    obtain ⟨hyear, hrs⟩ := Text.padded_append_inj hr hs h
    exact ⟨by omega, hrs⟩
  · rw [if_pos hy, if_neg hz] at h
    exact absurd h.symm hsign
  · rw [if_neg hy, if_pos hz] at h
    exact absurd h hsign
  · rw [if_neg hy, if_neg hz] at h
    obtain ⟨hmark, hdigits⟩ := List.cons.inj h
    obtain ⟨hyear, hrs⟩ := Text.padded_append_inj hr hs hdigits
    refine ⟨?_, hrs⟩
    by_cases hny : y < 0 <;> by_cases hnz : z < 0
    · omega
    · rw [if_pos hny, if_neg hnz] at hmark
      exact absurd hmark (by decide)
    · rw [if_neg hny, if_pos hnz] at hmark
      exact absurd hmark (by decide)
    · omega

/-- **An ISO text has one date and one time of day.** -/
theorem writeIso_injective {d e : Date} {t u : TimeOfDay} (h : writeIso d t = writeIso e u) :
    d = e ∧ t = u := by
  have hstops : ∀ {c : Char} {r : List Char}, c.isDigit = false →
      Text.Stops Char.isDigit (c :: r) := fun hc => Text.stops_cons hc _
  simp only [writeIso, List.append_assoc, List.cons_append] at h
  obtain ⟨hyear, h⟩ := writeYear_append_inj (hstops rfl) (hstops rfl) h
  obtain ⟨hmonth, h⟩ := Text.padded_append_inj (hstops rfl) (hstops rfl) (List.cons.inj h).2
  obtain ⟨hday, h⟩ := Text.padded_append_inj (hstops rfl) (hstops rfl) (List.cons.inj h).2
  obtain ⟨hhour, h⟩ := Text.padded_append_inj (hstops rfl) (hstops rfl) (List.cons.inj h).2
  obtain ⟨hminute, h⟩ := Text.padded_append_inj (hstops rfl) (hstops rfl) (List.cons.inj h).2
  obtain ⟨hsecond, h⟩ := Text.padded_append_inj (hstops rfl) (hstops rfl) (List.cons.inj h).2
  obtain ⟨hmilli, -⟩ := Text.padded_append_inj (hstops rfl) (hstops rfl) (List.cons.inj h).2
  constructor
  · cases d
    cases e
    rw [Date.mk.injEq]
    exact ⟨hyear, hmonth, hday⟩
  · cases t
    cases u
    rw [TimeOfDay.mk.injEq]
    exact ⟨hhour, hminute, hsecond, hmilli⟩

/-- An instant is its date and its time of day. -/
theorem eq_of_date_eq {a b : Instant} (hd : a.date = b.date) (ht : a.timeOfDay = b.timeOfDay) :
    a = b := by
  have hday : a.toInt / 86400000 = b.toInt / 86400000 := by
    rw [← Date.dayNumber_ofDayNumber (a.toInt / 86400000), show Date.ofDayNumber _ = _ from hd]
    exact Date.dayNumber_ofDayNumber _
  have htime : (a.toInt % 86400000).toNat = (b.toInt % 86400000).toNat := by
    rw [← TimeOfDay.toMillis_ofMillis (a.toInt % 86400000).toNat,
      show TimeOfDay.ofMillis _ = _ from ht]
    exact TimeOfDay.toMillis_ofMillis _
  exact eq_of_toInt_eq (by omega)

end Instant

end DocumentQuery
