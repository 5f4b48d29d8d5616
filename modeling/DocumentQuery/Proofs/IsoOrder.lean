import DocumentQuery.Proofs.ExtendedText
import DocumentQuery.Proofs.IsoText

/-!
# The order of ISO texts is the order of time

From the year 0 to the year 9999 all ISO texts have the same length and the same marks at the same
places, so comparing them byte by byte compares their fields one after the other, and that is to
compare the instants.

**Bytes.** The characters of an ISO text are encoded in one byte each, in the same order
(`bytes_lt_bytes_iff`).

**Fields.** Digits of the same number of places are ordered as the numbers they denote
(`padded_lt_padded_iff`). What stands behind a field decides only when the fields are equal
(`field_lt_field_iff`).

**Modern instants.** The relaxed form shows the ISO text in the years 1970 to 9999. In milliseconds
these years begin at zero, so no instant before the epoch is shown that way (`isModern_iff`).

Main results: `writeIso_lt_writeIso_iff`, `isModern_iff` and `relaxed_iso_in_order`.
-/

namespace DocumentQuery

-- Powers of natural numbers are those of the core library, also beside a library with others.
attribute [local instance (2000)] instPowNat

namespace Text

/-! ## Bytes -/

/-- The bytes of a text in UTF-8. -/
def bytes (cs : List Char) : List UInt8 := (String.ofList cs).toUTF8.data.toList

/-- The character is encoded in one byte. -/
def isAscii (c : Char) : Bool := c.toNat < 128

theorem bytes_cons (c : Char) (cs : List Char) :
    bytes (c :: cs) = String.utf8EncodeChar c ++ bytes cs := by
  show (c :: cs).utf8Encode.data.toList = _ ++ cs.utf8Encode.data.toList
  rw [List.utf8Encode_cons, ByteArray.data_append, Array.toList_append]
  congr 1
  simp [List.utf8Encode]

theorem bytes_eq_map {cs : List Char} (h : ∀ c ∈ cs, isAscii c) :
    bytes cs = cs.map fun c => UInt8.ofNat c.toNat := by
  induction cs with
  | nil => rfl
  | cons c cs ih =>
    have hc : c.val.toNat < 128 := of_decide_eq_true (h c List.mem_cons_self)
    rw [bytes_cons, ih fun d hd => h d (List.mem_cons_of_mem _ hd), List.map_cons,
      String.utf8EncodeChar, if_pos (Nat.le_of_lt_succ hc)]
    rfl

theorem toNat_byte {c : Char} (h : isAscii c) : (UInt8.ofNat c.toNat).toNat = c.toNat := by
  have hc : c.toNat < 128 := of_decide_eq_true h
  exact UInt8.toNat_ofNat_of_lt' (Nat.lt_trans hc (by decide))

theorem byte_lt_byte_iff {c d : Char} (hc : isAscii c) (hd : isAscii d) :
    UInt8.ofNat c.toNat < UInt8.ofNat d.toNat ↔ c < d := by
  rw [UInt8.lt_iff_toNat_lt, toNat_byte hc, toNat_byte hd]
  exact Iff.rfl

theorem byte_eq_byte_iff {c d : Char} (hc : isAscii c) (hd : isAscii d) :
    UInt8.ofNat c.toNat = UInt8.ofNat d.toNat ↔ c = d := by
  rw [← UInt8.toNat_inj, toNat_byte hc, toNat_byte hd, Char.toNat_inj]

/-- **Texts in which every character is one byte are ordered as their characters are.** -/
theorem bytes_lt_bytes_iff {cs ds : List Char} (hc : ∀ c ∈ cs, isAscii c)
    (hd : ∀ d ∈ ds, isAscii d) : bytes cs < bytes ds ↔ cs < ds := by
  rw [bytes_eq_map hc, bytes_eq_map hd]
  induction cs generalizing ds with
  | nil => cases ds <;> simp
  | cons c cs ih =>
    cases ds with
    | nil => simp
    | cons d ds =>
      obtain ⟨hc₀, hc⟩ := List.forall_mem_cons.1 hc
      obtain ⟨hd₀, hd⟩ := List.forall_mem_cons.1 hd
      rw [List.map_cons, List.map_cons, List.cons_lt_cons_iff, List.cons_lt_cons_iff,
        byte_lt_byte_iff hc₀ hd₀, byte_eq_byte_iff hc₀ hd₀, ih hc hd]

/-! ## Digits -/

/-- **As many digits are ordered as the numbers that they denote.** -/
theorem lt_iff_value_lt {cs ds : List Char} (hc : ∀ c ∈ cs, c.isDigit) (hd : ∀ d ∈ ds, d.isDigit)
    (h : cs.length = ds.length) : cs < ds ↔ value cs < value ds := by
  induction cs generalizing ds with
  | nil =>
    rw [List.eq_nil_of_length_eq_zero h.symm]
    simp
  | cons c cs ih =>
    cases ds with
    | nil => exact nomatch h
    | cons d ds =>
      obtain ⟨hc₀, hc⟩ := List.forall_mem_cons.1 hc
      obtain ⟨hd₀, hd⟩ := List.forall_mem_cons.1 hd
      have hlength : cs.length = ds.length := Nat.succ.inj h
      have hcs := value_lt_pow hc
      have hds := value_lt_pow hd
      have hc₁ := toNat_of_isDigit hc₀
      have hd₁ := toNat_of_isDigit hd₀
      rw [hlength] at hcs
      rw [List.cons_lt_cons_iff, ih hc hd hlength, value_cons, value_cons, hlength]
      rcases Nat.lt_trichotomy c.toNat d.toNat with hlt | heq | hgt
      · -- A smaller first digit is not made up for by the others.
        have hstep := Nat.mul_le_mul_right (10 ^ ds.length)
          (show c.toNat - 48 + 1 ≤ d.toNat - 48 by omega)
        rw [Nat.succ_mul] at hstep
        exact iff_of_true (Or.inl hlt) (by omega)
      · have hcd : c = d := Char.toNat_inj.1 heq
        rw [hcd, or_iff_right (Char.lt_irrefl d), Nat.add_lt_add_iff_left]
        exact and_iff_right rfl
      · have hstep := Nat.mul_le_mul_right (10 ^ ds.length)
          (show d.toNat - 48 + 1 ≤ c.toNat - 48 by omega)
        rw [Nat.succ_mul] at hstep
        refine iff_of_false ?_ (by omega)
        rintro (hlt | ⟨rfl, -⟩)
        · exact absurd hlt (Nat.lt_asymm hgt)
        · exact Nat.lt_irrefl _ hgt

/-! ## Fields -/

theorem append_lt_append_iff {as bs r s : List Char} (h : as.length = bs.length) :
    as ++ r < bs ++ s ↔ as < bs ∨ as = bs ∧ r < s := by
  induction as generalizing bs with
  | nil =>
    rw [List.eq_nil_of_length_eq_zero h.symm]
    simp
  | cons a as ih =>
    cases bs with
    | nil => exact nomatch h
    | cons b bs =>
      rw [List.cons_append, List.cons_append, List.cons_lt_cons_iff, List.cons_lt_cons_iff,
        ih (Nat.succ.inj h), List.cons.injEq, and_or_left, or_assoc, and_assoc]

theorem padded_lt_padded_iff {w m n : Nat} (hw : 0 < w) (hm : m < 10 ^ w) (hn : n < 10 ^ w) :
    padded w m < padded w n ↔ m < n := by
  have h := lt_iff_value_lt (fun _ => isDigit_of_mem_padded) (fun _ => isDigit_of_mem_padded)
    ((length_padded hw hm).trans (length_padded hw hn).symm)
  rwa [value_padded, value_padded] at h

/-- **A field decides before what stands behind it.** -/
theorem field_lt_field_iff {w m n : Nat} {mark : Char} {r s : List Char} (hw : 0 < w)
    (hm : m < 10 ^ w) (hn : n < 10 ^ w) :
    padded w m ++ mark :: r < padded w n ++ mark :: s ↔ m < n ∨ m = n ∧ r < s := by
  have heq : padded w m = padded w n ↔ m = n := by
    refine ⟨fun h => ?_, fun h => h ▸ rfl⟩
    rw [← value_padded w m, h, value_padded]
  have hmark : mark :: r < mark :: s ↔ r < s := by
    rw [List.cons_lt_cons_iff]
    exact ⟨fun h => h.elim (fun h => absurd h (Char.lt_irrefl _)) And.right, fun h => Or.inr ⟨rfl, h⟩⟩
  rw [append_lt_append_iff ((length_padded hw hm).trans (length_padded hw hn).symm),
    padded_lt_padded_iff hw hm hn, heq, hmark]

end Text

/-! ## Texts of dates and times -/

/-- The time comes before the other: by hour, then minute, then second, then millisecond. -/
def TimeOfDay.Before (t u : TimeOfDay) : Prop :=
  t.hour < u.hour ∨ t.hour = u.hour ∧ (t.minute < u.minute ∨ t.minute = u.minute ∧
    (t.second < u.second ∨ t.second = u.second ∧ t.milli < u.milli))

theorem TimeOfDay.toMillis_lt_iff {t u : TimeOfDay} (ht : t.IsValid) (hu : u.IsValid) :
    t.toMillis < u.toMillis ↔ t.Before u := by
  unfold IsValid at ht hu
  unfold toMillis Before
  omega

theorem Date.eq_iff {d e : Date} : d = e ↔ d.year = e.year ∧ d.month = e.month ∧ d.day = e.day := by
  cases d
  cases e
  rw [Date.mk.injEq]

/-- The date has a year of four digits. -/
def Date.IsPlain (d : Date) : Prop := 0 ≤ d.year ∧ d.year ≤ 9999

namespace Instant

theorem writeYear_of_isPlain {d : Date} (h : d.IsPlain) :
    writeYear d.year = Text.padded 4 d.year.toNat :=
  if_pos h

/-- **Texts of dates and times are ordered as these are**, where the years have four digits. -/
theorem writeIso_lt_writeIso_iff {d e : Date} {t u : TimeOfDay} (hd : d.IsValid) (he : e.IsValid)
    (hd' : d.IsPlain) (he' : e.IsPlain) (ht : t.IsValid) (hu : u.IsValid) :
    writeIso d t < writeIso e u ↔ d.Before e ∨ d = e ∧ t.Before u := by
  have hdlast := Date.daysInMonth_le d.year d.month
  have helast := Date.daysInMonth_le e.year e.month
  unfold Date.IsValid at hd he
  unfold Date.IsPlain at hd' he'
  unfold TimeOfDay.IsValid at ht hu
  have hlast : Text.padded 3 t.milli ++ ['Z'] < Text.padded 3 u.milli ++ ['Z'] ↔
      t.milli < u.milli := by
    rw [Text.field_lt_field_iff (by decide) (by omega) (by omega)]
    simp
  simp only [writeIso, List.append_assoc, List.cons_append, writeYear_of_isPlain hd',
    writeYear_of_isPlain he']
  rw [Text.field_lt_field_iff (by decide) (by omega) (by omega),
    Text.field_lt_field_iff (by decide) (by omega) (by omega),
    Text.field_lt_field_iff (by decide) (by omega) (by omega),
    Text.field_lt_field_iff (by decide) (by omega) (by omega),
    Text.field_lt_field_iff (by decide) (by omega) (by omega),
    Text.field_lt_field_iff (by decide) (by omega) (by omega), hlast, Date.eq_iff]
  unfold Date.Before TimeOfDay.Before
  omega

theorem length_writeIso {d : Date} {t : TimeOfDay} (hd : d.IsValid) (hd' : d.IsPlain)
    (ht : t.IsValid) : (writeIso d t).length = 24 := by
  have hlast := Date.daysInMonth_le d.year d.month
  unfold Date.IsValid at hd
  unfold TimeOfDay.IsValid at ht
  have hyear : d.year.toNat < 10 ^ 4 := by
    unfold Date.IsPlain at hd'
    omega
  have htwo : ∀ {n : Nat}, n < 100 → (Text.padded 2 n).length = 2 :=
    fun h => Text.length_padded (by decide) h
  simp only [writeIso, writeYear_of_isPlain hd', List.length_append, List.length_cons,
    List.length_nil, Text.length_padded (by decide : 0 < 4) hyear,
    Text.length_padded (by decide : 0 < 3) ht.2.2.2, htwo (show d.month < 100 by omega),
    htwo (show d.day < 100 by omega), htwo (show t.hour < 100 by omega),
    htwo (show t.minute < 100 by omega), htwo (show t.second < 100 by omega)]

theorem isAscii_of_mem_writeIso {d : Date} {t : TimeOfDay} (hd : d.IsPlain) :
    ∀ c ∈ writeIso d t, Text.isAscii c := by
  have hfield : ∀ {w n : Nat}, ∀ c ∈ Text.padded w n, Text.isAscii c := by
    intro w n c hc
    have := Text.toNat_of_isDigit (Text.isDigit_of_mem_padded hc)
    exact decide_eq_true (by omega)
  simp only [writeIso, writeYear_of_isPlain hd, List.forall_mem_append, List.forall_mem_cons]
  exact ⟨⟨⟨⟨⟨⟨⟨hfield, rfl, hfield⟩, rfl, hfield⟩, rfl, hfield⟩, rfl, hfield⟩, rfl, hfield⟩, rfl,
    hfield⟩, rfl, List.forall_mem_nil _⟩

/-! ## Instants in order -/

/-- **An instant is earlier when its date is, or its time on the same date.** -/
theorem toInt_lt_iff (t u : Instant) :
    t.toInt < u.toInt ↔ t.date.Before u.date ∨ t.date = u.date ∧ t.timeOfDay.Before u.timeOfDay := by
  have hsame : t.date = u.date ↔ t.date.dayNumber = u.date.dayNumber :=
    ⟨congrArg Date.dayNumber, Date.eq_of_dayNumber_eq t.isValid_date u.isValid_date⟩
  rw [← Date.dayNumber_lt_iff t.isValid_date u.isValid_date, hsame,
    ← TimeOfDay.toMillis_lt_iff t.isValid_timeOfDay u.isValid_timeOfDay, dayNumber_date,
    dayNumber_date, toMillis_timeOfDay, toMillis_timeOfDay]
  omega

/-- The last millisecond of the year 9999. -/
theorem year_le_9999_iff (t : Instant) : t.date.year ≤ 9999 ↔ t.toInt ≤ 253402300799999 := by
  have hlast := year_lt_iff t 10000
  rw [show (Date.daysBeforeYear 10000 - Date.epoch) * 86400000 = 253402300800000 by
    decide +kernel] at hlast
  omega

/-- The years of four digits, in milliseconds. -/
theorem isPlain_date_iff (t : Instant) :
    t.date.IsPlain ↔ -62167219200000 ≤ t.toInt ∧ t.toInt ≤ 253402300799999 := by
  have hfirst := year_lt_iff t 0
  have hlast := t.year_le_9999_iff
  rw [show (Date.daysBeforeYear 0 - Date.epoch) * 86400000 = -62167219200000 by
    decide +kernel] at hfirst
  unfold Date.IsPlain
  omega

theorem year_mem_modern_iff (t : Instant) :
    1970 ≤ t.date.year ∧ t.date.year ≤ 9999 ↔ 0 ≤ t.toInt ∧ t.toInt ≤ 253402300799999 := by
  have hfirst := year_lt_iff t 1970
  have hlast := t.year_le_9999_iff
  rw [show (Date.daysBeforeYear 1970 - Date.epoch) * 86400000 = 0 by decide +kernel] at hfirst
  omega

/-- **The modern years in milliseconds.** -/
theorem isModern_iff (t : Instant) :
    t.IsModern ↔ 0 ≤ t.toInt ∧ t.toInt ≤ 253402300799999 := by
  rw [IsModern, isRepresentable_iff, ← year_mem_modern_iff]
  omega

theorem iso?_of_isPlain {t : Instant} (h : t.date.IsPlain) :
    t.iso? = some (writeIso t.date t.timeOfDay) := by
  have hrange := isRepresentable_iff t
  unfold Date.IsPlain at h
  exact if_pos (hrange.2 (by omega))

/-! ## The relaxed form -/

theorem exists_iso_iff (t : Instant) :
    (∃ text, t.iso? = some text ∧ t.toJson .relaxed = .wrapped "$date" text) ↔ t.IsModern := by
  constructor
  · rintro ⟨text, -, hjson⟩
    by_contra h
    rw [toJson_relaxed_of_not h, toJson_canonical] at hjson
    exact nomatch Json.field_injective hjson
  · intro h
    exact ⟨_, if_pos h.1, toJson_relaxed h⟩

/-- **Relaxed dates are ISO texts in the years 1970 to 9999, and ISO texts are in the order of
time.** In milliseconds these years are those from zero on; outside them the relaxed form is the
canonical one. From the year 0 to the year 9999 the texts have 24 bytes, and of two texts the
smaller one, byte by byte, is that of the earlier instant. -/
theorem relaxed_iso_in_order :
    (∀ t : Instant,
      ((∃ text, t.iso? = some text ∧
          (Value.date t).toJson .relaxed = .wrapped "$date" text) ↔
        0 ≤ t.toInt ∧ t.toInt ≤ 253402300799999) ∧
      (1970 ≤ t.date.year ∧ t.date.year ≤ 9999 ↔ 0 ≤ t.toInt ∧ t.toInt ≤ 253402300799999) ∧
      (¬ (0 ≤ t.toInt ∧ t.toInt ≤ 253402300799999) →
        (Value.date t).toJson .relaxed = (Value.date t).toJson .canonical) ∧
      (Value.date t).toJson .canonical =
        .field "$date" (.wrapped "$numberLong" (Text.signed t.toInt))) ∧
    ∀ t u : Instant, -62167219200000 ≤ t.toInt ∧ t.toInt ≤ 253402300799999 →
      -62167219200000 ≤ u.toInt ∧ u.toInt ≤ 253402300799999 →
      ∃ a b, t.iso? = some a ∧ u.iso? = some b ∧
        (Text.bytes a).length = 24 ∧ (Text.bytes b).length = 24 ∧
        (t.toInt < u.toInt ↔ Text.bytes a < Text.bytes b) := by
  refine ⟨fun t => ⟨?_, year_mem_modern_iff t, fun h => ?_, t.toJson_canonical⟩, ?_⟩
  · rw [← isModern_iff]
    exact exists_iso_iff t
  · exact toJson_relaxed_of_not (mt t.isModern_iff.1 h)
  · intro t u ht hu
    have hta := t.isPlain_date_iff.2 ht
    have hua := u.isPlain_date_iff.2 hu
    have hlength : ∀ {v : Instant}, v.date.IsPlain →
        (Text.bytes (writeIso v.date v.timeOfDay)).length = 24 := by
      intro v hv
      rw [Text.bytes_eq_map (isAscii_of_mem_writeIso hv), List.length_map]
      exact length_writeIso v.isValid_date hv v.isValid_timeOfDay
    refine ⟨_, _, iso?_of_isPlain hta, iso?_of_isPlain hua, hlength hta, hlength hua, ?_⟩
    rw [toInt_lt_iff, Text.bytes_lt_bytes_iff (isAscii_of_mem_writeIso hta)
      (isAscii_of_mem_writeIso hua), writeIso_lt_writeIso_iff t.isValid_date u.isValid_date hta hua
      t.isValid_timeOfDay u.isValid_timeOfDay]

/-- The last millisecond before the year 2000 and the first one of it. -/
theorem iso_order_turnOfYear :
    (⟨946684799999⟩ : Instant).iso? = some "1999-12-31T23:59:59.999Z".toList ∧
      (⟨946684800000⟩ : Instant).iso? = some "2000-01-01T00:00:00.000Z".toList ∧
      Text.bytes "1999-12-31T23:59:59.999Z".toList < Text.bytes "2000-01-01T00:00:00.000Z".toList := by
  have hold : (⟨946684799999⟩ : Instant).iso? = some "1999-12-31T23:59:59.999Z".toList := by
    decide +kernel
  have hnew : (⟨946684800000⟩ : Instant).iso? = some "2000-01-01T00:00:00.000Z".toList := by
    decide +kernel
  obtain ⟨a, b, ha, hb, -, -, horder⟩ :=
    relaxed_iso_in_order.2 ⟨946684799999⟩ ⟨946684800000⟩ (by decide) (by decide)
  rw [hold, Option.some.injEq] at ha
  rw [hnew, Option.some.injEq] at hb
  rw [← ha, ← hb] at horder
  exact ⟨hold, hnew, horder.1 (by decide)⟩

end Instant

end DocumentQuery
