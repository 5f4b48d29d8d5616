import DocumentQuery.Proofs.ShortestDecimal
import DocumentQuery.Value.ExtendedJson

/-!
# The two JSON forms of a double

Whatever the dialect, the text of a finite double rounds back to that double and to no other. The
canonical text has one of two forms, and which one depends on the size of the number. The relaxed
text is a plain JSON number.

**Forms.** `IsPointForm` and `IsExponentForm` say what the texts look like without saying how they
are written. No text has both forms, so the form of a text says where its number lies.

**Rounding.** `RoundsTo` takes the sign from the text and compares distances between rational
numbers. It does not use the rounding that the search for the shortest decimal uses.

**Agreement.** The two dialects lay the same shortest decimal out in different ways, except when a
double lies half-way between two shortest decimals. There they break the tie differently, and the
two texts denote different numbers (`json_forms_halfway`), both of which round to the double.

Main results: `roundsTo_write_iff`, `writeMagnitude_extended`, `agreeOrTied_write` and `json_forms`.
-/

namespace DocumentQuery

-- Powers of natural numbers are those of the core library, also beside a library with others.
attribute [local instance (2000)] instPowNat

namespace Double

variable {l : Layout} {d : Double}

/-! ## What the texts look like -/

/-- At least one character, and all of them digits. -/
def IsDigits (cs : List Char) : Prop := cs ≠ [] ∧ ∀ c ∈ cs, c.isDigit

/-- Digits, a point and digits. -/
def IsPointForm (cs : List Char) : Prop :=
  ∃ whole fraction, cs = whole ++ '.' :: fraction ∧ IsDigits whole ∧ IsDigits fraction

/-- Digits with or without a fraction, then the marker, a sign and the digits of the exponent. -/
def IsExponentForm (marker : Char) (cs : List Char) : Prop :=
  ∃ mantissa sign exponent, cs = mantissa ++ marker :: sign :: exponent ∧
    (IsDigits mantissa ∨ IsPointForm mantissa) ∧ (sign = '+' ∨ sign = '-') ∧ IsDigits exponent

theorem isDigits_singleton {c : Char} (h : c.isDigit) : IsDigits [c] :=
  ⟨List.cons_ne_nil _ _, fun _ hc => by rwa [List.mem_singleton.1 hc]⟩

theorem isDigits_digits (n : Nat) : IsDigits (Text.digits n) :=
  ⟨Text.digits_ne_nil n, fun _ => Text.isDigit_of_mem_digits⟩

theorem isDigits_writtenWhole {leading : Int} {ds : List Char} (hds : ∀ c ∈ ds, c.isDigit) :
    IsDigits (writtenWhole leading ds) := by
  refine ⟨?_, fun c => isDigit_of_mem_writtenWhole hds⟩
  unfold writtenWhole
  split
  · exact List.cons_ne_nil _ _
  · next h => exact fun hnil => h (List.isEmpty_iff.2 hnil)

/-- Digits written positionally have a point where whole numbers keep theirs. -/
theorem isPointForm_positional {leading : Int} {ds : List Char} (hds : ∀ c ∈ ds, c.isDigit) :
    IsPointForm (positional true leading ds) := by
  rw [positional_eq, if_pos rfl]
  by_cases hempty : (fractionPart leading ds).isEmpty
  · rw [if_pos hempty]
    exact ⟨_, ['0'], rfl, isDigits_writtenWhole hds, isDigits_singleton (by decide)⟩
  · rw [if_neg hempty]
    exact ⟨_, _, rfl, isDigits_writtenWhole hds, mt List.isEmpty_iff.2 hempty,
      fun c => isDigit_of_mem_fractionPart hds⟩

/-- Digits written with an exponent have its sign where the layout has a plus sign. -/
theorem isExponentForm_withExponent {marker : Char} {leading : Int} {ds : List Char}
    (hds : IsDigits ds) : IsExponentForm marker (withExponent marker true leading ds) := by
  obtain ⟨c, cs, rfl⟩ := List.exists_cons_of_ne_nil hds.1
  have hfirst : IsDigits [c] := isDigits_singleton (hds.2 c List.mem_cons_self)
  have hsign : ∃ sign, (sign = '+' ∨ sign = '-') ∧
      (if leading < 0 then ['-'] else if true then ['+'] else []) = [sign] := by
    by_cases hneg : leading < 0
    · exact ⟨'-', Or.inr rfl, if_pos hneg⟩
    · exact ⟨'+', Or.inl rfl, if_neg hneg⟩
  obtain ⟨sign, hsign, hwritten⟩ := hsign
  refine ⟨[c] ++ if cs.isEmpty then [] else '.' :: cs, sign, Text.digits leading.natAbs, ?_, ?_,
    hsign, isDigits_digits _⟩
  · rw [withExponent, hwritten, List.append_assoc]
    rfl
  · cases cs with
    | nil => exact Or.inl hfirst
    | cons c' cs =>
      exact Or.inr ⟨[c], c' :: cs, rfl, hfirst, List.cons_ne_nil _ _,
        fun x hx => hds.2 x (List.mem_cons_of_mem _ hx)⟩

theorem not_mem_of_isDigits {cs : List Char} (h : IsDigits cs) {c : Char} (hc : c.isDigit = false) :
    c ∉ cs := fun hmem => by
  rw [h.2 c hmem] at hc
  exact Bool.noConfusion hc

/-- A text has one of the two forms at most. -/
theorem IsPointForm.not_isExponentForm {cs : List Char} (h : IsPointForm cs) {marker : Char}
    (hm : isMarker marker) : ¬ IsExponentForm marker cs := by
  have hdigit : marker.isDigit = false := by
    have hne := mt not_isMarker_of_isDigit (by rw [hm]; exact Bool.false_ne_true)
    exact Bool.eq_false_iff.2 hne
  have hpoint : marker ≠ '.' := by
    rintro rfl
    exact absurd hm (by decide)
  obtain ⟨whole, fraction, rfl, hwhole, hfraction⟩ := h
  rintro ⟨mantissa, sign, exponent, heq, -⟩
  have hmem : marker ∈ whole ++ '.' :: fraction := by
    rw [heq]
    exact List.mem_append_right _ List.mem_cons_self
  rcases List.mem_append.1 hmem with hmem | hmem
  · exact not_mem_of_isDigits hwhole hdigit hmem
  · rcases List.mem_cons.1 hmem with h | hmem
    · exact hpoint h
    · exact not_mem_of_isDigits hfraction hdigit hmem

/-! ## The number of a double -/

/-- A number with the sign of a double. -/
def withSign (negative : Bool) (q : ℚ) : ℚ := if negative then -q else q

theorem abs_withSign {q : ℚ} (negative : Bool) (hq : 0 ≤ q) : |withSign negative q| = q := by
  cases negative
  · exact abs_of_nonneg hq
  · exact (abs_neg q).trans (abs_of_nonneg hq)

/-- The number that a finite double denotes. -/
def toRat (d : Double) : ℚ := withSign (decide d.IsNegative) (valueOf d.magnitude)

theorem valueOf_zero : valueOf 0 = 0 := by
  unfold valueOf
  rw [show unitsOf 0 = 0 from rfl, Nat.cast_zero, zero_div]

theorem abs_toRat (d : Double) : |d.toRat| = valueOf d.magnitude :=
  abs_withSign _ (valueOf_zero ▸ valueOf_strictMono.monotone (Nat.zero_le _))

theorem toRat_ne_zero_iff : d.toRat ≠ 0 ↔ unitsOf d.magnitude ≠ 0 := by
  rw [← abs_pos, abs_toRat, valueOf, div_pos_iff_of_pos_right cast_unitsPerOne_pos, Nat.cast_pos,
    Nat.pos_iff_ne_zero]

/-- The extended layout is positional for zero and from `10⁻⁴` to below `10¹⁶`. -/
theorem isPositional_extended_iff :
    Layout.extended.IsPositional (unitsOf d.magnitude) ↔
      ¬ (d.toRat ≠ 0 ∧ (|d.toRat| < 1 / 10 ^ 4 ∨ 10 ^ 16 ≤ |d.toRat|)) := by
  have hU := cast_unitsPerOne_pos
  have hsmall : |d.toRat| < 1 / 10 ^ 4 ↔ unitsOf d.magnitude * 10 ^ 4 < unitsPerOne := by
    rw [abs_toRat, valueOf, div_lt_div_iff₀ hU (by norm_num), one_mul]
    exact_mod_cast Iff.rfl
  have hlarge : 10 ^ 16 ≤ |d.toRat| ↔ unitsPerOne * 10 ^ 16 ≤ unitsOf d.magnitude := by
    rw [abs_toRat, valueOf, le_div_iff₀ hU, mul_comm]
    exact_mod_cast Iff.rfl
  rw [toRat_ne_zero_iff, hsmall, hlarge]
  unfold Layout.IsPositional Layout.extended
  simp only [Option.mem_def, Option.some.injEq, forall_eq']
  omega

/-! ## Reading with the sign -/

/-- The sign and the decimal that a text denotes. -/
def readSigned : List Char → Bool × Scientific
  | '-' :: cs => (true, .read cs)
  | cs => (false, .read cs)

/-- The number that a text denotes. -/
def numberOf (text : List Char) : ℚ := withSign (readSigned text).1 (readSigned text).2.toRat

/-- The double has the sign of the text, and its absolute value is nearest to the decimal there. -/
def RoundsTo (text : List Char) (d : Double) : Prop :=
  decide d.IsNegative = (readSigned text).1 ∧ IsNearest (readSigned text).2.toRat d.magnitude

theorem write_of_isFinite (hd : d.IsFinite) (l : Layout) :
    d.write l = (if d.IsNegative then ['-'] else []) ++ writeMagnitude l d.magnitude := by
  have hnan : ¬ d.IsNaN := Nat.lt_asymm hd
  have hinf : ¬ d.IsInfinite := Nat.ne_of_lt hd
  rw [write_of_not_isNaN hnan, body, if_neg hinf]

theorem readSigned_write (hd : d.IsFinite) (l : Layout) :
    readSigned (d.write l) = (decide d.IsNegative, .read (writeMagnitude l d.magnitude)) := by
  rw [write_of_isFinite hd]
  by_cases hneg : d.IsNegative
  · rw [if_pos hneg, decide_eq_true hneg]
    rfl
  · obtain ⟨c, rest, htext, hc⟩ := isDigit_head_writeMagnitude l hd
    rw [if_neg hneg, decide_eq_false hneg, List.nil_append, htext]
    unfold readSigned
    split
    · next h =>
      rw [(List.cons.inj h).1] at hc
      exact absurd hc (by decide)
    · rfl

/-- **The text of a finite double rounds to that double** and to no other. -/
theorem roundsTo_write_iff (hl : isMarker l.marker) (hd : d.IsFinite) {a : Double} :
    RoundsTo (d.write l) a ↔ a = d := by
  have hread := readsBack_read_writeMagnitude hl hd
  unfold RoundsTo
  rw [readSigned_write hd, ← readsBack_iff]
  constructor
  · rintro ⟨hsign, hnearest⟩
    exact eq_of_magnitude (hnearest.symm.trans hread) (decide_eq_decide.1 hsign)
  · rintro rfl
    exact ⟨rfl, hread⟩

theorem numberOf_write (hl : isMarker l.marker) (hd : d.IsFinite) :
    numberOf (d.write l) =
      withSign (decide d.IsNegative) (shortestMagnitude l.tie d.magnitude).toRat := by
  unfold numberOf
  rw [readSigned_write hd, toRat_read_writeMagnitude hl]

/-! ## The two forms -/

/-- The text inside a number wrapper has an exponent for small and for large numbers. -/
theorem writeMagnitude_extended (hd : d.IsFinite) :
    (IsPointForm (writeMagnitude .extended d.magnitude) ∨
        IsExponentForm 'E' (writeMagnitude .extended d.magnitude)) ∧
      (IsExponentForm 'E' (writeMagnitude .extended d.magnitude) ↔
        d.toRat ≠ 0 ∧ (|d.toRat| < 1 / 10 ^ 4 ∨ 10 ^ 16 ≤ |d.toRat|)) := by
  have hds := isDigit_shortestDigits Layout.extended.tie d.magnitude
  rcases writeMagnitude_cases .extended d.magnitude with ⟨hpos, hform⟩ | ⟨hpos, hform⟩
  · have hpoint : IsPointForm (writeMagnitude .extended d.magnitude) :=
      hform ▸ isPointForm_positional hds
    exact ⟨Or.inl hpoint, iff_of_false (hpoint.not_isExponentForm rfl)
      (isPositional_extended_iff.1 hpos)⟩
  · have h₀ : d.magnitude ≠ 0 := fun h => hpos (Or.inl (congrArg unitsOf h))
    have hexp : IsExponentForm 'E' (writeMagnitude .extended d.magnitude) :=
      hform ▸ isExponentForm_withExponent ⟨shortestDigits_ne_nil hd h₀ _, hds⟩
    exact ⟨Or.inr hexp, iff_of_true hexp (not_not.1 (mt isPositional_extended_iff.2 hpos))⟩

/-- The relaxed number is the canonical one, or the double is half-way between two neighbours that
count a power of ten: then the relaxed number is the even one and the canonical one is the other,
which is further from zero. -/
def AgreeOrTied (d : Double) (canonical relaxed : ℚ) : Prop :=
  relaxed = canonical ∨
    ∃ c e, c % 2 = 0 ∧
      relaxed = withSign (decide d.IsNegative) (Scientific.toRat ⟨c, e⟩) ∧
      canonical = withSign (decide d.IsNegative) (Scientific.toRat ⟨c + 1, e⟩) ∧
      Scientific.toRat ⟨c, e⟩ + Scientific.toRat ⟨c + 1, e⟩ = 2 * |d.toRat|

theorem agreeOrTied_write (hd : d.IsFinite) :
    AgreeOrTied d (numberOf (d.write .extended)) (numberOf (d.write .plain)) := by
  rw [numberOf_write rfl hd, numberOf_write rfl hd]
  rcases shortestMagnitude_up_even hd with hsame | ⟨c, e, hc, heven, hup, hmid⟩
  · exact Or.inl (congrArg (fun s => withSign _ (Scientific.toRat s)) hsame.symm)
  · refine Or.inr ⟨c, e, hc, congrArg (fun s => withSign _ (Scientific.toRat s)) heven,
      congrArg (fun s => withSign _ (Scientific.toRat s)) hup, ?_⟩
    rwa [abs_toRat]

/-- **What the two JSON forms say about a double.** The canonical form is a wrapped text. Where the
double is finite, this text is in point form or, for numbers other than zero below `10⁻⁴` and from
`10¹⁶` on, in exponent form, and it rounds to the double alone. The relaxed form is a number unless
the double is infinite, not a number or the negative zero. The text of that number rounds to the
double too, and denotes the number of the canonical text except for ties. Where the relaxed form is
not a number, it is the canonical one. -/
theorem json_forms (d : Double) :
    (Value.double d).toJson .canonical = .wrapped "$numberDouble" (d.write .extended) ∧
    (d.IsFinite →
      (∃ body, d.write .extended = (if d.IsNegative then ['-'] else []) ++ body ∧
        (IsPointForm body ∨ IsExponentForm 'E' body) ∧
        (IsExponentForm 'E' body ↔
          d.toRat ≠ 0 ∧ (|d.toRat| < 1 / 10 ^ 4 ∨ 10 ^ 16 ≤ |d.toRat|))) ∧
      ∀ a, RoundsTo (d.write .extended) a ↔ a = d) ∧
    ((∃ r, (Value.double d).toJson .relaxed = .real r) ↔ d.IsFinite ∧ ¬ d.IsNegativeZero) ∧
    (d.IsFinite ∧ ¬ d.IsNegativeZero →
      (∀ a, RoundsTo ((Value.double d).toJson .relaxed).write a ↔ a = d) ∧
      AgreeOrTied d (numberOf (d.write .extended))
        (numberOf ((Value.double d).toJson .relaxed).write)) ∧
    (¬ (d.IsFinite ∧ ¬ d.IsNegativeZero) →
      (Value.double d).toJson .relaxed = (Value.double d).toJson .canonical) := by
  simp only [Value.toJson]
  refine ⟨toJson_canonical d, fun hd => ⟨?_, fun a => roundsTo_write_iff rfl hd⟩, ?_, fun h => ?_,
    fun h => ?_⟩
  · exact ⟨_, write_of_isFinite hd .extended, writeMagnitude_extended hd⟩
  · refine ⟨fun ⟨r, hr⟩ => ?_, fun h => ⟨_, toJson_relaxed h⟩⟩
    by_contra h
    rw [toJson_relaxed_of_not h, toJson_canonical] at hr
    exact nomatch hr
  · rw [toJson_relaxed h]
    exact ⟨fun a => roundsTo_write_iff rfl h.1, agreeOrTied_write h.1⟩
  · exact toJson_relaxed_of_not h

/-- A number that has an exponent in one form only, and the zero that is not a plain number. -/
theorem json_forms_smallNumber :
    IsFinite ⟨0x3EF0000000000000⟩ ∧ ¬ IsNegativeZero ⟨0x3EF0000000000000⟩ ∧
    ((Value.double ⟨0x3EF0000000000000⟩).toJson .canonical =
        .wrapped "$numberDouble" "1.52587890625E-5".toList ∧
      (∀ a, RoundsTo "1.52587890625E-5".toList a ↔ a = ⟨0x3EF0000000000000⟩) ∧
      (∀ a, RoundsTo "0.0000152587890625".toList a ↔ a = ⟨0x3EF0000000000000⟩) ∧
      AgreeOrTied ⟨0x3EF0000000000000⟩ (numberOf "1.52587890625E-5".toList)
        (numberOf "0.0000152587890625".toList)) ∧
    ¬ (IsFinite ⟨0x8000000000000000⟩ ∧ ¬ IsNegativeZero ⟨0x8000000000000000⟩) ∧
    (Value.double ⟨0x8000000000000000⟩).toJson .relaxed =
      (Value.double ⟨0x8000000000000000⟩).toJson .canonical := by
  have hfinite : IsFinite ⟨0x3EF0000000000000⟩ := by decide
  have hsign : ¬ IsNegativeZero ⟨0x3EF0000000000000⟩ := by decide
  have hzero : ¬ (IsFinite ⟨0x8000000000000000⟩ ∧ ¬ IsNegativeZero ⟨0x8000000000000000⟩) := by decide
  have hextended : write .extended ⟨0x3EF0000000000000⟩ = "1.52587890625E-5".toList := by
    decide +kernel
  have hplain : ((Value.double ⟨0x3EF0000000000000⟩).toJson .relaxed).write =
      "0.0000152587890625".toList := by
    decide +kernel
  obtain ⟨hcanonical, htext, -, hrelaxed, -⟩ := json_forms ⟨0x3EF0000000000000⟩
  rw [hextended] at hcanonical htext hrelaxed
  rw [hplain] at hrelaxed
  exact ⟨hfinite, hsign, ⟨hcanonical, (htext hfinite).2, hrelaxed ⟨hfinite, hsign⟩⟩, hzero,
    (json_forms ⟨0x8000000000000000⟩).2.2.2.2 hzero⟩

/-- A number half-way between its two shortest decimals has two texts that denote different
numbers. -/
theorem json_forms_halfway :
    IsFinite ⟨0x4310000000000001⟩ ∧ ¬ IsNegativeZero ⟨0x4310000000000001⟩ ∧
    (Value.double ⟨0x4310000000000001⟩).toJson .canonical =
      .wrapped "$numberDouble" "1125899906842624.3".toList ∧
    ((Value.double ⟨0x4310000000000001⟩).toJson .relaxed).write = "1125899906842624.2".toList ∧
    numberOf "1125899906842624.3".toList ≠ numberOf "1125899906842624.2".toList := by
  have hfinite : IsFinite ⟨0x4310000000000001⟩ := by decide
  have hsign : ¬ IsNegativeZero ⟨0x4310000000000001⟩ := by decide
  have hextended : write .extended ⟨0x4310000000000001⟩ = "1125899906842624.3".toList := by
    decide +kernel
  have hplain : write .plain ⟨0x4310000000000001⟩ = "1125899906842624.2".toList := by
    decide +kernel
  have hcanonical : readSigned "1125899906842624.3".toList = (false, ⟨11258999068426243, -1⟩) := by
    decide +kernel
  have hrelaxed : readSigned "1125899906842624.2".toList = (false, ⟨11258999068426242, -1⟩) := by
    decide +kernel
  simp only [Value.toJson]
  rw [toJson_canonical, hextended, toJson_relaxed ⟨hfinite, hsign⟩]
  refine ⟨hfinite, hsign, rfl, hplain, ?_⟩
  unfold numberOf
  rw [hcanonical, hrelaxed]
  norm_num [withSign, Scientific.toRat]

end Double

end DocumentQuery
