import DocumentQuery.Double.Layout
import DocumentQuery.Double.ReadBack
import DocumentQuery.Proofs.Scanning
import Mathlib.Algebra.Order.Field.Power
import Mathlib.Algebra.Order.Field.Rat
import Mathlib.Tactic.NormNum
import Mathlib.Tactic.Ring

/-!
# Texts of doubles read back

The text of a double denotes a decimal, and the double nearest to that decimal is the one that was
written. So a text has one double, whichever layout it is in.

**Reading.** `Scientific.read` reads an unsigned text: digits, perhaps a point with more digits, and
perhaps an exponent. It need not find the decimal that was written digit for digit, since zeros are
dropped and added, but the two are the same number (`toRat_read_writeMagnitude`), and the nearest
double depends only on the number (`readsBack_congr`).

**Signs and names.** An unsigned text starts with a digit, so it cannot be taken for one with a
sign, for an infinity or for what is not a number.

Main results: `toRat_read_writeMagnitude`, `readsBack_read_writeMagnitude`,
`writeMagnitude_injective` and `write_eq_write_iff`.
-/

namespace DocumentQuery

-- Powers of natural numbers are those of the core library, also beside a library with others.
attribute [local instance (2000)] instPowNat

/-! ## The number of a decimal -/

namespace Scientific

/-- The number that a decimal denotes. -/
def toRat (s : Scientific) : ℚ := s.coefficient * (10 : ℚ) ^ s.exponent

theorem denominator_pos (s : Scientific) : 0 < s.denominator := Nat.pow_pos (by decide)

theorem toRat_eq (s : Scientific) : s.toRat = (s.numerator : ℚ) / s.denominator := by
  obtain ⟨c, e⟩ := s
  unfold toRat numerator denominator
  obtain ⟨n, rfl | rfl⟩ := Int.eq_nat_or_neg e
  · rw [Int.toNat_natCast, Int.toNat_neg_natCast, zpow_natCast]
    push_cast
    rw [div_one]
  · rw [Int.neg_neg, Int.toNat_natCast, Int.toNat_neg_natCast, zpow_neg, zpow_natCast]
    push_cast
    rw [mul_one, div_eq_mul_inv]

theorem toRat_zero (e : Int) : toRat ⟨0, e⟩ = 0 := by
  unfold toRat
  rw [Nat.cast_zero, zero_mul]

/-- Zeros at the end of the coefficient may be counted in the exponent. -/
theorem toRat_mul_pow (c k : Nat) (e : Int) : toRat ⟨c * 10 ^ k, e⟩ = toRat ⟨c, e + k⟩ := by
  unfold toRat
  rw [zpow_add₀ (by norm_num), zpow_natCast]
  push_cast
  ring

end Scientific

/-! ## The nearest double depends on the number alone -/

theorem roundHalfEven_mul_right {c : Nat} (hc : 0 < c) (num den : Nat) :
    roundHalfEven (num * c) (den * c) = roundHalfEven num den := by
  have hlt : 2 * (num % den * c) < den * c ↔ 2 * (num % den) < den := by
    rw [← Nat.mul_assoc]
    exact Nat.mul_lt_mul_right hc
  have heq : 2 * (num % den * c) = den * c ↔ 2 * (num % den) = den := by
    rw [← Nat.mul_assoc]
    exact Nat.mul_left_inj (Nat.ne_of_gt hc)
  simp only [roundHalfEven, Nat.mul_div_mul_right _ _ hc, Nat.mul_mod_mul_right, hlt, heq]

namespace Double

theorem nearestMagnitude_mul_right {c : Nat} (hc : 0 < c) (num den : Nat) :
    nearestMagnitude (num * c) (den * c) = nearestMagnitude num den := by
  have hunits : num * c * unitsPerOne = num * unitsPerOne * c := Nat.mul_right_comm ..
  have hstep : ∀ k, den * c * 2 ^ k = den * 2 ^ k * c := fun k => Nat.mul_right_comm ..
  simp only [nearestMagnitude, hunits, hstep, Nat.mul_div_mul_right _ _ hc,
    roundHalfEven_mul_right hc]

/-- **Equal quotients have the same nearest double.** -/
theorem nearestMagnitude_congr {num den num' den' : Nat} (hd : 0 < den) (hd' : 0 < den')
    (h : num * den' = num' * den) : nearestMagnitude num den = nearestMagnitude num' den' :=
  calc nearestMagnitude num den
      = nearestMagnitude (num * den') (den * den') := (nearestMagnitude_mul_right hd' num den).symm
    _ = nearestMagnitude (num' * den) (den' * den) := by rw [h, Nat.mul_comm den den']
    _ = nearestMagnitude num' den' := nearestMagnitude_mul_right hd num' den'

theorem readsBack_congr {m : Nat} {s t : Scientific} (h : s.toRat = t.toRat) :
    ReadsBack m s ↔ ReadsBack m t := by
  have hs : (s.denominator : ℚ) ≠ 0 := Nat.cast_ne_zero.2 (Nat.ne_of_gt s.denominator_pos)
  have ht : (t.denominator : ℚ) ≠ 0 := Nat.cast_ne_zero.2 (Nat.ne_of_gt t.denominator_pos)
  rw [Scientific.toRat_eq, Scientific.toRat_eq, div_eq_div_iff hs ht] at h
  unfold ReadsBack
  rw [nearestMagnitude_congr s.denominator_pos t.denominator_pos (by exact_mod_cast h)]

theorem readsBack_zero {m : Nat} {e : Int} : ReadsBack m ⟨0, e⟩ ↔ m = 0 := by
  unfold ReadsBack Scientific.numerator
  rw [Nat.zero_mul, nearestMagnitude_zero]
  exact eq_comm

/-! ## Significant digits -/

theorem eq_significant_append (ds : List Char) :
    ∃ z, ds = significant ds ++ List.replicate z '0' := by
  have hzeros : ds.reverse.takeWhile (· == '0') =
      List.replicate (ds.reverse.takeWhile (· == '0')).length '0' :=
    List.eq_replicate_of_mem fun c hc => by
      simpa using List.all_eq_true.1 List.all_takeWhile c hc
  refine ⟨(ds.reverse.takeWhile (· == '0')).length, ?_⟩
  rw [significant, ← List.reverse_replicate, ← hzeros, ← List.reverse_append,
    List.takeWhile_append_dropWhile, List.reverse_reverse]

theorem isDigit_of_mem_significant {n : Nat} {c : Char} (h : c ∈ significant (Text.digits n)) :
    c.isDigit := by
  obtain ⟨z, hz⟩ := eq_significant_append (Text.digits n)
  refine Text.isDigit_of_mem_digits (n := n) ?_
  rw [hz]
  exact List.mem_append_left _ h

theorem significant_digits_eq_nil {n : Nat} (h : significant (Text.digits n) = []) : n = 0 := by
  obtain ⟨z, hz⟩ := eq_significant_append (Text.digits n)
  rw [h, List.nil_append] at hz
  calc n = Text.value ([] ++ List.replicate z '0') := by
        rw [List.nil_append, ← hz, Text.value_digits]
    _ = 0 * 10 ^ z := Text.value_append_replicate_zero [] z
    _ = 0 := Nat.zero_mul _

/-- A decimal is its significant digits, the first one counting `10 ^ leading`. -/
theorem toRat_significant (s : Scientific) :
    Scientific.toRat ⟨Text.value (significant (Text.digits s.coefficient)),
      s.leading + 1 - (significant (Text.digits s.coefficient)).length⟩ = s.toRat := by
  obtain ⟨z, hz⟩ := eq_significant_append (Text.digits s.coefficient)
  have hvalue : s.coefficient =
      Text.value (significant (Text.digits s.coefficient)) * 10 ^ z := by
    rw [← Text.value_append_replicate_zero, ← hz, Text.value_digits]
  have hlength : (Text.digits s.coefficient).length =
      (significant (Text.digits s.coefficient)).length + z := by
    conv => lhs; rw [hz]
    rw [List.length_append, List.length_replicate]
  have hexponent : s.leading + 1 - (significant (Text.digits s.coefficient)).length =
      s.exponent + z := by
    unfold Scientific.leading
    omega
  rw [hexponent, ← Scientific.toRat_mul_pow, ← hvalue]

end Double

/-! ## Reading -/

/-- The character announces an exponent. -/
def isMarker (c : Char) : Bool := c == 'e' || c == 'E'

/-- The number that digits after an optional sign denote; none denote zero. -/
def readExponent : List Char → Int
  | '-' :: ds => -(Text.value ds : Int)
  | '+' :: ds => Text.value ds
  | ds => Text.value ds

/-- The decimal that an unsigned text denotes. -/
def Scientific.read (cs : List Char) : Scientific :=
  let mantissa := cs.takeWhile fun c => !isMarker c
  let exponent := cs.dropWhile fun c => !isMarker c
  let fraction := (mantissa.dropWhile Char.isDigit).drop 1
  ⟨Text.value (mantissa.takeWhile Char.isDigit ++ fraction),
    readExponent (exponent.drop 1) - fraction.length⟩

theorem not_isMarker_of_isDigit {c : Char} (h : c.isDigit) : (!isMarker c) = true := by
  unfold isMarker
  rw [Bool.not_eq_true', Bool.or_eq_false_iff, beq_eq_false_iff_ne, beq_eq_false_iff_ne]
  constructor <;> (rintro rfl; exact absurd h (by decide))

/-- The characters that numbers are written with. -/
def isNumeral (c : Char) : Bool := c.isDigit || isMarker c || c == '.' || c == '-' || c == '+'

theorem isNumeral_of_isDigit {c : Char} (h : c.isDigit) : isNumeral c := by
  rw [isNumeral, h]; rfl

theorem isNumeral_of_isMarker {c : Char} (h : isMarker c) : isNumeral c := by
  rw [isNumeral, h, Bool.or_true]; rfl

theorem readExponent_of_isDigit {ds : List Char} (h : ∀ c ∈ ds, c.isDigit) :
    readExponent ds = Text.value ds := by
  unfold readExponent
  split
  · exact absurd (h '-' List.mem_cons_self) (by decide)
  · exact absurd (h '+' List.mem_cons_self) (by decide)
  · rfl

/-- Reading a text from its parts: the digits before the point, the point with the digits behind
it, and the exponent with its marker. -/
theorem Scientific.read_append {whole point tail : List Char} (hw : ∀ c ∈ whole, c.isDigit)
    (hpoint : Text.Stops Char.isDigit point) (hp : ∀ c ∈ point, (!isMarker c) = true)
    (ht : Text.Stops (fun c => !isMarker c) tail) :
    Scientific.read (whole ++ point ++ tail) =
      ⟨Text.value (whole ++ point.drop 1),
        readExponent (tail.drop 1) - (point.drop 1).length⟩ := by
  have hmantissa : ∀ c ∈ whole ++ point, (!isMarker c) = true := fun c hc =>
    (List.mem_append.1 hc).elim (fun h => not_isMarker_of_isDigit (hw c h)) (hp c)
  simp only [read, Text.takeWhile_append_stops hmantissa ht,
    Text.dropWhile_append_stops hmantissa ht, Text.takeWhile_append_stops hw hpoint,
    Text.dropWhile_append_stops hw hpoint]

namespace Double

/-! ## The texts of a magnitude -/

variable {m : Nat} {leading : Int} {ds : List Char}

/-- Behind a point there are digits, or there is no point. -/
theorem read_fraction {whole fraction tail : List Char} (hw : ∀ c ∈ whole, c.isDigit)
    (hf : ∀ c ∈ fraction, c.isDigit) (ht : Text.Stops (fun c => !isMarker c) tail) :
    Scientific.read (whole ++ (if fraction.isEmpty then [] else '.' :: fraction) ++ tail) =
      ⟨Text.value (whole ++ fraction), readExponent (tail.drop 1) - fraction.length⟩ := by
  cases fraction with
  | nil => exact Scientific.read_append hw (Text.stops_nil _) (fun _ h => nomatch h) ht
  | cons d ds =>
    refine Scientific.read_append hw (Text.stops_cons (by decide) _) (fun c hc => ?_) ht
    rcases List.mem_cons.1 hc with rfl | hc
    · rfl
    · exact not_isMarker_of_isDigit (hf c hc)

/-- The digits before the point. -/
def wholePart (leading : Int) (ds : List Char) : List Char :=
  (ds.take (leading + 1).toNat).rightpad (leading + 1).toNat '0'

/-- The digits behind the point. -/
def fractionPart (leading : Int) (ds : List Char) : List Char :=
  List.replicate (-leading - 1).toNat '0' ++ ds.drop (leading + 1).toNat

/-- The digits before the point as they are written: there is at least a zero. -/
def writtenWhole (leading : Int) (ds : List Char) : List Char :=
  if (wholePart leading ds).isEmpty then ['0'] else wholePart leading ds

theorem positional_eq (keepsPoint : Bool) (leading : Int) (ds : List Char) :
    positional keepsPoint leading ds = writtenWhole leading ds ++
      if (fractionPart leading ds).isEmpty then (if keepsPoint then ['.', '0'] else [])
      else '.' :: fractionPart leading ds :=
  rfl

theorem isDigit_of_mem_wholePart (hds : ∀ c ∈ ds, c.isDigit) {c : Char}
    (hc : c ∈ wholePart leading ds) : c.isDigit := by
  rcases List.mem_append.1 hc with hc | hc
  · exact hds c (List.mem_of_mem_take hc)
  · rw [List.eq_of_mem_replicate hc]; rfl

theorem isDigit_of_mem_writtenWhole (hds : ∀ c ∈ ds, c.isDigit) {c : Char}
    (hc : c ∈ writtenWhole leading ds) : c.isDigit := by
  rw [writtenWhole] at hc
  split at hc
  · rw [List.mem_singleton.1 hc]; rfl
  · exact isDigit_of_mem_wholePart hds hc

/-- A zero in front changes nothing. -/
theorem value_writtenWhole_append (leading : Int) (ds fs : List Char) :
    Text.value (writtenWhole leading ds ++ fs) = Text.value (wholePart leading ds ++ fs) := by
  rw [writtenWhole]
  split
  · next h => rw [List.isEmpty_iff.1 h]; exact Text.value_zero_cons fs
  · rfl

theorem isDigit_of_mem_fractionPart (hds : ∀ c ∈ ds, c.isDigit) {c : Char}
    (hc : c ∈ fractionPart leading ds) : c.isDigit := by
  rcases List.mem_append.1 hc with hc | hc
  · rw [List.eq_of_mem_replicate hc]; rfl
  · exact hds c (List.mem_of_mem_drop hc)

/-- Both parts together count the digits from the last place behind the point. -/
theorem toRat_parts (leading : Int) (ds : List Char) :
    Scientific.toRat ⟨Text.value (wholePart leading ds ++ fractionPart leading ds),
        -(fractionPart leading ds).length⟩ =
      Scientific.toRat ⟨Text.value ds, leading + 1 - ds.length⟩ := by
  unfold wholePart fractionPart List.rightpad
  by_cases hn : leading + 1 ≤ 0
  · -- The point stands before all digits.
    have hz : (leading + 1).toNat = 0 := by omega
    rw [hz, List.take_zero, List.length_nil, Nat.sub_zero, List.replicate_zero, List.nil_append,
      List.nil_append, List.drop_zero, Text.value_replicate_zero_append, List.length_append,
      List.length_replicate,
      show -(((-leading - 1).toNat + ds.length : Nat) : Int) = leading + 1 - ds.length by omega]
  · have hz : (-leading - 1).toNat = 0 := by omega
    rw [hz, List.replicate_zero, List.nil_append]
    by_cases hL : ds.length ≤ (leading + 1).toNat
    · -- It stands behind all of them, and zeros fill the gap.
      rw [List.take_of_length_le hL, List.drop_eq_nil_of_le hL, List.append_nil,
        Text.value_append_replicate_zero, Scientific.toRat_mul_pow, List.length_nil,
        show -((0 : Nat) : Int) + (((leading + 1).toNat - ds.length : Nat) : Int) =
          leading + 1 - ds.length by omega]
    · -- It stands among them.
      have hfull : (leading + 1).toNat - (ds.take (leading + 1).toNat).length = 0 := by
        rw [List.length_take]
        omega
      rw [hfull, List.replicate_zero, List.append_nil, List.take_append_drop, List.length_drop,
        show -((ds.length - (leading + 1).toNat : Nat) : Int) = leading + 1 - ds.length by omega]

theorem read_writtenWhole_append {fs : List Char} (hds : ∀ c ∈ ds, c.isDigit)
    (hfs : ∀ c ∈ fs, c.isDigit) :
    Scientific.read (writtenWhole leading ds ++ if fs.isEmpty then [] else '.' :: fs) =
      ⟨Text.value (wholePart leading ds ++ fs), -fs.length⟩ := by
  have hwhole : ∀ c ∈ writtenWhole leading ds, c.isDigit :=
    fun c => isDigit_of_mem_writtenWhole hds
  have h := read_fraction hwhole hfs (Text.stops_nil _)
  rw [List.append_nil, value_writtenWhole_append, List.drop_nil,
    show readExponent [] = 0 from rfl, Int.zero_sub] at h
  exact h

/-- Digits written positionally are read as the number that they stand for. -/
theorem toRat_read_positional (keepsPoint : Bool) (hds : ∀ c ∈ ds, c.isDigit) :
    (Scientific.read (positional keepsPoint leading ds)).toRat =
      Scientific.toRat ⟨Text.value ds, leading + 1 - ds.length⟩ := by
  rw [positional_eq, ← toRat_parts]
  by_cases hf : (fractionPart leading ds).isEmpty ∧ keepsPoint
  · -- A point is written all the same, with one zero behind it.
    have hzero : ∀ c ∈ ['0'], c.isDigit := by
      intro c hc
      rw [List.mem_singleton.1 hc]; rfl
    have hread : Scientific.read (writtenWhole leading ds ++ ['.', '0']) =
        ⟨Text.value (wholePart leading ds ++ ['0']), -1⟩ :=
      read_writtenWhole_append hds hzero
    have hvalue : Text.value (wholePart leading ds ++ ['0']) =
        Text.value (wholePart leading ds) * 10 ^ 1 :=
      Text.value_append_replicate_zero _ 1
    rw [if_pos hf.1, if_pos hf.2, hread, hvalue, Scientific.toRat_mul_pow,
      List.isEmpty_iff.1 hf.1, List.append_nil]
    rfl
  · have hfraction : ∀ c ∈ fractionPart leading ds, c.isDigit :=
      fun c => isDigit_of_mem_fractionPart hds
    rw [← read_writtenWhole_append hds hfraction]
    cases hempty : (fractionPart leading ds).isEmpty with
    | true =>
      have hkeeps : ¬ keepsPoint = true := fun hk => hf ⟨hempty, hk⟩
      rw [if_pos rfl, if_neg hkeeps, if_pos rfl]
    | false => rfl

/-- The exponent is read with its sign, whether a plus is written or not. -/
theorem readExponent_written (plusSign : Bool) (leading : Int) :
    readExponent ((if leading < 0 then ['-'] else if plusSign then ['+'] else []) ++
      Text.digits leading.natAbs) = leading := by
  split
  · rw [List.singleton_append, readExponent, Text.value_digits]
    omega
  · split
    · rw [List.singleton_append, readExponent, Text.value_digits]
      omega
    · rw [List.nil_append, readExponent_of_isDigit fun c => Text.isDigit_of_mem_digits,
        Text.value_digits]
      omega

/-- Digits written with an exponent are read as the number that they stand for. -/
theorem toRat_read_withExponent {marker : Char} (hm : isMarker marker) (plusSign : Bool)
    (hds : ∀ c ∈ ds, c.isDigit) :
    (Scientific.read (withExponent marker plusSign leading ds)).toRat =
      Scientific.toRat ⟨Text.value ds, leading + 1 - ds.length⟩ := by
  have hread : Scientific.read (withExponent marker plusSign leading ds) =
      ⟨Text.value ds, leading - (ds.drop 1).length⟩ := by
    rw [withExponent, List.append_assoc, List.cons_append,
      read_fraction (fun c hc => hds c (List.mem_of_mem_take hc))
        (fun c hc => hds c (List.mem_of_mem_drop hc))
        (Text.stops_cons (by rw [hm]; rfl) _),
      List.take_append_drop, List.drop_one, List.tail_cons, readExponent_written]
  rw [hread]
  cases ds with
  | nil => exact (Scientific.toRat_zero _).trans (Scientific.toRat_zero _).symm
  | cons d ds =>
    rw [List.drop_one, List.tail_cons, List.length_cons,
      show leading + 1 - ((ds.length + 1 : Nat) : Int) = leading - ds.length by omega]

variable {l : Layout}

/-- The digits that a magnitude is written with. -/
def shortestDigits (tie : Tie) (m : Nat) : List Char :=
  significant (Text.digits (shortestMagnitude tie m).coefficient)

theorem isDigit_shortestDigits (tie : Tie) (m : Nat) : ∀ c ∈ shortestDigits tie m, c.isDigit :=
  fun _ => isDigit_of_mem_significant

/-- A magnitude is written in one of two forms. -/
theorem writeMagnitude_cases (l : Layout) (m : Nat) :
    (l.IsPositional (unitsOf m) ∧ writeMagnitude l m =
      positional l.keepsPoint (shortestMagnitude l.tie m).leading (shortestDigits l.tie m)) ∨
    (¬ l.IsPositional (unitsOf m) ∧ writeMagnitude l m =
      withExponent l.marker l.plusSign (shortestMagnitude l.tie m).leading
        (shortestDigits l.tie m)) := by
  by_cases h : l.IsPositional (unitsOf m)
  · exact Or.inl ⟨h, if_pos h⟩
  · exact Or.inr ⟨h, if_neg h⟩

/-- **The text of a magnitude denotes the number of its shortest decimal.** -/
theorem toRat_read_writeMagnitude (hl : isMarker l.marker) (m : Nat) :
    (Scientific.read (writeMagnitude l m)).toRat = (shortestMagnitude l.tie m).toRat := by
  have hds := isDigit_shortestDigits l.tie m
  rcases writeMagnitude_cases l m with ⟨-, hform⟩ | ⟨-, hform⟩
  · rw [hform, toRat_read_positional l.keepsPoint hds]
    exact toRat_significant _
  · rw [hform, toRat_read_withExponent hl l.plusSign hds]
    exact toRat_significant _

/-- **The text of a finite magnitude denotes a decimal that reads back as that magnitude.** -/
theorem readsBack_read_writeMagnitude (hl : isMarker l.marker) (hm : m < infinityMagnitude) :
    ReadsBack m (.read (writeMagnitude l m)) :=
  (readsBack_congr (toRat_read_writeMagnitude hl m)).2 (readsBack_shortestMagnitude l.tie hm)

theorem writeMagnitude_injective {n : Nat} (hl : isMarker l.marker) (hm : m < infinityMagnitude)
    (hn : n < infinityMagnitude) (h : writeMagnitude l m = writeMagnitude l n) : m = n := by
  have hread := readsBack_read_writeMagnitude hl hm
  rw [h] at hread
  exact hread.symm.trans (readsBack_read_writeMagnitude hl hn)

/-! ## Characters of the texts -/

theorem isNumeral_of_mem_positional {keepsPoint : Bool} (hds : ∀ c ∈ ds, c.isDigit) {c : Char}
    (hc : c ∈ positional keepsPoint leading ds) : isNumeral c := by
  rw [positional_eq] at hc
  rcases List.mem_append.1 hc with hc | hc
  · exact isNumeral_of_isDigit (isDigit_of_mem_writtenWhole hds hc)
  · split at hc
    · split at hc
      · rcases List.mem_cons.1 hc with rfl | hc
        · rfl
        · rw [List.mem_singleton.1 hc]; rfl
      · exact nomatch hc
    · rcases List.mem_cons.1 hc with rfl | hc
      · rfl
      · exact isNumeral_of_isDigit (isDigit_of_mem_fractionPart hds hc)

theorem isNumeral_of_mem_withExponent {marker : Char} (hm : isMarker marker) {plusSign : Bool}
    (hds : ∀ c ∈ ds, c.isDigit) {c : Char} (hc : c ∈ withExponent marker plusSign leading ds) :
    isNumeral c := by
  rw [withExponent, List.append_assoc, List.append_assoc, List.mem_append, List.mem_append,
    List.cons_append, List.mem_cons, List.mem_append] at hc
  rcases hc with hc | hc | rfl | hc | hc
  · exact isNumeral_of_isDigit (hds c (List.mem_of_mem_take hc))
  · split at hc
    · exact nomatch hc
    · rcases List.mem_cons.1 hc with rfl | hc
      · rfl
      · exact isNumeral_of_isDigit (hds c (List.mem_of_mem_drop hc))
  · exact isNumeral_of_isMarker hm
  · split at hc
    · rw [List.mem_singleton.1 hc]; rfl
    · split at hc
      · rw [List.mem_singleton.1 hc]; rfl
      · exact nomatch hc
  · exact isNumeral_of_isDigit (Text.isDigit_of_mem_digits hc)

theorem isNumeral_of_mem_writeMagnitude (hl : isMarker l.marker) {c : Char}
    (hc : c ∈ writeMagnitude l m) : isNumeral c := by
  have hds := isDigit_shortestDigits l.tie m
  rcases writeMagnitude_cases l m with ⟨-, hform⟩ | ⟨-, hform⟩
  · rw [hform] at hc
    exact isNumeral_of_mem_positional hds hc
  · rw [hform] at hc
    exact isNumeral_of_mem_withExponent hl hds hc

/-- A number with a point or an exponent is not written like a whole one. -/
theorem exists_mem_writeMagnitude (hl : isMarker l.marker) (hk : l.keepsPoint) :
    ∃ c ∈ writeMagnitude l m, c = '.' ∨ isMarker c := by
  rcases writeMagnitude_cases l m with ⟨-, hform⟩ | ⟨-, hform⟩
  · refine ⟨'.', ?_, Or.inl rfl⟩
    rw [hform, positional_eq, hk]
    refine List.mem_append_right _ ?_
    split <;> exact List.mem_cons_self
  · refine ⟨l.marker, ?_, Or.inr hl⟩
    rw [hform, withExponent, List.append_assoc, List.cons_append]
    exact List.mem_append_right _ List.mem_cons_self

theorem isDigit_head_positional {keepsPoint : Bool} (hds : ∀ c ∈ ds, c.isDigit) :
    ∃ c rest, positional keepsPoint leading ds = c :: rest ∧ c.isDigit := by
  rw [positional_eq, writtenWhole]
  cases hw : wholePart leading ds with
  | nil => exact ⟨'0', _, rfl, rfl⟩
  | cons c cs => exact ⟨c, _, rfl, isDigit_of_mem_wholePart hds (hw ▸ List.mem_cons_self)⟩

theorem shortestDigits_ne_nil (hm : m < infinityMagnitude) (h₀ : m ≠ 0) (tie : Tie) :
    shortestDigits tie m ≠ [] := by
  intro hnil
  have hread := readsBack_shortestMagnitude tie hm
  have hc := significant_digits_eq_nil hnil
  rw [show shortestMagnitude tie m = ⟨(shortestMagnitude tie m).coefficient,
    (shortestMagnitude tie m).exponent⟩ from rfl, hc] at hread
  exact h₀ (readsBack_zero.1 hread)

/-- The text of a finite magnitude starts with a digit. -/
theorem isDigit_head_writeMagnitude (l : Layout) (hm : m < infinityMagnitude) :
    ∃ c rest, writeMagnitude l m = c :: rest ∧ c.isDigit := by
  have hds := isDigit_shortestDigits l.tie m
  rcases writeMagnitude_cases l m with ⟨-, hform⟩ | ⟨hpos, hform⟩
  · rw [hform]
    exact isDigit_head_positional hds
  · have h₀ : m ≠ 0 := by
      rintro rfl
      exact hpos (Or.inl rfl)
    obtain ⟨c, cs, hcs⟩ := List.exists_cons_of_ne_nil (shortestDigits_ne_nil hm h₀ l.tie)
    rw [hform, withExponent, hcs]
    exact ⟨c, _, rfl, hds c (hcs ▸ List.mem_cons_self)⟩

/-! ## The text of a double -/

/-- The text of a double without its sign, where it is a number. -/
def body (l : Layout) (d : Double) : List Char :=
  if d.IsInfinite then l.infinity.toList else writeMagnitude l d.magnitude

theorem write_of_not_isNaN {d : Double} (h : ¬ d.IsNaN) :
    d.write l = (if d.IsNegative then ['-'] else []) ++ d.body l :=
  if_neg h

theorem isFinite_or_isInfinite {d : Double} (h : ¬ d.IsNaN) (hi : ¬ d.IsInfinite) :
    d.IsFinite :=
  Nat.lt_of_le_of_ne (Nat.le_of_not_lt h) hi

theorem eq_of_magnitude {a b : Double} (hm : a.magnitude = b.magnitude)
    (hs : a.IsNegative ↔ b.IsNegative) : a = b := by
  rw [← ofMagnitude_magnitude a, ← ofMagnitude_magnitude b, hm, decide_eq_decide.2 hs]

/-- Infinity has its usual name, and the exponent one of the two usual marks. -/
def Layout.IsUsual (l : Layout) : Prop := isMarker l.marker ∧ l.infinity = "Infinity"

theorem head_body (hl : l.IsUsual) {d : Double} (h : ¬ d.IsNaN) :
    ∃ c rest, d.body l = c :: rest ∧ (d.IsInfinite → c = 'I') ∧ (¬ d.IsInfinite → c.isDigit) := by
  unfold body
  by_cases hi : d.IsInfinite
  · rw [if_pos hi, hl.2]
    exact ⟨'I', _, rfl, fun _ => rfl, fun h => absurd hi h⟩
  · obtain ⟨c, rest, htext, hc⟩ := isDigit_head_writeMagnitude l (isFinite_or_isInfinite h hi)
    rw [if_neg hi]
    exact ⟨c, rest, htext, fun h => absurd h hi, fun _ => hc⟩

theorem head_body_ne (hl : l.IsUsual) {d : Double} (h : ¬ d.IsNaN) :
    ∃ c rest, d.body l = c :: rest ∧ c ≠ '-' ∧ c ≠ 'N' := by
  obtain ⟨c, rest, hbody, hinf, hfin⟩ := head_body hl h
  refine ⟨c, rest, hbody, ?_⟩
  by_cases hi : d.IsInfinite
  · rw [hinf hi]
    decide
  · have hc := hfin hi
    constructor <;> (rintro rfl; exact absurd hc (by decide))

theorem body_injective (hl : l.IsUsual) {a b : Double} (ha : ¬ a.IsNaN) (hb : ¬ b.IsNaN)
    (h : a.body l = b.body l) : a.magnitude = b.magnitude := by
  obtain ⟨c, _, hca, hia, hfa⟩ := head_body hl ha
  obtain ⟨d, _, hcb, hib, hfb⟩ := head_body hl hb
  obtain ⟨rfl, -⟩ := List.cons.inj (hca.symm.trans (h.trans hcb))
  by_cases hi : a.IsInfinite
  · by_cases hj : b.IsInfinite
    · exact Eq.trans hi (Eq.symm hj)
    · rw [hia hi] at hfb
      exact absurd (hfb hj) (by decide)
  · by_cases hj : b.IsInfinite
    · rw [hib hj] at hfa
      exact absurd (hfa hi) (by decide)
    · unfold body at h
      rw [if_neg hi, if_neg hj] at h
      exact writeMagnitude_injective hl.1 (isFinite_or_isInfinite ha hi)
        (isFinite_or_isInfinite hb hj) h

theorem write_ne_of_isNaN (hl : l.IsUsual) {a b : Double} (ha : a.IsNaN) (hb : ¬ b.IsNaN) :
    a.write l ≠ b.write l := by
  obtain ⟨c, rest, hbody, -, hc⟩ := head_body_ne hl hb
  rw [write_of_not_isNaN hb, hbody, write, if_pos ha]
  split
  · exact fun h => absurd (List.cons.inj h).1 (by decide)
  · exact fun h => hc (List.cons.inj h).1.symm

/-- **A text has one double**, except that all that is not a number has the same text. -/
theorem write_eq_write_iff (hl : l.IsUsual) {a b : Double} :
    a.write l = b.write l ↔ a = b ∨ a.IsNaN ∧ b.IsNaN := by
  constructor
  · intro h
    by_cases ha : a.IsNaN
    · by_cases hb : b.IsNaN
      · exact Or.inr ⟨ha, hb⟩
      · exact absurd h (write_ne_of_isNaN hl ha hb)
    by_cases hb : b.IsNaN
    · exact absurd h.symm (write_ne_of_isNaN hl hb ha)
    obtain ⟨c, cs, hca, hc, -⟩ := head_body_ne hl ha
    obtain ⟨d, ds, hdb, hd, -⟩ := head_body_ne hl hb
    rw [write_of_not_isNaN ha, write_of_not_isNaN hb] at h
    by_cases hna : a.IsNegative <;> by_cases hnb : b.IsNegative
    · rw [if_pos hna, if_pos hnb] at h
      exact Or.inl (eq_of_magnitude (body_injective hl ha hb (List.append_cancel_left h))
        (iff_of_true hna hnb))
    · rw [if_pos hna, if_neg hnb, hdb] at h
      exact absurd (List.cons.inj h).1.symm hd
    · rw [if_neg hna, if_pos hnb, hca] at h
      exact absurd (List.cons.inj h).1 hc
    · rw [if_neg hna, if_neg hnb] at h
      exact Or.inl (eq_of_magnitude (body_injective hl ha hb h) (iff_of_false hna hnb))
  · rintro (rfl | ⟨ha, hb⟩)
    · rfl
    · rw [write, write, if_pos ha, if_pos hb]

end Double

end DocumentQuery
