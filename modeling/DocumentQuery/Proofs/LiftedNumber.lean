import DocumentQuery.Proofs.Lifting
import DocumentQuery.Proofs.ScalarComparison

/-!
# Lifted whole numbers

A whole number is lifted to the narrowest integer that holds it, and beyond 64 bits with a sign to
the nearest double. It is kept exactly as an integer, and it is moved by half a step at most as a
double.

**Steps.** From `2⁶³` to `2⁶⁴` the doubles are 2048 apart, and both ends are doubles
(`valueOf_steps`). So the nearest double lies between the ends, also if it is the upper one, and one
of the two neighbours of a number is within 1024 of it.

**The nearest double.** `IsRounding` compares distances to all finite doubles of both signs. A
magnitude that is nearest among magnitudes is nearest among them, since a negative number is further
from a positive one than zero is.

**Order.** Integers are lifted to themselves, and rounding keeps the order. At the seam, every
integer is below `2⁶³` and no double is.

Main results: `isRounding_of_isNearest`, `abs_sub_nearest_le`, `ofWhole_cases` and
`lifting_of_whole`.
-/

namespace DocumentQuery

-- Powers of natural numbers are those of the core library, also beside a library with others.
attribute [local instance (2000)] instPowNat

namespace Double

variable {d : Double} {q : ℚ} {m n : Nat}

/-! ## The nearest double -/

/-- The double is finite and nearest to the number among the finite ones, and it is even if another
one is as near. -/
structure IsRounding (q : ℚ) (d : Double) : Prop where
  isFinite : d.IsFinite
  nearest : ∀ e : Double, e.IsFinite → |q - d.toRat| ≤ |q - e.toRat|
  tiesToEven : ∀ e : Double, e.IsFinite → e ≠ d → |q - e.toRat| = |q - d.toRat| →
    d.magnitude % 2 = 0

theorem valueOf_nonneg (m : Nat) : 0 ≤ valueOf m := by
  rw [← valueOf_zero]
  exact valueOf_strictMono.monotone (Nat.zero_le m)

theorem toRat_of_isNegative (h : d.IsNegative) : d.toRat = -valueOf d.magnitude := by
  rw [toRat, decide_eq_true h]
  rfl

theorem toRat_of_not_isNegative (h : ¬ d.IsNegative) : d.toRat = valueOf d.magnitude := by
  rw [toRat, decide_eq_false h]
  rfl

theorem IsNearest.abs_sub_le (h : IsNearest q m) (hn : n ≤ infinityMagnitude) :
    |q - valueOf m| ≤ |q - valueOf n| := by
  by_cases hne : n = m
  · rw [hne]
  · rcases h.2 n hn hne with hlt | ⟨heq, -⟩
    · exact hlt.le
    · exact heq.le

theorem IsNearest.even (h : IsNearest q m) (hn : n ≤ infinityMagnitude) (hne : n ≠ m)
    (heq : |q - valueOf n| = |q - valueOf m|) : m % 2 = 0 := by
  rcases h.2 n hn hne with hlt | ⟨-, heven⟩
  · exact absurd heq hlt.ne'
  · exact heven

/-- A negative number is as far from a positive one as zero is, and by its own size further. -/
theorem abs_sub_toRat_of_isNegative (hq : 0 ≤ q) (h : d.IsNegative) :
    |q - d.toRat| = |q - valueOf 0| + valueOf d.magnitude := by
  have hsize := valueOf_nonneg d.magnitude
  rw [toRat_of_isNegative h, valueOf_zero, sub_zero, sub_neg_eq_add, abs_of_nonneg hq,
    abs_of_nonneg (add_nonneg hq hsize)]

/-- **The nearest magnitude gives the nearest double.** -/
theorem isRounding_of_isNearest (hq : 0 ≤ q) (hd : d.IsFinite) (hsign : ¬ d.IsNegative)
    (hzero : d.magnitude ≠ 0) (h : IsNearest q d.magnitude) : IsRounding q d := by
  have hd' := toRat_of_not_isNegative hsign
  refine ⟨hd, fun e he => ?_, fun e he hne heq => ?_⟩
  · rw [hd']
    by_cases hneg : e.IsNegative
    · rw [abs_sub_toRat_of_isNegative hq hneg]
      exact (h.abs_sub_le (Nat.zero_le _)).trans
        (le_add_of_nonneg_right (valueOf_nonneg e.magnitude))
    · rw [toRat_of_not_isNegative hneg]
      exact h.abs_sub_le (Nat.le_of_lt he)
  · rw [hd'] at heq
    by_cases hneg : e.IsNegative
    · -- Zero is as near as the negative number, which is no nearer than zero.
      rw [abs_sub_toRat_of_isNegative hq hneg] at heq
      have hsize := valueOf_nonneg e.magnitude
      have hnearest := h.abs_sub_le (Nat.zero_le infinityMagnitude)
      exact h.even (Nat.zero_le _) hzero.symm (by linarith)
    · rw [toRat_of_not_isNegative hneg] at heq
      exact h.even (Nat.le_of_lt he) (fun hm => hne (eq_of_magnitude hm (iff_of_false hneg hsign)))
        heq

/-! ## Steps between whole numbers -/

/-- The magnitudes of a binade from `2 ^ 52` units on, counted by steps of `2 ^ k`. -/
theorem valueOf_steps {k s : Nat} (hlow : binadeSize ≤ s) (hhigh : s ≤ 2 * binadeSize) :
    valueOf ((unitExponent + k) * binadeSize + s) = s * 2 ^ k := by
  have hone : (unitsPerOne : ℚ) ≠ 0 := cast_unitsPerOne_pos.ne'
  have hunits : s * 2 ^ (unitExponent + k) = s * 2 ^ k * unitsPerOne := by
    rw [Nat.pow_add, unitsPerOne]
    ring
  rw [valueOf, unitsOf_steps hhigh (Or.inr hlow), hunits, Nat.cast_mul, mul_div_cancel_right₀ _ hone]
  push_cast
  rfl

/-- The magnitude of `2048 * s`, for `s` from `2 ^ 52` to `2 ^ 53`. -/
def wideMagnitude (s : Nat) : Nat := (unitExponent + 11) * binadeSize + s

theorem valueOf_wideMagnitude {s : Nat} (hlow : binadeSize ≤ s) (hhigh : s ≤ 2 * binadeSize) :
    valueOf (wideMagnitude s) = 2048 * s := by
  rw [wideMagnitude, valueOf_steps hlow hhigh]
  norm_num
  ring

theorem wideMagnitude_lt {s : Nat} (hhigh : s ≤ 2 * binadeSize) :
    wideMagnitude s < infinityMagnitude := by
  have hlarge : (unitExponent + 11) * binadeSize + 2 * binadeSize < infinityMagnitude := by decide
  exact Nat.lt_of_le_of_lt (Nat.add_le_add_left hhigh _) hlarge

/-- A number that has a magnitude is rounded to it. -/
theorem nearestMagnitude_of_valueOf_eq (hm : m ≤ infinityMagnitude) (h : valueOf m = n) :
    nearestMagnitude n 1 = m := by
  rw [← isNearest_iff Nat.one_pos, Nat.cast_one, div_one, ← h]
  refine ⟨hm, fun k _ hne => Or.inl ?_⟩
  rw [sub_self, abs_zero, abs_pos, sub_ne_zero]
  exact valueOf_strictMono.injective.ne (Ne.symm hne)

theorem isNearest_nearestMagnitude_one (n : Nat) : IsNearest n (nearestMagnitude n 1) := by
  have h : IsNearest ((n : ℚ) / (1 : Nat)) (nearestMagnitude n 1) :=
    isNearest_nearestMagnitude Nat.one_pos
  rwa [Nat.cast_one, div_one] at h

theorem nearestMagnitude_one_mono (h : m ≤ n) : nearestMagnitude m 1 ≤ nearestMagnitude n 1 :=
  nearestMagnitude_mono Nat.one_pos Nat.one_pos (by simpa using h)

theorem not_isNegative_nearest (n : Nat) : ¬ (nearest false n 1).IsNegative :=
  mt (isNegative_ofMagnitude (nearestMagnitude_lt_signBit n 1)).1 Bool.false_ne_true

theorem toRat_nearest (n : Nat) : (nearest false n 1).toRat = valueOf (nearestMagnitude n 1) := by
  rw [toRat_of_not_isNegative (not_isNegative_nearest n), magnitude_nearest]

section Wide

variable (hlow : 9223372036854775808 ≤ n) (hhigh : n ≤ 18446744073709551616)

include hlow hhigh

/-- **Rounding stays between the ends**, which are doubles. -/
theorem nearestMagnitude_mem_wide :
    wideMagnitude binadeSize ≤ nearestMagnitude n 1 ∧
      nearestMagnitude n 1 ≤ wideMagnitude (2 * binadeSize) := by
  have hbottom : nearestMagnitude 9223372036854775808 1 = wideMagnitude binadeSize := by
    apply nearestMagnitude_of_valueOf_eq (wideMagnitude_lt (by decide)).le
    rw [valueOf_wideMagnitude le_rfl (by decide)]
    norm_num [binadeSize]
  have htop : nearestMagnitude 18446744073709551616 1 = wideMagnitude (2 * binadeSize) := by
    apply nearestMagnitude_of_valueOf_eq (wideMagnitude_lt le_rfl).le
    rw [valueOf_wideMagnitude (by decide) le_rfl]
    norm_num [binadeSize]
  rw [← hbottom, ← htop]
  exact ⟨nearestMagnitude_one_mono hlow, nearestMagnitude_one_mono hhigh⟩

theorem isFinite_nearest : (nearest false n 1).IsFinite := by
  rw [IsFinite, magnitude_nearest]
  exact Nat.lt_of_le_of_lt (nearestMagnitude_mem_wide hlow hhigh).2 (wideMagnitude_lt le_rfl)

/-- **Rounding moves a number by half a step at most.** -/
theorem abs_sub_nearest_le : |(n : ℚ) - valueOf (nearestMagnitude n 1)| ≤ 1024 := by
  have hnearest := isNearest_nearestMagnitude_one n
  have hstep : ∀ s, binadeSize ≤ s → s ≤ 2 * binadeSize →
      |(n : ℚ) - valueOf (nearestMagnitude n 1)| ≤ |(n : ℚ) - 2048 * s| := by
    intro s hs hs'
    rw [← valueOf_wideMagnitude hs hs']
    exact hnearest.abs_sub_le (wideMagnitude_lt hs').le
  have hdiv := Nat.div_add_mod n 2048
  have hmod := Nat.mod_lt n (show 0 < 2048 by decide)
  have hcast : (n : ℚ) = 2048 * (n / 2048 : Nat) + (n % 2048 : Nat) := by exact_mod_cast hdiv.symm
  -- The nearer one of the two neighbours is within half a step.
  by_cases hhalf : n % 2048 ≤ 1024
  · refine (hstep (n / 2048) (by unfold binadeSize; omega) (by unfold binadeSize; omega)).trans ?_
    rw [hcast, add_sub_cancel_left, abs_of_nonneg (Nat.cast_nonneg _)]
    exact_mod_cast hhalf
  · refine (hstep (n / 2048 + 1) (by unfold binadeSize; omega) (by unfold binadeSize; omega)).trans
      ?_
    have hrest : (1024 : ℚ) < (n % 2048 : Nat) := by exact_mod_cast Nat.lt_of_not_le hhalf
    have hless : ((n % 2048 : Nat) : ℚ) < 2048 := by exact_mod_cast hmod
    rw [hcast, abs_le]
    push_cast
    constructor <;> linarith

/-- **Beyond 64 bits with a sign**, a number is lifted to the nearest double, which lies between the
ends, at most half a step away, and is the number itself if any double is. -/
theorem nearest_of_wide :
    IsRounding n (nearest false n 1) ∧
      9223372036854775808 ≤ (nearest false n 1).toRat ∧
      (nearest false n 1).toRat ≤ 18446744073709551616 ∧
      |(n : ℚ) - (nearest false n 1).toRat| ≤ 1024 ∧
      ((nearest false n 1).toRat = n ↔ ∃ e : Double, e.IsFinite ∧ e.toRat = n) := by
  have hfinite := isFinite_nearest hlow hhigh
  have hmem := nearestMagnitude_mem_wide hlow hhigh
  have hrounding : IsRounding n (nearest false n 1) := by
    apply isRounding_of_isNearest (Nat.cast_nonneg n) hfinite (not_isNegative_nearest n)
    · rw [magnitude_nearest]
      exact Nat.ne_of_gt (Nat.lt_of_lt_of_le (by decide) hmem.1)
    · rw [magnitude_nearest]
      exact isNearest_nearestMagnitude_one n
  refine ⟨hrounding, ?_, ?_, ?_, fun h => ⟨_, hfinite, h⟩, ?_⟩
  · have hbottom := valueOf_strictMono.monotone hmem.1
    rw [valueOf_wideMagnitude le_rfl (by decide)] at hbottom
    rw [toRat_nearest]
    exact le_trans (by norm_num [binadeSize]) hbottom
  · have htop := valueOf_strictMono.monotone hmem.2
    rw [valueOf_wideMagnitude (by decide) le_rfl] at htop
    rw [toRat_nearest]
    exact le_trans htop (by norm_num [binadeSize])
  · rw [toRat_nearest]
    exact abs_sub_nearest_le hlow hhigh
  · rintro ⟨e, he, heq⟩
    have hnearest := hrounding.nearest e he
    rw [heq, sub_self, abs_zero, abs_nonpos_iff, sub_eq_zero] at hnearest
    exact hnearest.symm

end Wide

end Double

/-! ## Values of whole numbers -/

namespace Value

variable {n k : Json.Whole}

/-- The number that a value denotes, if it is a finite one. -/
def number? : Value → Option ℚ
  | .int n => some n.toInt
  | .long n => some n.toInt
  | .double d => if d.IsFinite then some d.toRat else none
  | .decimal d => some d.toRat
  | _ => none

/-- **The three ranges of whole numbers.** -/
theorem ofWhole_cases (n : Json.Whole) :
    (-2147483648 ≤ n.val ∧ n.val ≤ 2147483647 ∧ ∃ i : Int32, i.toInt = n.val ∧ ofWhole n = .int i) ∨
    (¬ (-2147483648 ≤ n.val ∧ n.val ≤ 2147483647) ∧ n.val ≤ 9223372036854775807 ∧
      ∃ i : Int64, i.toInt = n.val ∧ ofWhole n = .long i) ∨
    (9223372036854775807 < n.val ∧ ofWhole n = .double (Double.nearest false n.val.toNat 1)) := by
  unfold ofWhole
  split
  next hint =>
    exact Or.inl ⟨hint.1, by omega, _, Int32.toInt_ofInt_of_le hint.1 hint.2, rfl⟩
  next hint =>
    split
    next hlong =>
      exact Or.inr (Or.inl ⟨by omega, by omega, _, Int64.toInt_ofInt_of_le n.ge hlong, rfl⟩)
    next hlong =>
      have hsign : decide (n.val < 0) = false := decide_eq_false (by omega)
      have habs : n.val.natAbs = n.val.toNat := by omega
      exact Or.inr (Or.inr ⟨by omega, by rw [ofNumber_whole, hsign, habs]⟩)

theorem exists_ofWhole_eq_int_iff :
    (∃ i : Int32, i.toInt = n.val ∧ ofWhole n = .int i) ↔
      -2147483648 ≤ n.val ∧ n.val ≤ 2147483647 := by
  rcases ofWhole_cases n with ⟨hlow, hhigh, i, hi, h⟩ | ⟨hint, -, i, -, h⟩ | ⟨hwide, h⟩
  · exact iff_of_true ⟨i, hi, h⟩ ⟨hlow, hhigh⟩
  · exact iff_of_false (by simp [h]) hint
  · exact iff_of_false (by simp [h]) (by omega)

theorem exists_ofWhole_eq_long_iff :
    (∃ i : Int64, i.toInt = n.val ∧ ofWhole n = .long i) ↔
      ¬ (-2147483648 ≤ n.val ∧ n.val ≤ 2147483647) ∧ n.val ≤ 9223372036854775807 := by
  rcases ofWhole_cases n with ⟨hlow, hhigh, i, -, h⟩ | ⟨hint, hlong, i, hi, h⟩ | ⟨hwide, h⟩
  · exact iff_of_false (by simp [h]) fun hlong => hlong.1 ⟨hlow, hhigh⟩
  · exact iff_of_true ⟨i, hi, h⟩ ⟨hint, hlong⟩
  · exact iff_of_false (by simp [h]) (by omega)

theorem exists_ofWhole_eq_double_iff :
    (∃ d : Double, ofWhole n = .double d) ↔ 9223372036854775807 < n.val := by
  rcases ofWhole_cases n with ⟨_, _, i, _, h⟩ | ⟨_, _, i, _, h⟩ | ⟨hwide, h⟩
  · exact iff_of_false (by simp [h]) (by omega)
  · exact iff_of_false (by simp [h]) (by omega)
  · exact iff_of_true ⟨_, h⟩ hwide

/-- Beyond 64 bits with a sign, the number of a whole number as a natural one. -/
theorem toNat_of_wide (h : 9223372036854775807 < n.val) :
    9223372036854775808 ≤ n.val.toNat ∧ n.val.toNat ≤ 18446744073709551616 ∧
      ((n.val.toNat : Nat) : ℚ) = n.val := by
  have hlt := n.lt
  refine ⟨by omega, by omega, ?_⟩
  have hcast : ((n.val.toNat : Nat) : Int) = n.val := Int.toNat_of_nonneg (by omega)
  exact_mod_cast congrArg (Int.cast (R := ℚ)) hcast

/-- What is lifted is kept, or it is a double from `2 ^ 63` on. -/
theorem number?_ofWhole (n : Json.Whole) :
    (n.val ≤ 9223372036854775807 ∧ (ofWhole n).number? = some (n.val : ℚ)) ∨
    (9223372036854775807 < n.val ∧
      (ofWhole n).number? = some (Double.nearest false n.val.toNat 1).toRat ∧
      9223372036854775808 ≤ (Double.nearest false n.val.toNat 1).toRat) := by
  rcases ofWhole_cases n with ⟨_, _, i, hi, h⟩ | ⟨_, _, i, hi, h⟩ | ⟨hwide, h⟩
  · refine Or.inl ⟨by omega, ?_⟩
    rw [h, number?, hi]
  · refine Or.inl ⟨by omega, ?_⟩
    rw [h, number?, hi]
  · obtain ⟨hlow, hhigh, -⟩ := toNat_of_wide hwide
    obtain ⟨hrounding, hbottom, -⟩ := Double.nearest_of_wide hlow hhigh
    refine Or.inr ⟨hwide, ?_, hbottom⟩
    rw [h, number?, if_pos hrounding.isFinite]

/-- **Lifting keeps the order**, also from integers to doubles. -/
theorem number?_ofWhole_mono (h : n.val ≤ k.val) :
    ∃ q r, (ofWhole n).number? = some q ∧ (ofWhole k).number? = some r ∧ q ≤ r := by
  rcases number?_ofWhole n with ⟨hn, hq⟩ | ⟨hn, hq, -⟩
  · rcases number?_ofWhole k with ⟨-, hr⟩ | ⟨-, hr, hbottom⟩
    · exact ⟨_, _, hq, hr, by exact_mod_cast h⟩
    · refine ⟨_, _, hq, hr, le_trans ?_ hbottom⟩
      exact_mod_cast hn.trans (by decide)
  · rcases number?_ofWhole k with ⟨hk, -⟩ | ⟨-, hr, -⟩
    · omega
    · refine ⟨_, _, hq, hr, ?_⟩
      rw [Double.toRat_nearest, Double.toRat_nearest]
      exact Double.valueOf_strictMono.monotone
        (Double.nearestMagnitude_one_mono (Int.toNat_le_toNat h))

/-- **Whole numbers are lifted exactly up to 64 bits with a sign, and in order with half a step of
rounding beyond.** A whole number becomes the 32-bit integer of its value if and only if it is in
the range of these, the 64-bit integer of its value if and only if it is another number up to the
largest of these, and a double if and only if it is larger still. The double is finite and the
nearest one, the even one of two, lies from `2⁶³` to `2⁶⁴` and within 1024 of the number, and is the
number itself if and only if any double is. The order of whole numbers is that of the numbers that
they are lifted to, whatever their kinds. -/
theorem lifting_of_whole :
    (∀ n : Json.Whole,
      ((∃ i : Int32, i.toInt = n.val ∧ ofJson (.whole n) = .int i) ↔
        -2147483648 ≤ n.val ∧ n.val ≤ 2147483647) ∧
      ((∃ i : Int64, i.toInt = n.val ∧ ofJson (.whole n) = .long i) ↔
        ¬ (-2147483648 ≤ n.val ∧ n.val ≤ 2147483647) ∧ n.val ≤ 9223372036854775807) ∧
      ((∃ d : Double, ofJson (.whole n) = .double d) ↔ 9223372036854775807 < n.val) ∧
      ∀ d : Double, ofJson (.whole n) = .double d →
        ¬ d.IsNaN ∧ Double.IsRounding n.val d ∧
        9223372036854775808 ≤ d.toRat ∧ d.toRat ≤ 18446744073709551616 ∧
        |(n.val : ℚ) - d.toRat| ≤ 1024 ∧
        (d.toRat = n.val ↔ ∃ e : Double, e.IsFinite ∧ e.toRat = n.val)) ∧
    ∀ n k : Json.Whole, n.val ≤ k.val →
      ∃ q r, (ofJson (.whole n)).number? = some q ∧ (ofJson (.whole k)).number? = some r ∧
        q ≤ r := by
  simp only [ofJson]
  refine ⟨fun n => ⟨exists_ofWhole_eq_int_iff, exists_ofWhole_eq_long_iff,
    exists_ofWhole_eq_double_iff, fun d hd => ?_⟩, fun n k => number?_ofWhole_mono⟩
  rcases ofWhole_cases n with ⟨_, _, i, _, h⟩ | ⟨_, _, i, _, h⟩ | ⟨hwide, h⟩
  · rw [h] at hd
    cases hd
  · rw [h] at hd
    cases hd
  · rw [h] at hd
    obtain rfl := Value.double.inj hd
    obtain ⟨hlow, hhigh, hcast⟩ := toNat_of_wide hwide
    have hlifted := Double.nearest_of_wide hlow hhigh
    rw [hcast] at hlifted
    exact ⟨Nat.lt_asymm hlifted.1.isFinite, hlifted⟩

/-- The largest 64-bit integer with a sign. -/
def lastLong : Json.Whole := ⟨9223372036854775807, by decide, by decide⟩

/-- Half a step above `2 ^ 63`. -/
def halfStep : Json.Whole := ⟨9223372036854776832, by decide, by decide⟩

/-- Half a step above `2 ^ 63` is lifted to the even neighbour, which is `2 ^ 63` itself, and the last
integer before it is kept. -/
theorem lifting_of_whole_halfStep :
    ofJson (.whole halfStep) = .double ⟨0x43E0000000000000⟩ ∧
      Double.IsRounding halfStep.val ⟨0x43E0000000000000⟩ ∧
      |(halfStep.val : ℚ) - Double.toRat ⟨0x43E0000000000000⟩| ≤ 1024 ∧
      lastLong.val ≤ halfStep.val ∧
      ∃ q r, (ofJson (.whole lastLong)).number? = some q ∧
        (ofJson (.whole halfStep)).number? = some r ∧ q ≤ r := by
  have hlifted : ofJson (.whole halfStep) = .double ⟨0x43E0000000000000⟩ := by decide +kernel
  have horder : lastLong.val ≤ halfStep.val := by decide
  obtain ⟨hkinds, hmono⟩ := lifting_of_whole
  obtain ⟨-, hrounding, -, -, hnear, -⟩ := (hkinds halfStep).2.2.2 _ hlifted
  exact ⟨hlifted, hrounding, hnear, horder, hmono _ _ horder⟩

end Value

end DocumentQuery
