import DocumentQuery.Double.ReadBack
import Mathlib.Algebra.Order.Field.Rat
import Mathlib.Tactic.FieldSimp
import Mathlib.Tactic.Linarith
import Mathlib.Tactic.Positivity
import Mathlib.Tactic.Ring

/-!
# Rounding to the nearest double

`nearestMagnitude` divides in steps of a binade and rounds the number of steps. Here the result is
compared with the numbers that magnitudes stand for: no other magnitude is nearer, and none but an
odd one is as near.

**Steps.** The next magnitude is always one step away (`unitsOf_succ`), also where a binade ends,
because the last step of a binade leads to the next one (`unitsOf_steps`). So magnitudes are in the
order of their numbers.

**Thresholds.** A quotient is rounded beyond a magnitude exactly when it lies nearer to the next
one, or half-way to it from an odd one (`lt_nearestMagnitude_iff`). These thresholds grow with the
magnitude, hence rounding keeps the order, and the numbers that round to a magnitude are those
between two thresholds.

**Infinity.** It counts as one more magnitude, whose number is where the next binade would begin.

Main results: `lt_nearestMagnitude_iff`, `nearestMagnitude_mono`, `isNearest_nearestMagnitude` and
`isNearest_iff`.
-/

namespace DocumentQuery

-- Powers of natural numbers are those of the core library, also beside a library with others.
attribute [local instance (2000)] instPowNat

namespace Double

/-! ## Steps -/

theorem binadeSize_eq : binadeSize = 2 ^ 52 := by decide

theorem binadeSize_pos : 0 < binadeSize := by decide

/-- The exponent of the step from a magnitude to the next one, in units. -/
def stepExponent (m : Nat) : Nat := m / binadeSize - 1

/-- Magnitudes count steps, and all steps of a binade are equally long. The last one of a binade
leads to the next binade. -/
theorem unitsOf_steps {k s : Nat} (hs : s ≤ 2 * binadeSize) (hk : k = 0 ∨ binadeSize ≤ s) :
    unitsOf (k * binadeSize + s) = s * 2 ^ k := by
  have hpos := binadeSize_pos
  by_cases hlow : s < binadeSize
  · obtain rfl : k = 0 := hk.resolve_right (Nat.not_le.2 hlow)
    rw [Nat.zero_mul, Nat.zero_add, unitsOf, if_pos hlow, Nat.pow_zero, Nat.mul_one]
  · obtain ⟨r, rfl⟩ := Nat.exists_eq_add_of_le (Nat.not_lt.1 hlow)
    have hsplit : k * binadeSize + (binadeSize + r) = r + binadeSize * (k + 1) := by ring
    have hbig : ¬ r + binadeSize * (k + 1) < binadeSize :=
      Nat.not_lt.2 (Nat.le_add_left_of_le (Nat.le_mul_of_pos_right _ k.succ_pos))
    rw [hsplit, unitsOf, if_neg hbig, Nat.add_mul_mod_self_left, Nat.add_mul_div_left _ _ hpos]
    by_cases hr : r < binadeSize
    · rw [Nat.mod_eq_of_lt hr, Nat.div_eq_of_lt hr, Nat.zero_add, Nat.add_sub_cancel]
    · obtain rfl : r = binadeSize := by omega
      rw [Nat.mod_self, Nat.div_self hpos, Nat.add_zero,
        show 1 + (k + 1) - 1 = k + 1 by omega, Nat.pow_succ]
      ring

theorem exists_steps (m : Nat) :
    ∃ s, m = stepExponent m * binadeSize + s ∧ s < 2 * binadeSize ∧
      (stepExponent m = 0 ∨ binadeSize ≤ s) := by
  have hmod := Nat.mod_lt m binadeSize_pos
  have hdiv := Nat.div_add_mod m binadeSize
  unfold stepExponent
  cases hq : m / binadeSize with
  | zero =>
    rw [hq, Nat.mul_zero, Nat.zero_add] at hdiv
    exact ⟨m, by simp, by omega, Or.inl rfl⟩
  | succ k =>
    rw [hq] at hdiv
    refine ⟨binadeSize + m % binadeSize, ?_, by omega, Or.inr (Nat.le_add_right _ _)⟩
    conv => lhs; rw [← hdiv]
    rw [Nat.add_sub_cancel]
    ring

theorem unitsOf_succ (m : Nat) : unitsOf (m + 1) = unitsOf m + 2 ^ stepExponent m := by
  obtain ⟨s, hm, hs, hk⟩ := exists_steps m
  generalize stepExponent m = k at hm hk ⊢
  rw [hm, unitsOf_steps (Nat.le_of_lt hs) hk, Nat.add_assoc,
    unitsOf_steps hs (hk.imp_right fun h => Nat.le_succ_of_le h), Nat.succ_mul]

theorem unitsOf_strictMono : StrictMono unitsOf := by
  refine strictMono_nat_of_lt_succ fun m => ?_
  rw [unitsOf_succ]
  exact Nat.lt_add_of_pos_right (Nat.two_pow_pos _)

/-- A number of whole units as so many steps of its binade. -/
theorem steps_of_units (u : Nat) :
    u / 2 ^ binade u < 2 * binadeSize ∧ (binade u = 0 ∨ binadeSize ≤ u / 2 ^ binade u) := by
  have hlt : u < 2 ^ (u.log2 + 1) := Nat.lt_log2_self
  by_cases hlow : u.log2 ≤ 52
  · have hk : binade u = 0 := Nat.sub_eq_zero_of_le hlow
    have hpow : 2 ^ (u.log2 + 1) ≤ 2 ^ 53 := Nat.pow_le_pow_right (by decide) (by omega)
    refine ⟨?_, Or.inl hk⟩
    rw [hk, Nat.pow_zero, Nat.div_one]
    exact Nat.lt_of_lt_of_le hlt hpow
  · have hu : u ≠ 0 := by
      rintro rfl
      exact hlow (by decide)
    have hk : u.log2 = 52 + binade u := by
      unfold binade
      omega
    have hle := Nat.log2_self_le hu
    generalize binade u = k at hk ⊢
    rw [hk] at hlt hle
    refine ⟨(Nat.div_lt_iff_lt_mul (Nat.two_pow_pos k)).2 ?_,
      Or.inr ((Nat.le_div_iff_mul_le (Nat.two_pow_pos k)).2 ?_)⟩
    · rw [binadeSize_eq, ← Nat.pow_succ', ← Nat.pow_add]
      rwa [show 52 + 1 + k = 52 + k + 1 by omega]
    · rw [binadeSize_eq, ← Nat.pow_add]
      exact hle

/-! ## Where rounding goes up -/

theorem lt_roundHalfEven_iff (num den : Nat) :
    num / den < roundHalfEven num den ↔
      den < 2 * (num % den) ∨ den = 2 * (num % den) ∧ num / den % 2 = 1 := by
  unfold roundHalfEven
  split <;> omega

theorem roundHalfEven_le (num den : Nat) : roundHalfEven num den ≤ num / den + 1 := by
  unfold roundHalfEven
  split <;> omega

theorem le_roundHalfEven (num den : Nat) : num / den ≤ roundHalfEven num den := by
  unfold roundHalfEven
  split <;> omega

/-- Counting steps up to a rounded quotient goes beyond a magnitude when the quotient lies nearer to
the next magnitude, or half-way and the next one is even. -/
theorem lt_steps_iff {n den k m : Nat} (hd : 0 < den) (hs : n / (den * 2 ^ k) < 2 * binadeSize)
    (hk : k = 0 ∨ binadeSize ≤ n / (den * 2 ^ k)) :
    m < k * binadeSize + roundHalfEven n (den * 2 ^ k) ↔
      (unitsOf m + unitsOf (m + 1)) * den < 2 * n ∨
        (unitsOf m + unitsOf (m + 1)) * den = 2 * n ∧ m % 2 = 1 := by
  have hD : 0 < den * 2 ^ k := Nat.mul_pos hd (Nat.two_pow_pos k)
  have hn := Nat.div_add_mod n (den * 2 ^ k)
  have hr := Nat.mod_lt n hD
  have hlow : unitsOf (k * binadeSize + n / (den * 2 ^ k)) * den =
      den * 2 ^ k * (n / (den * 2 ^ k)) := by
    rw [unitsOf_steps (Nat.le_of_lt hs) hk]
    ring
  have hhigh : unitsOf (k * binadeSize + n / (den * 2 ^ k) + 1) * den =
      den * 2 ^ k * (n / (den * 2 ^ k)) + den * 2 ^ k := by
    rw [Nat.add_assoc, unitsOf_steps hs (hk.imp_right fun h => Nat.le_succ_of_le h), Nat.succ_mul]
    ring
  have hup := roundHalfEven_le n (den * 2 ^ k)
  have hdown := le_roundHalfEven n (den * 2 ^ k)
  have hiff := lt_roundHalfEven_iff n (den * 2 ^ k)
  generalize n / (den * 2 ^ k) = t at *
  generalize n % (den * 2 ^ k) = r at *
  generalize roundHalfEven n (den * 2 ^ k) = rounded at *
  -- The quotient lies from the magnitude `k * binadeSize + t` up to the next one.
  rw [Nat.add_mul]
  rcases Nat.lt_trichotomy m (k * binadeSize + t) with hlt | heq | hgt
  · have h₁ := Nat.mul_le_mul_right den
      (unitsOf_strictMono.monotone (show m + 1 ≤ k * binadeSize + t from hlt))
    have h₂ := Nat.mul_lt_mul_of_pos_right (unitsOf_strictMono hlt) hd
    rw [hlow] at h₁ h₂
    exact iff_of_true (by omega) (by omega)
  · have hparity : m % 2 = t % 2 := by
      have : binadeSize % 2 = 0 := by decide
      rw [heq, Nat.add_mod, Nat.mul_mod, this, Nat.mul_zero]
      omega
    rw [heq, hlow, hhigh, ← heq, hparity]
    omega
  · have h₁ := Nat.mul_le_mul_right den
      (unitsOf_strictMono.monotone (show k * binadeSize + t + 1 ≤ m from hgt))
    have h₂ := Nat.mul_lt_mul_of_pos_right
      (unitsOf_strictMono (show k * binadeSize + t + 1 < m + 1 from Nat.succ_lt_succ hgt)) hd
    rw [hhigh] at h₁ h₂
    exact iff_of_false (by omega) (by omega)

/-! ## The values of magnitudes -/

/-- The number that a magnitude stands for. For infinity it is the first number that has no finite
double, as if there were one more binade. -/
def valueOf (m : Nat) : ℚ := (unitsOf m : ℚ) / (unitsPerOne : ℚ)

theorem unitsPerOne_pos : 0 < unitsPerOne := Nat.two_pow_pos _

theorem cast_unitsPerOne_pos : (0 : ℚ) < (unitsPerOne : ℚ) := Nat.cast_pos.2 unitsPerOne_pos

theorem valueOf_strictMono : StrictMono valueOf := fun _ _ h =>
  (div_lt_div_iff_of_pos_right cast_unitsPerOne_pos).2 (Nat.cast_lt.2 (unitsOf_strictMono h))

theorem valueOf_add_valueOf (m n : Nat) :
    valueOf m + valueOf n = ((unitsOf m + unitsOf n : Nat) : ℚ) / (unitsPerOne : ℚ) := by
  rw [valueOf, valueOf, ← add_div, Nat.cast_add]

variable {num den m : Nat}

/-- **A quotient is rounded beyond a magnitude when it lies nearer to the next one**, or half-way
and the next one is even. -/
theorem lt_nearestMagnitude_iff (hd : 0 < den) (hm : m < infinityMagnitude) :
    m < nearestMagnitude num den ↔
      valueOf m + valueOf (m + 1) < 2 * ((num : ℚ) / den) ∨
        valueOf m + valueOf (m + 1) = 2 * ((num : ℚ) / den) ∧ m % 2 = 1 := by
  have hsteps := steps_of_units (num * unitsPerOne / den)
  have hden : (0 : ℚ) < den := Nat.cast_pos.2 hd
  have hlt : valueOf m + valueOf (m + 1) < 2 * ((num : ℚ) / den) ↔
      (unitsOf m + unitsOf (m + 1)) * den < 2 * (num * unitsPerOne) := by
    rw [valueOf_add_valueOf, ← mul_div_assoc, div_lt_div_iff₀ cast_unitsPerOne_pos hden, mul_assoc]
    norm_cast
  have heq : valueOf m + valueOf (m + 1) = 2 * ((num : ℚ) / den) ↔
      (unitsOf m + unitsOf (m + 1)) * den = 2 * (num * unitsPerOne) := by
    rw [valueOf_add_valueOf, ← mul_div_assoc, div_eq_div_iff cast_unitsPerOne_pos.ne' hden.ne',
      mul_assoc]
    norm_cast
  rw [Nat.div_div_eq_div_mul] at hsteps
  rw [hlt, heq, ← lt_steps_iff hd hsteps.1 hsteps.2, nearestMagnitude]
  exact ⟨fun h => Nat.lt_of_lt_of_le h (Nat.min_le_left _ _), fun h => lt_min h hm⟩

/-- **Rounding keeps the order.** -/
theorem nearestMagnitude_mono {num' den' : Nat} (hd : 0 < den) (hd' : 0 < den')
    (h : (num : ℚ) / den ≤ (num' : ℚ) / den') :
    nearestMagnitude num den ≤ nearestMagnitude num' den' := by
  by_contra hlt
  have hlt := Nat.not_le.1 hlt
  have hm := Nat.lt_of_lt_of_le hlt (nearestMagnitude_le num den)
  have hlow := (lt_nearestMagnitude_iff hd hm).1 hlt
  have hhigh := mt (lt_nearestMagnitude_iff hd' hm).2 (Nat.lt_irrefl _)
  rw [not_or, not_and] at hhigh
  rcases hlow with hlow | ⟨hlow, hodd⟩
  · exact hhigh.1 (by linarith)
  · exact hhigh.2 (by linarith [hhigh.1]) hodd

/-! ## Nearness -/

/-- No other magnitude up to infinity is nearer to the number, and none is as near unless this one
is even. -/
def IsNearest (q : ℚ) (m : Nat) : Prop :=
  m ≤ infinityMagnitude ∧ ∀ n ≤ infinityMagnitude, n ≠ m →
    |q - valueOf m| < |q - valueOf n| ∨ |q - valueOf m| = |q - valueOf n| ∧ m % 2 = 0

theorem abs_sub_lt_of_lt {a b q : ℚ} (h : a < b) (hq : a + b < 2 * q) : |q - b| < |q - a| := by
  rw [abs_of_pos (show 0 < q - a by linarith), abs_lt]
  constructor <;> linarith

theorem abs_sub_eq_of_eq {a b q : ℚ} (hq : a + b = 2 * q) : |q - b| = |q - a| := by
  rw [show q - b = -(q - a) by linarith, abs_neg]

theorem abs_sub_lt_of_gt {a b q : ℚ} (h : a < b) (hq : 2 * q < a + b) : |q - a| < |q - b| := by
  rw [abs_of_neg (show q - b < 0 by linarith), abs_lt]
  constructor <;> linarith

/-- **The nearest magnitude is nearest**, half-way cases going to the even one. -/
theorem isNearest_nearestMagnitude (hd : 0 < den) :
    IsNearest ((num : ℚ) / den) (nearestMagnitude num den) := by
  have hthreshold : ∀ k, k < infinityMagnitude → (k < nearestMagnitude num den ↔ _) :=
    fun _ => lt_nearestMagnitude_iff hd
  refine ⟨nearestMagnitude_le num den, fun n hn hne => ?_⟩
  have hle := nearestMagnitude_le num den
  generalize nearestMagnitude num den = m at *
  generalize (num : ℚ) / den = q at *
  rcases Nat.lt_or_gt_of_ne hne with hlt | hgt
  · -- Below, the magnitude just before decides.
    obtain ⟨k, rfl⟩ := Nat.exists_eq_add_one_of_ne_zero (Nat.ne_of_gt (Nat.zero_lt_of_lt hlt))
    have hvalue := valueOf_strictMono hlt
    rcases Nat.lt_or_eq_of_le (Nat.le_of_lt_succ hlt) with hnk | rfl
    · have hstep := valueOf_strictMono hnk
      refine Or.inl (abs_sub_lt_of_lt hvalue ?_)
      rcases (hthreshold k hle).1 (Nat.lt_succ_self k) with h | ⟨h, -⟩ <;> linarith
    · rcases (hthreshold n hle).1 (Nat.lt_succ_self n) with h | ⟨h, hodd⟩
      · exact Or.inl (abs_sub_lt_of_lt hvalue h)
      · exact Or.inr ⟨abs_sub_eq_of_eq h, by omega⟩
  · -- Above, it is the magnitude just behind.
    have hvalue := valueOf_strictMono hgt
    have hnot := mt (hthreshold m (Nat.lt_of_lt_of_le hgt hn)).2 (Nat.lt_irrefl m)
    rw [not_or, not_and, not_lt] at hnot
    rcases Nat.lt_or_eq_of_le (Nat.succ_le_of_lt hgt) with hmn | rfl
    · have hstep := valueOf_strictMono hmn
      exact Or.inl (abs_sub_lt_of_gt hvalue (by linarith [hnot.1]))
    · rcases lt_or_eq_of_le hnot.1 with h | h
      · exact Or.inl (abs_sub_lt_of_gt hvalue h)
      · have heven := hnot.2 h.symm
        exact Or.inr ⟨(abs_sub_eq_of_eq h.symm).symm, by omega⟩

/-- Two even magnitudes are not both nearest, since there is one between them. -/
theorem IsNearest.not_lt {q : ℚ} {n : Nat} (hm : IsNearest q m) (hn : IsNearest q n) :
    ¬ m < n := by
  intro hlt
  have hvalue := valueOf_strictMono hlt
  rcases hm.2 n hn.1 (Nat.ne_of_gt hlt) with hm' | ⟨hm', hmeven⟩
  · rcases hn.2 m hm.1 (Nat.ne_of_lt hlt) with hn' | ⟨hn', -⟩ <;> linarith
  rcases hn.2 m hm.1 (Nat.ne_of_lt hlt) with hn' | ⟨-, hneven⟩
  · linarith
  have hnext : m + 1 < n := by omega
  have hlow := valueOf_strictMono (Nat.lt_succ_self m)
  have hhigh := valueOf_strictMono hnext
  have hmid : valueOf m + valueOf n = 2 * q := by
    rcases abs_eq_abs.1 hm' with h | h <;> linarith
  have hcloser : |q - valueOf (m + 1)| < |q - valueOf m| :=
    abs_sub_lt_of_lt hlow (by linarith)
  rcases hm.2 (m + 1) (by have := hn.1; omega) (Nat.succ_ne_self m) with h | ⟨h, -⟩ <;> linarith

/-- **There is one nearest magnitude.** -/
theorem isNearest_iff (hd : 0 < den) :
    IsNearest ((num : ℚ) / den) m ↔ nearestMagnitude num den = m := by
  constructor
  · intro h
    have hnearest : IsNearest ((num : ℚ) / den) _ := isNearest_nearestMagnitude hd
    exact Nat.le_antisymm (Nat.not_lt.1 (h.not_lt hnearest)) (Nat.not_lt.1 (hnearest.not_lt h))
  · rintro rfl
    exact isNearest_nearestMagnitude hd

end Double

end DocumentQuery
