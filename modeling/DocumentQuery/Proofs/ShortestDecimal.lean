import DocumentQuery.Proofs.DoubleText
import DocumentQuery.Proofs.Rounding
import Mathlib.Algebra.Order.Field.Power
import Mathlib.Data.Nat.Cast.Order.Field

/-!
# The shortest decimals are shortest

The search for a short decimal tries the two neighbours of a magnitude on finer and finer grids of
powers of ten. It finds a decimal with as few digits as possible, and a nearest one of those.

**Intervals.** Rounding keeps the order, so all decimals between one that reads back and the double
itself read back (`readsBack_of_between`). Hence only the two neighbours need to be tried.

**Leading digits.** A decimal with few digits lies on the grid for that many digits, or else below
the power of ten at the leading digit of the double, which is on that grid and nearer to the double
(`exists_onGrid_of_readsBack`).

**Seventeen digits.** On the grid for seventeen digits the nearer neighbour is closer than half of a
step between doubles, whichever binade it is in (`readsBack_seventeen`). So the search never falls
back on the exact decimal.

**Ties.** Whether a grid holds an answer does not depend on how ties are broken. The two ways can
only differ between the two neighbours, and then the double is half-way between them.

Main results: `shortestMagnitude_spec` and `shortestMagnitude_up_even`.
-/

namespace DocumentQuery

-- Powers of natural numbers are those of the core library, also beside a library with others.
attribute [local instance (2000)] instPowNat

namespace Scientific

theorem toRat_le_toRat_iff {c d : Nat} {e : Int} : toRat ⟨c, e⟩ ≤ toRat ⟨d, e⟩ ↔ c ≤ d := by
  unfold toRat
  rw [mul_le_mul_iff_left₀ (by positivity), Nat.cast_le]

theorem toRat_succ (c : Nat) (e : Int) : toRat ⟨c + 1, e⟩ = toRat ⟨c, e⟩ + (10 : ℚ) ^ e := by
  unfold toRat
  push_cast
  ring

theorem toRat_lt_zpow {c k : Nat} (hc : c < 10 ^ k) (e : Int) :
    toRat ⟨c, e⟩ < (10 : ℚ) ^ (e + k) := by
  have hcast : (c : ℚ) < (10 : ℚ) ^ k := by exact_mod_cast hc
  unfold toRat
  rw [zpow_add₀ (by norm_num), zpow_natCast, mul_comm]
  exact mul_lt_mul_of_pos_left hcast (by positivity)

end Scientific

namespace Double

variable {m : Nat}

/-! ## Decimals that read back form an interval -/

theorem readsBack_iff {s : Scientific} : ReadsBack m s ↔ IsNearest s.toRat m := by
  rw [Scientific.toRat_eq, isNearest_iff s.denominator_pos]
  exact Iff.rfl

theorem nearestMagnitude_value (hm : m < infinityMagnitude) :
    nearestMagnitude (unitsOf m) unitsPerOne = m := by
  have h := nearestMagnitude_unitsOf hm Nat.one_pos
  rwa [Nat.mul_one, Nat.mul_one] at h

/-- Between a decimal that reads back and the double itself, all decimals read back. -/
theorem readsBack_of_between (hm : m < infinityMagnitude) {s t : Scientific} (hs : ReadsBack m s)
    (h : s.toRat ≤ t.toRat ∧ t.toRat ≤ valueOf m ∨ valueOf m ≤ t.toRat ∧ t.toRat ≤ s.toRat) :
    ReadsBack m t := by
  unfold ReadsBack at hs ⊢
  have hvalue := nearestMagnitude_value hm
  rw [Scientific.toRat_eq, Scientific.toRat_eq] at h
  rcases h with ⟨hst, htv⟩ | ⟨hvt, hts⟩
  · have hlow := nearestMagnitude_mono s.denominator_pos t.denominator_pos hst
    have hhigh := nearestMagnitude_mono t.denominator_pos unitsPerOne_pos htv
    omega
  · have hlow := nearestMagnitude_mono unitsPerOne_pos t.denominator_pos hvt
    have hhigh := nearestMagnitude_mono t.denominator_pos s.denominator_pos hts
    omega

/-! ## The two neighbours on a grid -/

/-- The value of a magnitude in multiples of `10 ^ e`, as a numerator. -/
def gridNumerator (m : Nat) (e : Int) : Nat := unitsOf m * 10 ^ (-e).toNat

def gridDenominator (e : Int) : Nat := unitsPerOne * 10 ^ e.toNat

theorem gridDenominator_pos (e : Int) : 0 < gridDenominator e :=
  Nat.mul_pos unitsPerOne_pos (Nat.pow_pos (by decide))

/-- The multiple of `10 ^ e` just below a magnitude. -/
def floorOn (m : Nat) (e : Int) : Nat := gridNumerator m e / gridDenominator e

theorem valueOf_eq_grid (m : Nat) (e : Int) :
    valueOf m = (gridNumerator m e : ℚ) / gridDenominator e * (10 : ℚ) ^ e := by
  have hU : (unitsPerOne : ℚ) ≠ 0 := cast_unitsPerOne_pos.ne'
  unfold valueOf gridNumerator gridDenominator
  generalize unitsOf m = u at *
  generalize unitsPerOne = U at *
  obtain ⟨n, rfl | rfl⟩ := Int.eq_nat_or_neg e
  · rw [Int.toNat_natCast, Int.toNat_neg_natCast, zpow_natCast]
    push_cast
    field_simp
  · rw [Int.neg_neg, Int.toNat_natCast, Int.toNat_neg_natCast, zpow_neg, zpow_natCast]
    push_cast
    field_simp

theorem toRat_floorOn_le (m : Nat) (e : Int) : Scientific.toRat ⟨floorOn m e, e⟩ ≤ valueOf m := by
  rw [valueOf_eq_grid m e, Scientific.toRat]
  exact mul_le_mul_of_nonneg_right Nat.cast_div_le (by positivity)

theorem valueOf_lt_toRat (m : Nat) (e : Int) :
    valueOf m < Scientific.toRat ⟨floorOn m e + 1, e⟩ := by
  have hd : (0 : ℚ) < gridDenominator e := Nat.cast_pos.2 (gridDenominator_pos e)
  have hlt : gridNumerator m e < (floorOn m e + 1) * gridDenominator e := by
    rw [Nat.mul_comm]
    exact Nat.lt_mul_div_succ _ (gridDenominator_pos e)
  rw [valueOf_eq_grid m e, Scientific.toRat]
  refine mul_lt_mul_of_pos_right ?_ (by positivity)
  rw [div_lt_iff₀ hd]
  exact_mod_cast hlt

/-- **If a decimal on a grid reads back, then so does one of the two neighbours there.** -/
theorem readsBack_neighbour (hm : m < infinityMagnitude) {c : Nat} {e : Int}
    (h : ReadsBack m ⟨c, e⟩) :
    ReadsBack m ⟨floorOn m e, e⟩ ∨ ReadsBack m ⟨floorOn m e + 1, e⟩ := by
  rcases Nat.lt_or_ge (floorOn m e) c with hlt | hge
  · refine Or.inr (readsBack_of_between hm h (Or.inr ⟨(valueOf_lt_toRat m e).le, ?_⟩))
    exact Scientific.toRat_le_toRat_iff.2 hlt
  · refine Or.inl (readsBack_of_between hm h (Or.inl ⟨?_, toRat_floorOn_le m e⟩))
    exact Scientific.toRat_le_toRat_iff.2 hge

/-- Twice a magnitude against its two neighbours, in multiples of `10 ^ e`. -/
theorem neighbours_and_value (m : Nat) (e : Int) :
    Scientific.toRat ⟨floorOn m e, e⟩ + Scientific.toRat ⟨floorOn m e + 1, e⟩ =
        ((2 * floorOn m e + 1) * gridDenominator e : Nat) / gridDenominator e * (10 : ℚ) ^ e ∧
      2 * valueOf m = (2 * gridNumerator m e : Nat) / gridDenominator e * (10 : ℚ) ^ e := by
  have hd : (gridDenominator e : ℚ) ≠ 0 := Nat.cast_ne_zero.2 (Nat.ne_of_gt (gridDenominator_pos e))
  rw [valueOf_eq_grid m e, Scientific.toRat_succ, Scientific.toRat, Nat.cast_mul,
    mul_div_cancel_right₀ _ hd]
  push_cast
  constructor <;> ring

/-- The neighbour above is the nearer one, or equally near and preferred. -/
def PrefersAbove (tie : Tie) (m : Nat) (e : Int) : Prop :=
  Scientific.toRat ⟨floorOn m e, e⟩ + Scientific.toRat ⟨floorOn m e + 1, e⟩ < 2 * valueOf m ∨
    Scientific.toRat ⟨floorOn m e, e⟩ + Scientific.toRat ⟨floorOn m e + 1, e⟩ = 2 * valueOf m ∧
      (tie = .up ∨ floorOn m e % 2 = 1)

theorem prefersAbove_iff {tie : Tie} {e : Int} :
    PrefersAbove tie m e ↔
      gridDenominator e < 2 * (gridNumerator m e % gridDenominator e) ∨
        gridDenominator e = 2 * (gridNumerator m e % gridDenominator e) ∧
          (tie = .up ∨ floorOn m e % 2 = 1) := by
  have hd : (0 : ℚ) < gridDenominator e := Nat.cast_pos.2 (gridDenominator_pos e)
  have hpow : (0 : ℚ) < (10 : ℚ) ^ e := by positivity
  have hsplit : (2 * floorOn m e + 1) * gridDenominator e +
      2 * (gridNumerator m e % gridDenominator e) =
      2 * gridNumerator m e + gridDenominator e := by
    conv => rhs; rw [← Nat.div_add_mod (gridNumerator m e) (gridDenominator e)]
    rw [← floorOn]
    ring
  obtain ⟨hsum, hvalue⟩ := neighbours_and_value m e
  unfold PrefersAbove
  rw [hsum, hvalue, mul_lt_mul_iff_left₀ hpow, mul_left_inj' hpow.ne',
    div_lt_div_iff_of_pos_right hd, div_left_inj' hd.ne', Nat.cast_lt, Nat.cast_inj]
  generalize (2 * floorOn m e + 1) * gridDenominator e = middle at *
  exact or_congr (by omega) (and_congr (by omega) Iff.rfl)

theorem onGrid?_eq_none_iff {tie : Tie} {e : Int} :
    onGrid? tie m e = none ↔
      ¬ ReadsBack m ⟨floorOn m e, e⟩ ∧ ¬ ReadsBack m ⟨floorOn m e + 1, e⟩ := by
  unfold onGrid? floorOn gridNumerator gridDenominator
  extract_lets num den below above nearer
  by_cases hb : ReadsBack m below
  · rw [if_pos hb]
    refine iff_of_false ?_ fun h => h.1 hb
    split <;> exact Option.some_ne_none _
  · rw [if_neg hb]
    by_cases ha : ReadsBack m above
    · rw [if_pos ha]
      exact iff_of_false (Option.some_ne_none _) fun h => h.2 ha
    · rw [if_neg ha]
      exact iff_of_true rfl ⟨hb, ha⟩

/-- **What is found on a grid** is a neighbour that reads back, and the preferred one if both do. -/
theorem onGrid?_eq_some {tie : Tie} {e : Int} {s : Scientific} (h : onGrid? tie m e = some s) :
    (s = ⟨floorOn m e, e⟩ ∧ ¬ (ReadsBack m ⟨floorOn m e + 1, e⟩ ∧ PrefersAbove tie m e)) ∨
    (s = ⟨floorOn m e + 1, e⟩ ∧ (ReadsBack m ⟨floorOn m e, e⟩ → PrefersAbove tie m e)) := by
  rw [prefersAbove_iff]
  unfold onGrid? at h
  unfold floorOn gridNumerator gridDenominator
  extract_lets num den below above nearer at h
  have hnearer : nearer = true ↔ den < 2 * (num % den) ∨
      den = 2 * (num % den) ∧ (tie = .up ∨ num / den % 2 = 1) := by
    cases tie <;> simp [nearer]
  by_cases hb : ReadsBack m below
  · rw [if_pos hb] at h
    by_cases hboth : (ReadsBack m above && nearer) = true
    · rw [if_pos hboth] at h
      refine Or.inr ⟨(Option.some.inj h).symm, fun _ => ?_⟩
      exact hnearer.1 (Bool.and_eq_true_iff.1 hboth).2
    · rw [if_neg hboth] at h
      refine Or.inl ⟨(Option.some.inj h).symm, fun ⟨ha, hprefers⟩ => hboth ?_⟩
      exact Bool.and_eq_true_iff.2 ⟨decide_eq_true ha, hnearer.2 hprefers⟩
  · rw [if_neg hb] at h
    by_cases ha : ReadsBack m above
    · rw [if_pos ha] at h
      exact Or.inr ⟨(Option.some.inj h).symm, fun hbelow => absurd hbelow hb⟩
    · rw [if_neg ha] at h
      exact nomatch h

/-! ## The leading digit -/

theorem lt_pow_length_digits (n : Nat) : n < 10 ^ (Text.digits n).length :=
  (Nat.length_toDigits_le_iff (by decide) (List.length_pos_iff.2 (Text.digits_ne_nil n))).1 le_rfl

theorem pow_le_of_length_digits {n k : Nat} (hn : 0 < n) (hk : (Text.digits n).length = k + 1) :
    10 ^ k ≤ n := by
  rcases Nat.eq_zero_or_pos k with rfl | hpos
  · exact hn
  · by_contra hlt
    have hlength : (Text.digits n).length ≤ k :=
      (Nat.length_toDigits_le_iff (by decide) hpos).2 (Nat.not_le.1 hlt)
    rw [hk] at hlength
    exact Nat.not_succ_le_self k hlength

/-- **The leading digit of a quotient** counts the largest power of ten up to the quotient. -/
theorem leadingExponent_spec {num den : Nat} (hn : 0 < num) (hd : 0 < den) :
    (10 : ℚ) ^ leadingExponent num den ≤ (num : ℚ) / den ∧
      (num : ℚ) / den < (10 : ℚ) ^ (leadingExponent num den + 1) := by
  have hcast : (0 : ℚ) < den := Nat.cast_pos.2 hd
  have hlength : ∀ n, ∃ k, (Text.digits n).length = k + 1 := fun n =>
    Nat.exists_eq_add_one_of_ne_zero (Nat.ne_of_gt (List.length_pos_iff.2 (Text.digits_ne_nil n)))
  unfold leadingExponent
  split
  · next hle =>
    obtain ⟨k, hk⟩ := hlength (num / den)
    have hlow : 10 ^ k * den ≤ num :=
      (Nat.le_div_iff_mul_le hd).1 (pow_le_of_length_digits (Nat.div_pos hle hd) hk)
    have hhigh : num < 10 ^ (k + 1) * den :=
      (Nat.div_lt_iff_lt_mul hd).1 (hk ▸ lt_pow_length_digits (num / den))
    rw [hk, show ((k + 1 : Nat) : Int) - 1 = k by omega,
      show (k : Int) + 1 = (k + 1 : Nat) by omega, zpow_natCast, zpow_natCast,
      le_div_iff₀ hcast, div_lt_iff₀ hcast]
    exact ⟨by exact_mod_cast hlow, by exact_mod_cast hhigh⟩
  · next hlt =>
    obtain ⟨k, hk⟩ := hlength ((den - 1) / num)
    have hlow : 10 ^ k * num ≤ den - 1 := (Nat.le_div_iff_mul_le hn).1
      (pow_le_of_length_digits (Nat.div_pos (by omega) hn) hk)
    have hhigh : den - 1 < 10 ^ (k + 1) * num :=
      (Nat.div_lt_iff_lt_mul hn).1 (hk ▸ lt_pow_length_digits ((den - 1) / num))
    have hlow : (10 : ℚ) ^ k * num < den := by
      exact_mod_cast Nat.lt_of_le_of_lt hlow (Nat.sub_one_lt (Nat.ne_of_gt hd))
    have hhigh : (den : ℚ) ≤ (10 : ℚ) ^ (k + 1) * num := by
      exact_mod_cast Nat.le_of_pred_lt hhigh
    rw [hk, show -((k + 1 : Nat) : Int) + 1 = -(k : Int) by omega, zpow_neg, zpow_neg,
      zpow_natCast, zpow_natCast]
    constructor
    · rw [le_div_iff₀ hcast, inv_mul_le_iff₀ (by positivity)]
      exact hhigh
    · rw [div_lt_iff₀ hcast, lt_inv_mul_iff₀ (by positivity)]
      exact hlow

/-- The exponent at the leading digit of a magnitude. -/
def leadingOf (m : Nat) : Int := leadingExponent (unitsOf m) unitsPerOne

theorem unitsOf_pos (h₀ : m ≠ 0) : 0 < unitsOf m :=
  unitsOf_strictMono (Nat.pos_of_ne_zero h₀)

theorem zpow_leadingOf_le (h₀ : m ≠ 0) : (10 : ℚ) ^ leadingOf m ≤ valueOf m :=
  (leadingExponent_spec (unitsOf_pos h₀) unitsPerOne_pos).1

theorem valueOf_lt_zpow (h₀ : m ≠ 0) : valueOf m < (10 : ℚ) ^ (leadingOf m + 1) :=
  (leadingExponent_spec (unitsOf_pos h₀) unitsPerOne_pos).2

/-! ## Seventeen digits suffice -/

theorem unitsOf_succ_le (m : Nat) : unitsOf (m + 1) ≤ 2 * binadeSize * 2 ^ stepExponent m := by
  obtain ⟨s, hm, hs, hk⟩ := exists_steps m
  generalize stepExponent m = k at hm hk ⊢
  rw [hm, Nat.add_assoc, unitsOf_steps hs (hk.imp_right fun h => Nat.le_succ_of_le h)]
  exact Nat.mul_le_mul_right _ hs

/-- A step is not small against the magnitude that it leads to. -/
theorem valueOf_succ_le (m : Nat) :
    valueOf (m + 1) ≤ 2 * binadeSize * (valueOf (m + 1) - valueOf m) := by
  have hle := unitsOf_succ_le m
  have hsucc := unitsOf_succ m
  have hstep : (unitsOf (m + 1) : ℚ) - unitsOf m = (2 ^ stepExponent m : Nat) := by
    rw [hsucc, Nat.cast_add, add_sub_cancel_left]
  unfold valueOf
  rw [← sub_div, hstep, ← mul_div_assoc, div_le_div_iff_of_pos_right cast_unitsPerOne_pos]
  exact_mod_cast hle

/-- A decimal reads back when its distance from a double is less than half of a step. -/
theorem readsBack_of_close (hm : m < infinityMagnitude) {s : Scientific}
    (h : 4 * binadeSize * |s.toRat - valueOf m| < valueOf m) : ReadsBack m s := by
  have hup := le_abs_self (s.toRat - valueOf m)
  have hdown := neg_abs_le (s.toRat - valueOf m)
  have hsize : (0 : ℚ) < binadeSize := Nat.cast_pos.2 binadeSize_pos
  generalize |s.toRat - valueOf m| = δ at *
  rw [Scientific.toRat_eq] at hup hdown
  unfold ReadsBack
  refine Nat.le_antisymm (Nat.not_lt.1 fun hlt => ?_) (Nat.not_lt.1 fun hlt => ?_)
  · have hnext := valueOf_succ_le m
    have hmono := valueOf_strictMono (Nat.lt_succ_self m)
    have hδ : 2 * δ < valueOf (m + 1) - valueOf m := by
      refine lt_of_mul_lt_mul_left (a := 2 * (binadeSize : ℚ)) ?_ (by positivity)
      linarith
    rcases (lt_nearestMagnitude_iff s.denominator_pos hm).1 hlt with h | ⟨h, -⟩ <;> linarith
  · obtain ⟨k, rfl⟩ := Nat.exists_eq_add_one_of_ne_zero (Nat.ne_of_gt (Nat.zero_lt_of_lt hlt))
    have hprev := valueOf_succ_le k
    have hδ : 2 * δ < valueOf (k + 1) - valueOf k := by
      refine lt_of_mul_lt_mul_left (a := 2 * (binadeSize : ℚ)) ?_ (by positivity)
      linarith
    have hk : ¬ k < nearestMagnitude s.numerator s.denominator :=
      Nat.not_lt.2 (Nat.le_of_lt_succ hlt)
    exact hk ((lt_nearestMagnitude_iff s.denominator_pos (by omega)).2 (Or.inl (by linarith)))

/-- With seventeen digits, one of the two neighbours is close enough. -/
theorem readsBack_seventeen (hm : m < infinityMagnitude) (h₀ : m ≠ 0) :
    ReadsBack m ⟨floorOn m (leadingOf m - 16), leadingOf m - 16⟩ ∨
      ReadsBack m ⟨floorOn m (leadingOf m - 16) + 1, leadingOf m - 16⟩ := by
  have hlead := zpow_leadingOf_le h₀
  have hpow : (10 : ℚ) ^ leadingOf m = 10000000000000000 * (10 : ℚ) ^ (leadingOf m - 16) := by
    rw [show (10000000000000000 : ℚ) = (10 : ℚ) ^ (16 : ℤ) by norm_num, ← zpow_add₀ (by norm_num),
      add_sub_cancel]
  have hpos : (0 : ℚ) < (10 : ℚ) ^ (leadingOf m - 16) := by positivity
  have hsize : (binadeSize : ℚ) = 4503599627370496 := by norm_num [binadeSize]
  have hbelow := toRat_floorOn_le m (leadingOf m - 16)
  have habove := valueOf_lt_toRat m (leadingOf m - 16)
  have hclose : ∀ {s : Scientific}, 2 * |s.toRat - valueOf m| ≤ (10 : ℚ) ^ (leadingOf m - 16) →
      ReadsBack m s := fun h => readsBack_of_close hm (by rw [hsize]; linarith)
  rw [Scientific.toRat_succ] at habove
  rcases le_total (2 * (valueOf m - Scientific.toRat ⟨floorOn m (leadingOf m - 16), _⟩))
    ((10 : ℚ) ^ (leadingOf m - 16)) with hnear | hnear
  · refine Or.inl (hclose ?_)
    rw [abs_of_nonpos (by linarith)]
    linarith
  · refine Or.inr (hclose ?_)
    rw [Scientific.toRat_succ, abs_of_nonneg (by linarith)]
    linarith

/-! ## The search -/

theorem findSome?_range_eq_some {α : Type} {f : Nat → Option α} {N : Nat} {b : α}
    (h : (List.range N).findSome? f = some b) : ∃ n, f n = some b ∧ ∀ k < n, f k = none := by
  obtain ⟨l₁, n, l₂, hrange, hn, hnone⟩ := List.findSome?_eq_some_iff.1 h
  refine ⟨n, hn, fun k hk => hnone k ?_⟩
  have hsorted := hrange ▸ List.pairwise_lt_range (n := N)
  have hmem : k ∈ l₁ ++ n :: l₂ := by
    have hnN : n < N := List.mem_range.1 (hrange ▸ List.mem_append_right _ List.mem_cons_self)
    exact hrange ▸ List.mem_range.2 (Nat.lt_trans hk hnN)
  rcases List.mem_append.1 hmem with hmem | hmem
  · exact hmem
  · have hge := (List.pairwise_append.1 hsorted).2.1
    rcases List.mem_cons.1 hmem with rfl | hmem
    · exact absurd hk (Nat.lt_irrefl _)
    · exact absurd (List.rel_of_pairwise_cons hge hmem) (Nat.lt_asymm hk)

/-- **The search ends on the first grid** where a neighbour reads back. -/
theorem exists_search (tie : Tie) (hm : m < infinityMagnitude) (h₀ : m ≠ 0) :
    ∃ n : Nat, onGrid? tie m (leadingOf m - n) = some (shortestMagnitude tie m) ∧
      ∀ k < n, onGrid? tie m (leadingOf m - (k : Nat)) = none := by
  refine findSome?_range_eq_some (f := fun n : Nat => onGrid? tie m (leadingOf m - n)) (N := 17) ?_
  have hshortest : shortestMagnitude tie m =
      ((List.range 17).findSome? fun n : Nat => onGrid? tie m (leadingOf m - n)).getD
        (exactDecimal (unitsOf m)) := if_neg h₀
  rw [hshortest]
  cases hsearch : (List.range 17).findSome? fun n : Nat => onGrid? tie m (leadingOf m - n) with
  | some s => rfl
  | none =>
    have hnone := onGrid?_eq_none_iff.1
      (List.findSome?_eq_none_iff.1 hsearch 16 (List.mem_range.2 (by decide)))
    exact absurd (readsBack_seventeen hm h₀) (not_or.2 hnone)

/-- A decimal with few digits that reads back is no nearer than one on the grid. -/
theorem exists_onGrid_of_readsBack (hm : m < infinityMagnitude) (h₀ : m ≠ 0) {n c : Nat} {e : Int}
    (hc : c < 10 ^ (n + 1)) (h : ReadsBack m ⟨c, e⟩) :
    ∃ c', ReadsBack m ⟨c', leadingOf m - n⟩ ∧
      |Scientific.toRat ⟨c', leadingOf m - n⟩ - valueOf m| ≤
        |Scientific.toRat ⟨c, e⟩ - valueOf m| := by
  by_cases hgrid : leadingOf m - n ≤ e
  · -- It lies on the grid itself.
    obtain ⟨k, hk⟩ := Int.le.dest hgrid
    have hsame := Scientific.toRat_mul_pow c k (leadingOf m - n)
    rw [hk] at hsame
    exact ⟨c * 10 ^ k, (readsBack_congr hsame).2 h, by rw [hsame]⟩
  · -- It lies below the power of ten at the leading digit, which is on the grid.
    have hlead := zpow_leadingOf_le h₀
    have hpower : Scientific.toRat ⟨10 ^ n, leadingOf m - n⟩ = (10 : ℚ) ^ leadingOf m := by
      rw [← Nat.one_mul (10 ^ n), Scientific.toRat_mul_pow, Int.sub_add_cancel, Scientific.toRat,
        Nat.cast_one, one_mul]
    have hlt : Scientific.toRat ⟨c, e⟩ ≤ (10 : ℚ) ^ leadingOf m := by
      refine (Scientific.toRat_lt_zpow hc e).le.trans (zpow_le_zpow_right₀ (by norm_num) ?_)
      omega
    rw [← hpower] at hlt hlead
    refine ⟨10 ^ n, readsBack_of_between hm h (Or.inl ⟨hlt, hlead⟩), ?_⟩
    rw [abs_of_nonpos (by linarith), abs_of_nonpos (by linarith)]
    linarith

/-! ## What the search finds -/

/-- Of the decimals on a grid that read back, a nearest one is found. -/
theorem onGrid?_nearest (hm : m < infinityMagnitude) {tie : Tie} {e : Int} {s : Scientific}
    (hs : onGrid? tie m e = some s) {c : Nat} (h : ReadsBack m ⟨c, e⟩) :
    |s.toRat - valueOf m| ≤ |Scientific.toRat ⟨c, e⟩ - valueOf m| := by
  have hbelow := toRat_floorOn_le m e
  have habove := valueOf_lt_toRat m e
  rcases Nat.lt_or_ge (floorOn m e) c with hlt | hge
  · have hc := Scientific.toRat_le_toRat_iff (e := e).2 hlt
    have hread := readsBack_of_between hm h (Or.inr ⟨habove.le, hc⟩)
    rw [abs_of_nonneg (a := Scientific.toRat ⟨c, e⟩ - _) (by linarith)]
    rcases onGrid?_eq_some hs with ⟨rfl, hnot⟩ | ⟨rfl, -⟩
    · have hprefers := not_or.1 fun h => hnot ⟨hread, h⟩
      rw [abs_of_nonpos (by linarith)]
      linarith
    · rw [abs_of_nonneg (by linarith)]
      linarith
  · have hc := Scientific.toRat_le_toRat_iff (e := e).2 hge
    have hread := readsBack_of_between hm h (Or.inl ⟨hc, hbelow⟩)
    rw [abs_of_nonpos (a := Scientific.toRat ⟨c, e⟩ - _) (by linarith)]
    rcases onGrid?_eq_some hs with ⟨rfl, -⟩ | ⟨rfl, hprefers⟩
    · rw [abs_of_nonpos (by linarith)]
      linarith
    · rw [abs_of_nonneg (by linarith)]
      rcases hprefers hread with h | ⟨h, -⟩ <;> linarith

/-- **The shortest decimal is shortest.** For some count of digits it has at most so many, none with
fewer digits reads back, and of those with at most so many that do it is a nearest one. -/
theorem shortestMagnitude_spec (tie : Tie) (hm : m < infinityMagnitude) (h₀ : m ≠ 0) :
    ∃ n : Nat, (shortestMagnitude tie m).coefficient ≤ 10 ^ (n + 1) ∧
      (∀ c e, c < 10 ^ n → ¬ ReadsBack m ⟨c, e⟩) ∧
      ∀ c e, c < 10 ^ (n + 1) → ReadsBack m ⟨c, e⟩ →
        |(shortestMagnitude tie m).toRat - valueOf m| ≤
          |Scientific.toRat ⟨c, e⟩ - valueOf m| := by
  obtain ⟨n, hfound, hnone⟩ := exists_search tie hm h₀
  refine ⟨n, ?_, fun c e hc hread => ?_, fun c e hc hread => ?_⟩
  · have hfloor : floorOn m (leadingOf m - n) < 10 ^ (n + 1) := by
      have hlt := (toRat_floorOn_le m (leadingOf m - n)).trans_lt (valueOf_lt_zpow h₀)
      have hpower : (10 : ℚ) ^ (leadingOf m + 1) =
          Scientific.toRat ⟨10 ^ (n + 1), leadingOf m - n⟩ := by
        rw [← Nat.one_mul (10 ^ (n + 1)), Scientific.toRat_mul_pow, Scientific.toRat, Nat.cast_one,
          one_mul, show leadingOf m - n + ((n + 1 : Nat) : Int) = leadingOf m + 1 by omega]
      rw [hpower] at hlt
      exact Nat.not_le.1 fun hle => hlt.not_ge (Scientific.toRat_le_toRat_iff.2 hle)
    rcases onGrid?_eq_some hfound with ⟨hs, -⟩ | ⟨hs, -⟩
    · rw [hs]
      exact Nat.le_of_lt hfloor
    · rw [hs]
      exact hfloor
  · cases n with
    | zero =>
      obtain rfl : c = 0 := Nat.lt_one_iff.1 hc
      exact h₀ (readsBack_zero.1 hread)
    | succ k =>
      obtain ⟨c', hgrid, -⟩ := exists_onGrid_of_readsBack hm h₀ hc hread
      have hno := onGrid?_eq_none_iff.1 (hnone k (Nat.lt_succ_self k))
      exact not_or.2 hno (readsBack_neighbour hm hgrid)
  · obtain ⟨c', hgrid, hnearer⟩ := exists_onGrid_of_readsBack hm h₀ hc hread
    exact (onGrid?_nearest hm hfound hgrid).trans hnearer

/-- **The two ways of breaking ties** find the same decimal, or the two neighbours of a magnitude
that lies half-way between them. -/
theorem shortestMagnitude_up_even (hm : m < infinityMagnitude) :
    shortestMagnitude .up m = shortestMagnitude .even m ∨
      ∃ c e, c % 2 = 0 ∧ shortestMagnitude .even m = ⟨c, e⟩ ∧
        shortestMagnitude .up m = ⟨c + 1, e⟩ ∧
        Scientific.toRat ⟨c, e⟩ + Scientific.toRat ⟨c + 1, e⟩ = 2 * valueOf m := by
  by_cases h₀ : m = 0
  · exact Or.inl (by rw [shortestMagnitude, shortestMagnitude, if_pos h₀, if_pos h₀])
  obtain ⟨n, hup, hnoneUp⟩ := exists_search .up hm h₀
  obtain ⟨k, heven, hnoneEven⟩ := exists_search .even hm h₀
  -- Which grid it is does not depend on the way of breaking ties.
  have hnk : n = k := by
    rcases Nat.lt_trichotomy n k with hlt | heq | hgt
    · have hnone : onGrid? .up m (leadingOf m - n) = none :=
        onGrid?_eq_none_iff.2 (onGrid?_eq_none_iff.1 (hnoneEven n hlt))
      exact absurd (hup.symm.trans hnone) (Option.some_ne_none _)
    · exact heq
    · have hnone : onGrid? .even m (leadingOf m - k) = none :=
        onGrid?_eq_none_iff.2 (onGrid?_eq_none_iff.1 (hnoneUp k hgt))
      exact absurd (heven.symm.trans hnone) (Option.some_ne_none _)
  subst hnk
  have hreadUp := readsBack_of_onGrid? hup
  have hreadEven := readsBack_of_onGrid? heven
  rcases onGrid?_eq_some hup with ⟨hsUp, hnot⟩ | ⟨hsUp, hprefersUp⟩
  · rcases onGrid?_eq_some heven with ⟨hsEven, -⟩ | ⟨hsEven, hprefers⟩
    · exact Or.inl (hsUp.trans hsEven.symm)
    · rw [hsUp] at hreadUp
      rw [hsEven] at hreadEven
      have hprefersUp : PrefersAbove .up m (leadingOf m - n) :=
        (hprefers hreadUp).imp_right fun h => ⟨h.1, Or.inl rfl⟩
      exact absurd ⟨hreadEven, hprefersUp⟩ hnot
  · rcases onGrid?_eq_some heven with ⟨hsEven, hnot⟩ | ⟨hsEven, -⟩
    · rw [hsUp] at hreadUp
      rw [hsEven] at hreadEven
      have hnotEven : ¬ PrefersAbove .even m (leadingOf m - n) := fun h => hnot ⟨hreadUp, h⟩
      rcases hprefersUp hreadEven with h | ⟨h, -⟩
      · exact absurd (Or.inl h) hnotEven
      · have hparity : ¬ floorOn m (leadingOf m - n) % 2 = 1 := fun hodd =>
          hnotEven (Or.inr ⟨h, Or.inr hodd⟩)
        exact Or.inr ⟨_, _, by omega, hsEven, hsUp, h⟩
    · exact Or.inl (hsUp.trans hsEven.symm)

end Double

end DocumentQuery
