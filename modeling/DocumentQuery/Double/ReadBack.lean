import DocumentQuery.Double.Shortest

/-!
# Shortest decimals read back

A finite double is nearest to its own value, so its exact decimal reads back, and the search for
the shortest decimal always ends with one that does.

Main results: `nearestMagnitude_unitsOf` and `readsBack_shortestMagnitude`.
-/

namespace DocumentQuery

namespace Double

-- Powers of natural numbers are those of the core library, also beside a library with others.
attribute [local instance (2000)] instPowNat

/-! ## Binades -/

theorem binade_of_lt {u : Nat} (h : u < 2 * binadeSize) : binade u = 0 := by
  unfold binade
  rcases Nat.eq_zero_or_pos u with rfl | hu
  · rfl
  · have : u.log2 < 53 := (Nat.log2_lt (by omega)).2 (by unfold binadeSize at h; omega)
    omega

theorem binade_mul_two_pow {s k : Nat} (h₁ : binadeSize ≤ s) (h₂ : s < 2 * binadeSize) :
    binade (s * 2 ^ k) = k := by
  have hk : 0 < 2 ^ k := Nat.two_pow_pos k
  have hs : s * 2 ^ k ≠ 0 :=
    Nat.mul_ne_zero (Nat.ne_of_gt (Nat.lt_of_lt_of_le (by decide) h₁)) (Nat.ne_of_gt hk)
  have hlow : 52 + k ≤ (s * 2 ^ k).log2 := (Nat.le_log2 hs).2 (by
    rw [Nat.pow_add]; exact Nat.mul_le_mul_right _ h₁)
  have hhigh : (s * 2 ^ k).log2 < 53 + k := (Nat.log2_lt hs).2 (by
    rw [Nat.pow_add]; exact Nat.mul_lt_mul_of_pos_right h₂ hk)
  unfold binade
  omega

/-! ## A double is nearest to itself -/

theorem nearestMagnitude_of_eq {u c s k : Nat} (hc : 0 < c) (hu : u = s * 2 ^ k)
    (hk : binade u = k) :
    nearestMagnitude (u * c) (unitsPerOne * c) = min (k * binadeSize + s) infinityMagnitude := by
  have hd : 0 < unitsPerOne * c := Nat.mul_pos (Nat.two_pow_pos _) hc
  have hn : u * c * unitsPerOne = u * (unitsPerOne * c) := by grind
  unfold nearestMagnitude
  rw [hn, Nat.mul_div_cancel _ hd]
  simp only [hk]
  rw [hu, show s * 2 ^ k * (unitsPerOne * c) = s * (unitsPerOne * c * 2 ^ k) by grind,
    roundHalfEven_of_dvd ⟨s, Nat.mul_comm ..⟩ (Nat.mul_pos hd (Nat.two_pow_pos k)),
    Nat.mul_div_cancel _ (Nat.mul_pos hd (Nat.two_pow_pos k))]

/-- **A finite double is nearest to its own value**, however the value is written as a quotient. -/
theorem nearestMagnitude_unitsOf {m c : Nat} (h : m < infinityMagnitude) (hc : 0 < c) :
    nearestMagnitude (unitsOf m * c) (unitsPerOne * c) = m := by
  by_cases hm : m < binadeSize
  · have hu : unitsOf m = m := if_pos hm
    rw [nearestMagnitude_of_eq (s := m) (k := 0) hc (by rw [hu, Nat.pow_zero, Nat.mul_one])
      (by rw [hu]; exact binade_of_lt (by omega)), Nat.zero_mul, Nat.zero_add]
    exact Nat.min_eq_left (Nat.le_of_lt h)
  · have hu : unitsOf m = (binadeSize + m % binadeSize) * 2 ^ (m / binadeSize - 1) := if_neg hm
    have hr : m % binadeSize < binadeSize := Nat.mod_lt _ (by decide)
    rw [nearestMagnitude_of_eq hc hu
      (by rw [hu]; exact binade_mul_two_pow (by omega) (by omega))]
    obtain ⟨q, hq⟩ := Nat.exists_eq_add_of_le
      ((Nat.one_le_div_iff (by decide)).2 (Nat.le_of_not_lt hm))
    have hsum : (m / binadeSize - 1) * binadeSize + (binadeSize + m % binadeSize) = m := by
      have := Nat.div_add_mod m binadeSize
      rw [hq] at this ⊢
      rw [Nat.add_sub_cancel_left]
      grind
    rw [hsum]
    exact Nat.min_eq_left (Nat.le_of_lt h)

/-! ## The search -/

theorem readsBack_exactDecimal {m : Nat} (h : m < infinityMagnitude) :
    ReadsBack m (exactDecimal (unitsOf m)) := by
  have hnum : (exactDecimal (unitsOf m)).numerator = unitsOf m * 5 ^ unitExponent := by
    unfold exactDecimal Scientific.numerator
    generalize unitExponent = k
    rw [Int.toNat_neg_natCast, Nat.pow_zero, Nat.mul_one]
  have hden : (exactDecimal (unitsOf m)).denominator = unitsPerOne * 5 ^ unitExponent := by
    unfold exactDecimal Scientific.denominator unitsPerOne
    generalize unitExponent = k
    rw [Int.neg_neg, Int.toNat_natCast, ← Nat.mul_pow]
  have hc : 0 < 5 ^ unitExponent := by
    generalize unitExponent = k
    exact Nat.pow_pos (by decide)
  unfold ReadsBack
  rw [hnum, hden]
  exact nearestMagnitude_unitsOf h hc

theorem readsBack_of_onGrid? {tie : Tie} {m : Nat} {e : Int} {s : Scientific}
    (h : onGrid? tie m e = some s) : ReadsBack m s := by
  unfold onGrid? at h
  extract_lets num den below above nearer at h
  by_cases hb : ReadsBack m below
  · rw [if_pos hb] at h
    by_cases ha : (ReadsBack m above && nearer) = true
    · rw [if_pos ha] at h
      rw [← Option.some.inj h]
      exact of_decide_eq_true (Bool.and_eq_true_iff.1 ha).1
    · rw [if_neg ha] at h
      rw [← Option.some.inj h]
      exact hb
  · rw [if_neg hb] at h
    by_cases ha : ReadsBack m above
    · rw [if_pos ha] at h
      rw [← Option.some.inj h]
      exact ha
    · rw [if_neg ha] at h
      exact nomatch h

theorem nearestMagnitude_zero (den : Nat) : nearestMagnitude 0 den = 0 := by
  have hb : binade 0 = 0 := rfl
  unfold nearestMagnitude
  rw [Nat.zero_mul, Nat.zero_div]
  simp only [hb, Nat.zero_mul, Nat.zero_add]
  rcases Nat.eq_zero_or_pos den with rfl | hd
  · rfl
  · rw [roundHalfEven_of_dvd (Nat.dvd_zero _) (Nat.mul_pos hd (Nat.two_pow_pos 0)), Nat.zero_div,
      Nat.zero_min]

/-- **The shortest decimal of a finite double reads back.** -/
theorem readsBack_shortestMagnitude (tie : Tie) {m : Nat} (h : m < infinityMagnitude) :
    ReadsBack m (shortestMagnitude tie m) := by
  unfold shortestMagnitude
  split
  · next h₀ =>
    subst h₀
    unfold ReadsBack Scientific.numerator
    rw [Nat.zero_mul, nearestMagnitude_zero]
  · extract_lets leading
    cases hs : (List.range 17).findSome? fun n : Nat => onGrid? tie m (leading - n) with
    | none =>
      rw [Option.getD_none]
      exact readsBack_exactDecimal h
    | some s =>
      rw [Option.getD_some]
      obtain ⟨n, -, hn⟩ := List.exists_of_findSome?_eq_some hs
      exact readsBack_of_onGrid? hn

end Double

end DocumentQuery
