import DocumentQuery.Expression.Scalar
import DocumentQuery.Proofs.DoubleForms
import DocumentQuery.Value.Equality

/-!
# Two comparisons of scalars

Scalars are compared by what they mean, and the values made from them by what is written. The two
comparisons part where a number can be written in several ways, and at what is no number.

**Numbers.** Two doubles mean the same when neither is a NaN and they denote the same number
(`Double.sameNumber_iff`), an infinity being larger than all others of its sign. Only zero has two
words (`Double.sameNumber_and_ne_iff`). Two decimals mean the same when their mantissas over their
powers of ten are equal, and then they differ just when their scales do
(`Decimal.sameNumber_and_ne_iff`).

**Other kinds.** Here both comparisons are equality, and neither of them ever mixes kinds.

Main results: `sameScalar_iff`, `sameScalar_and_ne_iff`, `eq_and_not_sameScalar_iff` and
`comparisons_of_scalars`.
-/

namespace DocumentQuery

-- Powers of natural numbers are those of the core library, also beside a library with others.
attribute [local instance (2000)] instPowNat

/-! ## Doubles -/

namespace Double

variable {x y z : Double}

theorem toRat_eq_zero_of_isZero (h : x.IsZero) : x.toRat = 0 := by
  rw [← abs_eq_zero, abs_toRat, show x.magnitude = 0 from h, valueOf_zero]

theorem isNegative_iff_toRat_neg (h : ¬ x.IsZero) : x.IsNegative ↔ x.toRat < 0 := by
  have hpos : 0 < valueOf x.magnitude := by
    rw [← valueOf_zero]
    exact valueOf_strictMono (Nat.pos_of_ne_zero h)
  unfold toRat withSign
  by_cases hx : x.IsNegative
  · rw [decide_eq_true hx, if_pos rfl]
    exact iff_of_true hx (neg_lt_zero.2 hpos)
  · rw [decide_eq_false hx, if_neg Bool.false_ne_true]
    exact iff_of_false hx hpos.not_gt

/-- Doubles that denote the same number are the same, or both are zeros. -/
theorem eq_or_isZero_of_toRat_eq (h : x.toRat = y.toRat) : x = y ∨ x.IsZero ∧ y.IsZero := by
  have hmagnitude : x.magnitude = y.magnitude := by
    apply valueOf_strictMono.injective
    rw [← abs_toRat, ← abs_toRat, h]
  by_cases hzero : x.IsZero
  · exact Or.inr ⟨hzero, hmagnitude.symm.trans hzero⟩
  · have hzero' : ¬ y.IsZero := fun h => hzero (hmagnitude.trans h)
    refine Or.inl (eq_of_magnitude hmagnitude ?_)
    rw [isNegative_iff_toRat_neg hzero, isNegative_iff_toRat_neg hzero', h]

/-- **Doubles mean the same when they denote the same number.** -/
theorem sameNumber_iff : x.SameNumber y ↔ ¬ x.IsNaN ∧ ¬ y.IsNaN ∧ x.toRat = y.toRat := by
  unfold SameNumber
  refine and_congr_right fun _ => and_congr_right fun _ => ⟨?_, eq_or_isZero_of_toRat_eq⟩
  rintro (rfl | ⟨hx, hy⟩)
  · rfl
  · rw [toRat_eq_zero_of_isZero hx, toRat_eq_zero_of_isZero hy]

theorem SameNumber.symm (h : x.SameNumber y) : y.SameNumber x := by
  obtain ⟨hx, hy, hxy⟩ := sameNumber_iff.1 h
  exact sameNumber_iff.2 ⟨hy, hx, hxy.symm⟩

theorem SameNumber.trans (h : x.SameNumber y) (h' : y.SameNumber z) : x.SameNumber z := by
  obtain ⟨hx, -, hxy⟩ := sameNumber_iff.1 h
  obtain ⟨-, hz, hyz⟩ := sameNumber_iff.1 h'
  exact sameNumber_iff.2 ⟨hx, hz, hxy.trans hyz⟩

theorem sameNumber_self_iff : x.SameNumber x ↔ ¬ x.IsNaN :=
  ⟨fun h => h.1, fun h => ⟨h, h, Or.inl rfl⟩⟩

theorem not_isNaN_of_isZero (h : x.IsZero) : ¬ x.IsNaN := by
  unfold IsNaN
  rw [show x.magnitude = 0 from h]
  exact Nat.not_lt_zero _

/-- **Only zero has two words.** -/
theorem sameNumber_and_ne_iff :
    x.SameNumber y ∧ x ≠ y ↔ x.IsZero ∧ y.IsZero ∧ (x.IsNegative ↔ ¬ y.IsNegative) := by
  constructor
  · rintro ⟨⟨-, -, hxy⟩, hne⟩
    obtain ⟨hx, hy⟩ := hxy.resolve_left hne
    refine ⟨hx, hy, ?_⟩
    have hsign : ¬ (x.IsNegative ↔ y.IsNegative) := fun h =>
      hne (eq_of_magnitude (Eq.trans hx (Eq.symm hy)) h)
    tauto
  · rintro ⟨hx, hy, hsign⟩
    refine ⟨⟨not_isNaN_of_isZero hx, not_isNaN_of_isZero hy, Or.inr ⟨hx, hy⟩⟩, ?_⟩
    rintro rfl
    exact iff_not_self hsign

end Double

/-! ## Decimals -/

namespace Decimal

variable {x y z : Decimal}

/-- The number that a decimal denotes. -/
def toRat (d : Decimal) : ℚ := (d.mantissa : ℚ) / 10 ^ d.scale

/-- **Decimals mean the same when they denote the same number.** -/
theorem sameNumber_iff : x.SameNumber y ↔ x.toRat = y.toRat := by
  have hpos : ∀ n : Nat, (10 : ℚ) ^ n ≠ 0 := fun n => pow_ne_zero n (by norm_num)
  unfold SameNumber toRat
  rw [div_eq_div_iff (hpos _) (hpos _), ← Int.cast_inj (α := ℚ)]
  push_cast
  exact Iff.rfl

theorem SameNumber.trans (h : x.SameNumber y) (h' : y.SameNumber z) : x.SameNumber z :=
  sameNumber_iff.2 ((sameNumber_iff.1 h).trans (sameNumber_iff.1 h'))

theorem SameNumber.eq_of_scale_eq (h : x.SameNumber y) (hscale : x.scale = y.scale) : x = y := by
  unfold SameNumber at h
  rw [hscale] at h
  have hpos : ((10 ^ y.scale : Nat) : Int) ≠ 0 :=
    Int.natCast_ne_zero.2 (Nat.ne_of_gt (Nat.pow_pos (by decide)))
  exact Value.decimal_ext_iff.2 ⟨Int.eq_of_mul_eq_mul_right hpos h, hscale⟩

/-- **A number has one decimal for each scale** at most. -/
theorem sameNumber_and_ne_iff :
    x.SameNumber y ∧ x ≠ y ↔ x.toRat = y.toRat ∧ x.scale ≠ y.scale := by
  rw [← sameNumber_iff]
  refine and_congr_right fun h => ⟨fun hne hscale => hne (h.eq_of_scale_eq hscale), ?_⟩
  rintro hscale rfl
  exact hscale rfl

end Decimal

/-! ## Scalars -/

namespace Scalar

variable {a b c : Scalar}

theorem toValue_injective : Function.Injective toValue := by
  intro a b h
  cases a <;> cases b <;> cases h <;> rfl

theorem beq_toValue_iff : a.toValue.beq b.toValue = true ↔ a = b :=
  (Value.beq_iff_eq _ _).trans toValue_injective.eq_iff

/-- **Scalars mean the same in three ways**: as doubles, as decimals, and else by being equal. -/
theorem sameScalar_iff :
    SameScalar a b ↔
      (∃ x y, a = .double x ∧ b = .double y ∧ x.SameNumber y) ∨
      (∃ x y, a = .decimal x ∧ b = .decimal y ∧ x.SameNumber y) ∨
      a = b ∧ (∀ x, a ≠ .double x) ∧ ∀ x, a ≠ .decimal x := by
  cases a with
  | double x => cases b <;> simp [SameScalar]
  | decimal x => cases b <;> simp [SameScalar]
  | _ => cases b <;> simp [SameScalar]

theorem SameScalar.symm (h : SameScalar a b) : SameScalar b a := by
  rcases sameScalar_iff.1 h with ⟨x, y, rfl, rfl, hxy⟩ | ⟨x, y, rfl, rfl, hxy⟩ | ⟨rfl, -⟩
  · exact Double.SameNumber.symm hxy
  · exact Decimal.SameNumber.symm hxy
  · exact h

theorem SameScalar.trans (h : SameScalar a b) (h' : SameScalar b c) : SameScalar a c := by
  rcases sameScalar_iff.1 h with ⟨x, y, rfl, rfl, hxy⟩ | ⟨x, y, rfl, rfl, hxy⟩ | ⟨rfl, -⟩
  · cases c with
    | double z => exact Double.SameNumber.trans hxy h'
    | _ => exact h'.elim
  · cases c with
    | decimal z => exact Decimal.SameNumber.trans hxy h'
    | _ => exact h'.elim
  · exact h'

/-- **What is no number does not mean the same as itself**, and all else does. -/
theorem sameScalar_self_iff : SameScalar a a ↔ ∀ d, a = .double d → ¬ d.IsNaN := by
  cases a with
  | double x => exact Double.sameNumber_self_iff.trans (by simp)
  | decimal x => exact iff_of_true (Decimal.sameNumber_self x) (by simp)
  | _ => exact iff_of_true rfl (by simp)

theorem SameScalar.elementType_eq (h : SameScalar a b) :
    a.toValue.elementType = b.toValue.elementType := by
  rcases sameScalar_iff.1 h with ⟨x, y, rfl, rfl, -⟩ | ⟨x, y, rfl, rfl, -⟩ | ⟨rfl, -⟩ <;> rfl

/-- **Scalars mean the same and are not equal** for the two zeros, and for one number with different
scales. -/
theorem sameScalar_and_ne_iff :
    SameScalar a b ∧ a ≠ b ↔
      (∃ x y, a = .double x ∧ b = .double y ∧ x.IsZero ∧ y.IsZero ∧
        (x.IsNegative ↔ ¬ y.IsNegative)) ∨
      ∃ x y, a = .decimal x ∧ b = .decimal y ∧ x.toRat = y.toRat ∧ x.scale ≠ y.scale := by
  constructor
  · rintro ⟨h, hne⟩
    rcases sameScalar_iff.1 h with ⟨x, y, rfl, rfl, hxy⟩ | ⟨x, y, rfl, rfl, hxy⟩ | ⟨rfl, -⟩
    · exact Or.inl ⟨x, y, rfl, rfl, Double.sameNumber_and_ne_iff.1
        ⟨hxy, fun h => hne (congrArg Scalar.double h)⟩⟩
    · exact Or.inr ⟨x, y, rfl, rfl, Decimal.sameNumber_and_ne_iff.1
        ⟨hxy, fun h => hne (congrArg Scalar.decimal h)⟩⟩
    · exact absurd rfl hne
  · rintro (⟨x, y, rfl, rfl, h⟩ | ⟨x, y, rfl, rfl, h⟩)
    · obtain ⟨hxy, hne⟩ := Double.sameNumber_and_ne_iff.2 h
      exact ⟨hxy, fun h => hne (Scalar.double.inj h)⟩
    · obtain ⟨hxy, hne⟩ := Decimal.sameNumber_and_ne_iff.2 h
      exact ⟨hxy, fun h => hne (Scalar.decimal.inj h)⟩

/-- **Scalars are equal and do not mean the same** for a NaN with itself. -/
theorem eq_and_not_sameScalar_iff :
    a = b ∧ ¬ SameScalar a b ↔
      ∃ x y, a = .double x ∧ b = .double y ∧ x.IsNaN ∧ y.IsNaN ∧ x.bits = y.bits := by
  constructor
  · rintro ⟨rfl, h⟩
    rw [sameScalar_self_iff] at h
    push Not at h
    obtain ⟨x, rfl, hx⟩ := h
    exact ⟨x, x, rfl, rfl, hx, hx, rfl⟩
  · rintro ⟨x, y, rfl, rfl, hx, -, hbits⟩
    obtain rfl := Value.double_ext_iff.2 hbits
    exact ⟨rfl, fun h => sameScalar_self_iff.1 h x rfl hx⟩

/-- **Where the comparison of scalars and that of their values part.** Scalars mean the same although
their values differ if and only if they are the two zeros, or decimals of the same number with
different scales. Their values are equal although they do not mean the same if and only if they are
one NaN. Scalars of different kinds are equal in neither way. To mean the same is symmetric and
transitive, and all but NaNs mean the same as themselves. Doubles that are not NaNs mean the same
when they denote the same number, and so do decimals. -/
theorem comparisons_of_scalars :
    (∀ a b : Scalar, SameScalar a b ∧ ¬ a.toValue.beq b.toValue = true ↔
      (∃ x y, a = .double x ∧ b = .double y ∧ x.IsZero ∧ y.IsZero ∧
        (x.IsNegative ↔ ¬ y.IsNegative)) ∨
      ∃ x y, a = .decimal x ∧ b = .decimal y ∧ x.toRat = y.toRat ∧ x.scale ≠ y.scale) ∧
    (∀ a b : Scalar, a.toValue.beq b.toValue = true ∧ ¬ SameScalar a b ↔
      ∃ x y, a = .double x ∧ b = .double y ∧ x.IsNaN ∧ y.IsNaN ∧ x.bits = y.bits) ∧
    (∀ a b : Scalar, a.toValue.elementType ≠ b.toValue.elementType →
      ¬ SameScalar a b ∧ ¬ a.toValue.beq b.toValue = true) ∧
    (∀ a b : Scalar, SameScalar a b → SameScalar b a) ∧
    (∀ a b c : Scalar, SameScalar a b → SameScalar b c → SameScalar a c) ∧
    (∀ a : Scalar, ¬ SameScalar a a ↔ ∃ x, a = .double x ∧ x.IsNaN) ∧
    (∀ x y : Double, SameScalar (.double x) (.double y) ↔
      ¬ x.IsNaN ∧ ¬ y.IsNaN ∧ x.toRat = y.toRat) ∧
    ∀ x y : Decimal, SameScalar (.decimal x) (.decimal y) ↔
      (x.mantissa : ℚ) / 10 ^ x.scale = (y.mantissa : ℚ) / 10 ^ y.scale := by
  refine ⟨fun a b => ?_, fun a b => ?_, fun a b hkind => ⟨mt SameScalar.elementType_eq hkind, ?_⟩,
    fun a b => SameScalar.symm, fun a b c => SameScalar.trans, fun a => ?_,
    fun x y => Double.sameNumber_iff, fun x y => Decimal.sameNumber_iff⟩
  · rw [beq_toValue_iff]
    exact sameScalar_and_ne_iff
  · rw [beq_toValue_iff]
    exact eq_and_not_sameScalar_iff
  · rw [beq_toValue_iff]
    rintro rfl
    exact hkind rfl
  · rw [sameScalar_self_iff]
    push Not
    exact Iff.rfl

/-- One half with one decimal place. -/
def half : Scalar := .decimal ⟨5, 1, by decide, by decide⟩

/-- One half with as many decimal places as there may be. -/
def paddedHalf : Scalar :=
  .decimal ⟨5000000000000000000000000000, 28, by decide, by decide⟩

/-- One half with three decimal places. -/
def fineHalf : Scalar := .decimal ⟨500, 3, by decide, by decide⟩

/-- One number with three scales is the same for the scalars only, and one in two widths for
neither comparison. -/
theorem comparisons_of_scalars_half :
    SameScalar paddedHalf half ∧ SameScalar half fineHalf ∧
      SameScalar fineHalf half ∧ SameScalar paddedHalf fineHalf ∧
      ¬ paddedHalf.toValue.beq fineHalf.toValue = true ∧
      (int 1).toValue.elementType ≠ (long 1).toValue.elementType ∧
      ¬ SameScalar (.int 1) (.long 1) ∧ ¬ (int 1).toValue.beq (long 1).toValue = true := by
  obtain ⟨hcoarser, -, hkinds, hsymm, htrans, -⟩ := comparisons_of_scalars
  have hpadded : SameScalar paddedHalf half := by decide
  have hfine : SameScalar half fineHalf := by decide
  have hscales : SameScalar paddedHalf fineHalf ∧
      ¬ paddedHalf.toValue.beq fineHalf.toValue = true :=
    (hcoarser _ _).2 (Or.inr ⟨_, _, rfl, rfl, by norm_num [Decimal.toRat], by decide⟩)
  have hwidths : (int 1).toValue.elementType ≠ (long 1).toValue.elementType := by decide
  exact ⟨hpadded, hfine, hsymm _ _ hfine, htrans _ _ _ hpadded hfine, hscales.2, hwidths,
    hkinds _ _ hwidths⟩

end Scalar

end DocumentQuery
