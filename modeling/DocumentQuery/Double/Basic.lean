/-!
# Binary floating-point numbers

A `Double` is a 64-bit word in the binary64 interchange format: a sign bit, eleven exponent bits
and fifty-two fraction bits.

**Equality.** Two doubles are equal when their words are. So a NaN is equal to itself, and the
two zeros differ. `SameNumber` is the comparison by numeric value instead.

**Magnitude.** The low 63 bits. They grow with the absolute value, up to `infinityMagnitude`;
the words above that are NaNs.

**Units.** The absolute value of a finite double is a whole number of units of `2⁻¹⁰⁷⁴`, the
least positive double, so exact arithmetic on doubles is arithmetic on natural numbers.
-/

namespace DocumentQuery

-- Powers of natural numbers are those of the core library, also beside a library with others.
attribute [local instance (2000)] instPowNat

/-- A binary64 word. -/
structure Double where
  bits : UInt64
  deriving DecidableEq, Repr

namespace Double

/-- The sign bit, `2⁶³`. -/
def signBit : Nat := 9223372036854775808

/-- The number of doubles of one sign and one exponent, `2⁵²`. -/
def binadeSize : Nat := 4503599627370496

/-- The magnitude of the infinities. -/
def infinityMagnitude : Nat := 2047 * binadeSize

/-- The word without its sign bit. -/
def magnitude (d : Double) : Nat := d.bits.toNat % signBit

/-- The sign bit is set. -/
def IsNegative (d : Double) : Prop := signBit ≤ d.bits.toNat

def IsFinite (d : Double) : Prop := d.magnitude < infinityMagnitude

def IsInfinite (d : Double) : Prop := d.magnitude = infinityMagnitude

def IsNaN (d : Double) : Prop := infinityMagnitude < d.magnitude

/-- The NaN that arithmetic gives where there is no number. -/
def nan : Double := ⟨0x7ff8000000000000⟩

/-- One of the two zeros. -/
def IsZero (d : Double) : Prop := d.magnitude = 0

/-- The zero whose sign bit is set. -/
def IsNegativeZero (d : Double) : Prop := d.IsZero ∧ d.IsNegative

instance (d : Double) : Decidable d.IsNegative := inferInstanceAs (Decidable (_ ≤ _))
instance (d : Double) : Decidable d.IsFinite := inferInstanceAs (Decidable (_ < _))
instance (d : Double) : Decidable d.IsInfinite := inferInstanceAs (Decidable (_ = _))
instance (d : Double) : Decidable d.IsNaN := inferInstanceAs (Decidable (_ < _))
instance (d : Double) : Decidable d.IsZero := inferInstanceAs (Decidable (_ = _))
instance (d : Double) : Decidable d.IsNegativeZero := inferInstanceAs (Decidable (_ ∧ _))

/-- The double with this sign and this magnitude. -/
def ofMagnitude (negative : Bool) (magnitude : Nat) : Double :=
  ⟨UInt64.ofNat (magnitude + if negative then signBit else 0)⟩

/-- The number of units of `2⁻¹⁰⁷⁴` in a finite magnitude. -/
def unitsOf (magnitude : Nat) : Nat :=
  if magnitude < binadeSize then magnitude
  else (binadeSize + magnitude % binadeSize) * 2 ^ (magnitude / binadeSize - 1)

/-- The exponent of the unit, without its sign. -/
def unitExponent : Nat := 1074

/-- How many units make one. -/
def unitsPerOne : Nat := 2 ^ unitExponent

/-- The two doubles are numbers and denote the same one. -/
def SameNumber (a b : Double) : Prop :=
  ¬ a.IsNaN ∧ ¬ b.IsNaN ∧ (a = b ∨ (a.IsZero ∧ b.IsZero))

instance (a b : Double) : Decidable (SameNumber a b) := inferInstanceAs (Decidable (_ ∧ _ ∧ _))

/-! ## Words, signs and magnitudes -/

theorem magnitude_ofMagnitude {negative : Bool} {m : Nat} (h : m < signBit) :
    (ofMagnitude negative m).magnitude = m := by
  unfold signBit at h
  cases negative <;> simp [ofMagnitude, magnitude, signBit] <;> omega

theorem isNegative_ofMagnitude {negative : Bool} {m : Nat} (h : m < signBit) :
    (ofMagnitude negative m).IsNegative ↔ negative = true := by
  unfold signBit at h
  cases negative <;> simp [ofMagnitude, IsNegative, signBit] <;> omega

/-- A double is its sign and its magnitude. -/
theorem ofMagnitude_magnitude (d : Double) :
    ofMagnitude (decide d.IsNegative) d.magnitude = d := by
  have := d.bits.toNat_lt
  unfold ofMagnitude
  congr 1
  rw [← UInt64.toNat_inj, UInt64.toNat_ofNat']
  by_cases h : signBit ≤ d.bits.toNat <;> simp [magnitude, IsNegative, h] <;>
    unfold signBit at * <;> omega

end Double

end DocumentQuery
