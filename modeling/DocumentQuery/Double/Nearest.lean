import DocumentQuery.Double.Basic

/-!
# The nearest double

`nearest` rounds a non-negative quotient to the nearest double, a quotient half-way between two
doubles going to the one whose magnitude is even.

**Binades.** The doubles from `2ᵏ⁺⁵²` up to `2ᵏ⁺⁵³` units are `2ᵏ` units apart, and below `2⁵³`
units they are one unit apart. So the quotient, counted in units, is divided by the step of its
binade and rounded to a whole number; counting the steps over all lower binades gives the
magnitude. A quotient that rounds up to the next power of two needs no case of its own, since the
magnitudes are consecutive across binades. Quotients beyond the largest double go to infinity.
-/

namespace DocumentQuery

-- Powers of natural numbers are those of the core library, also beside a library with others.
attribute [local instance (2000)] instPowNat

/-- The whole number nearest to `num / den`, the even one of two that are equally near. -/
def roundHalfEven (num den : Nat) : Nat :=
  if 2 * (num % den) < den ∨ (2 * (num % den) = den ∧ (num / den) % 2 = 0) then num / den
  else num / den + 1

namespace Double

/-- The exponent of the step of the binade that holds a number of whole units. -/
def binade (units : Nat) : Nat := units.log2 - 52

/-- The magnitude of the double nearest to `num / den`. -/
def nearestMagnitude (num den : Nat) : Nat :=
  let k := binade (num * unitsPerOne / den)
  min (k * binadeSize + roundHalfEven (num * unitsPerOne) (den * 2 ^ k)) infinityMagnitude

/-- The double of the given sign nearest to `num / den` in absolute value. -/
def nearest (negative : Bool) (num den : Nat) : Double :=
  ofMagnitude negative (nearestMagnitude num den)

theorem nearestMagnitude_le (num den : Nat) : nearestMagnitude num den ≤ infinityMagnitude :=
  Nat.min_le_right _ _

theorem nearestMagnitude_lt_signBit (num den : Nat) : nearestMagnitude num den < signBit :=
  Nat.lt_of_le_of_lt (nearestMagnitude_le num den) (by decide)

theorem magnitude_nearest (negative : Bool) (num den : Nat) :
    (nearest negative num den).magnitude = nearestMagnitude num den :=
  magnitude_ofMagnitude (nearestMagnitude_lt_signBit num den)

end Double

/-! ## Rounding to whole numbers -/

theorem roundHalfEven_of_dvd {num den : Nat} (h : den ∣ num) (hd : 0 < den) :
    roundHalfEven num den = num / den := by
  simp [roundHalfEven, Nat.mod_eq_zero_of_dvd h, hd]

end DocumentQuery
