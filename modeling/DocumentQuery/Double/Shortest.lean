import DocumentQuery.Double.Nearest
import DocumentQuery.Text.Digits

/-!
# Shortest decimals

`shortestMagnitude` finds, for the magnitude of a finite double, the decimal with the fewest digits
that reads back as that magnitude, and of several such decimals the nearest.

**Reading back.** A decimal reads back as a double when the double nearest to it is that double.

**Search.** The decimals with `n` digits near a number lie on a grid of powers of ten. If one of
them reads back, then so does one of the number's two neighbours on the grid, because the decimals
that read back form an interval around the number. So each count of digits needs two trials.
Seventeen digits suffice for every double; the exact decimal stands behind them and closes the
search.

**Ties.** Where both neighbours read back and are equally near, a `Tie` decides.
-/

namespace DocumentQuery

-- Powers of natural numbers are those of the core library, also beside a library with others.
attribute [local instance (2000)] instPowNat

/-- A decimal written as a coefficient and a power of ten: `coefficient · 10 ^ exponent`. -/
structure Scientific where
  coefficient : Nat
  exponent : Int
  deriving DecidableEq, Repr

/-- Which of two equally near neighbours is taken. -/
inductive Tie where
  /-- The larger one. -/
  | up
  /-- The one whose last digit is even. -/
  | even
  deriving DecidableEq, Repr

namespace Scientific

def numerator (s : Scientific) : Nat := s.coefficient * 10 ^ s.exponent.toNat

def denominator (s : Scientific) : Nat := 10 ^ (-s.exponent).toNat

/-- The exponent of the power of ten that the leading digit counts. -/
def leading (s : Scientific) : Int := s.exponent + (Text.digits s.coefficient).length - 1

end Scientific

/-- The exponent of the power of ten at the leading digit of the positive quotient `num / den`. -/
def leadingExponent (num den : Nat) : Int :=
  if den ≤ num then (Text.digits (num / den)).length - 1
  else -(Text.digits ((den - 1) / num)).length

namespace Double

/-- The decimal, with any sign, is nearest to a double of this magnitude. -/
def ReadsBack (magnitude : Nat) (s : Scientific) : Prop :=
  nearestMagnitude s.numerator s.denominator = magnitude

instance (magnitude : Nat) (s : Scientific) : Decidable (ReadsBack magnitude s) :=
  inferInstanceAs (Decidable (_ = _))

/-- The neighbour that reads back, on the grid of multiples of `10 ^ exponent`. -/
def onGrid? (tie : Tie) (magnitude : Nat) (exponent : Int) : Option Scientific :=
  let num := unitsOf magnitude * 10 ^ (-exponent).toNat
  let den := unitsPerOne * 10 ^ exponent.toNat
  let below : Scientific := ⟨num / den, exponent⟩
  let above : Scientific := ⟨num / den + 1, exponent⟩
  let aboveIsNearer : Bool :=
    den < 2 * (num % den) ||
      (den == 2 * (num % den) && match tie with
        | .up => true
        | .even => num / den % 2 == 1)
  if ReadsBack magnitude below then
    if ReadsBack magnitude above && aboveIsNearer then some above else some below
  else if ReadsBack magnitude above then some above
  else none

/-- The decimal that is exactly so many units. -/
def exactDecimal (units : Nat) : Scientific := ⟨units * 5 ^ unitExponent, -unitExponent⟩

/-- The shortest decimal that reads back as this finite magnitude. -/
def shortestMagnitude (tie : Tie) (magnitude : Nat) : Scientific :=
  if magnitude = 0 then ⟨0, 0⟩
  else
    let leading := leadingExponent (unitsOf magnitude) unitsPerOne
    ((List.range 17).findSome? fun n : Nat => onGrid? tie magnitude (leading - n)).getD
      (exactDecimal (unitsOf magnitude))

end Double

end DocumentQuery
