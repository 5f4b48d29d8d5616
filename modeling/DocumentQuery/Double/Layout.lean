import DocumentQuery.Double.Shortest

/-!
# Texts of doubles

A double is written with its shortest digits, either positionally or with an exponent.

**Layouts.** A `Layout` says which numbers are written positionally, how the exponent is marked and
whether it has a plus sign, whether whole numbers get a fraction, what infinity is called and which
way ties go.

**The four layouts of this library.** `extended` is the text inside a number wrapper, `plain` is a
bare number in JSON text, `everyday` is the text meant for people, and `described` the one meant
for people who look into a value.
-/

namespace DocumentQuery

-- Powers of natural numbers are those of the core library, also beside a library with others.
attribute [local instance (2000)] instPowNat

namespace Double

/-- How a double is laid out. -/
structure Layout where
  /-- Numbers below `10⁻ˢ` are written with an exponent, for this `s`; `none` never does so. -/
  smallest : Option Nat
  /-- Numbers from `10ˢ` on are written with an exponent, for this `s`; `none` never does so. -/
  largest : Option Nat
  /-- The character in front of the exponent. -/
  marker : Char
  /-- An exponent that is not negative has a plus sign. -/
  plusSign : Bool
  /-- Whole numbers end in a point and a zero. -/
  keepsPoint : Bool
  /-- The name of positive infinity. -/
  infinity : String
  tie : Tie

namespace Layout

def extended : Layout := ⟨some 4, some 16, 'E', true, true, "Infinity", .up⟩

def plain : Layout := ⟨some 5, some 16, 'e', true, true, "Infinity", .even⟩

def everyday : Layout := ⟨none, none, 'e', false, false, "inf", .up⟩

def described : Layout := ⟨some 4, some 16, 'e', false, true, "inf", .up⟩

/-- The number of these units lies where the layout is positional. -/
def IsPositional (l : Layout) (units : Nat) : Prop :=
  units = 0 ∨ ((∀ s ∈ l.smallest, unitsPerOne ≤ units * 10 ^ s) ∧
    ∀ s ∈ l.largest, units < unitsPerOne * 10 ^ s)

instance (l : Layout) (units : Nat) : Decidable (l.IsPositional units) :=
  inferInstanceAs (Decidable (_ ∨ (_ ∧ _)))

end Layout

/-- The digits without the zeros at their end. -/
def significant (ds : List Char) : List Char :=
  (ds.reverse.dropWhile (· == '0')).reverse

/-- Digits written positionally, the first one counting `10 ^ leading`. -/
def positional (keepsPoint : Bool) (leading : Int) (ds : List Char) : List Char :=
  let whole := (ds.take (leading + 1).toNat).rightpad (leading + 1).toNat '0'
  let fraction := List.replicate (-leading - 1).toNat '0' ++ ds.drop (leading + 1).toNat
  (if whole.isEmpty then ['0'] else whole) ++
    if fraction.isEmpty then (if keepsPoint then ['.', '0'] else []) else '.' :: fraction

/-- Digits written with one of them before the point, and the exponent of that digit. -/
def withExponent (marker : Char) (plusSign : Bool) (leading : Int) (ds : List Char) : List Char :=
  ds.take 1 ++ (if (ds.drop 1).isEmpty then [] else '.' :: ds.drop 1) ++
    marker :: (if leading < 0 then ['-'] else if plusSign then ['+'] else []) ++
      Text.digits leading.natAbs

/-- The text of a finite magnitude. -/
def writeMagnitude (l : Layout) (magnitude : Nat) : List Char :=
  let s := shortestMagnitude l.tie magnitude
  let ds := significant (Text.digits s.coefficient)
  if l.IsPositional (unitsOf magnitude) then positional l.keepsPoint s.leading ds
  else withExponent l.marker l.plusSign s.leading ds

/-- The text of a double. The sign of a NaN is not written. -/
def write (l : Layout) (d : Double) : List Char :=
  if d.IsNaN then "NaN".toList
  else
    (if d.IsNegative then ['-'] else []) ++
      if d.IsInfinite then l.infinity.toList else writeMagnitude l d.magnitude

end Double

end DocumentQuery
