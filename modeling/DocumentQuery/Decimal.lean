import DocumentQuery.Text.Digits

/-!
# Fixed-point decimals

A `Decimal` is a whole mantissa divided by a power of ten. The mantissa has 96 bits and a sign,
and there are at most 28 digits after the point.

**Equality.** Two decimals are equal when mantissa and scale are, so `1.5` differs from `1.50`.
`SameNumber` compares their values.

**Zero.** A decimal format with a sign bit of its own can hold a negative zero, which arises when a
zero is negated or given a sign. Such zeros are left out here: the mantissa is an integer, so zero
has one form for each scale, which is the one that literals and integers lead to.

**Text.** Every digit of the scale is written, also a zero at the end.
-/

namespace DocumentQuery

-- Powers of natural numbers are those of the core library, also beside a library with others.
attribute [local instance (2000)] instPowNat

/-- The first natural number with more than 96 bits. -/
def mantissaBound : Nat := 79228162514264337593543950336

/-- The number `mantissa / 10 ^ scale`, with the count of its decimal places. -/
structure Decimal where
  mantissa : Int
  scale : Nat
  mantissa_lt : mantissa.natAbs < mantissaBound
  scale_le : scale ≤ 28
  deriving DecidableEq, Repr

namespace Decimal

/-- The decimal with this mantissa and scale, if both are in range. -/
def ofMantissa? (mantissa : Int) (scale : Nat) : Option Decimal :=
  if h : mantissa.natAbs < mantissaBound ∧ scale ≤ 28 then some ⟨mantissa, scale, h.1, h.2⟩
  else none

/-- The two decimals denote the same number. -/
def SameNumber (a b : Decimal) : Prop :=
  a.mantissa * (10 ^ b.scale : Nat) = b.mantissa * (10 ^ a.scale : Nat)

instance (a b : Decimal) : Decidable (SameNumber a b) := inferInstanceAs (Decidable (_ = _))

/-- The digits of `mantissa / 10 ^ scale`. -/
def writeUnsigned (mantissa scale : Nat) : List Char :=
  Text.digits (mantissa / 10 ^ scale) ++
    if scale = 0 then [] else '.' :: Text.padded scale (mantissa % 10 ^ scale)

def write (d : Decimal) : List Char :=
  (if d.mantissa < 0 then ['-'] else []) ++ writeUnsigned d.mantissa.natAbs d.scale

/-- The characters of a literal without the underscores that group its digits. They may stand
anywhere after the first digit. -/
def ungrouped (cs : List Char) : List Char :=
  cs.takeWhile (!·.isDigit) ++ (cs.dropWhile (!·.isDigit)).filter (· != '_')

/-- Reads digits with at most one point among them. -/
def readUnsigned? (negative : Bool) (cs : List Char) : Option Decimal :=
  let whole := cs.takeWhile Char.isDigit
  let rest := cs.dropWhile Char.isDigit
  let fraction := rest.drop 1
  let mantissa : Int := Text.value (whole ++ fraction)
  if (rest = [] ∨ rest.head? = some '.') ∧ fraction.all Char.isDigit ∧ whole ++ fraction ≠ [] then
    ofMantissa? (if negative then -mantissa else mantissa) fraction.length
  else none

/-- Reads an exact decimal literal: an optional sign and at least one digit, with an optional
point before, between or after the digits. The sign of a zero is dropped. -/
def read? (cs : List Char) : Option Decimal :=
  match cs with
  | '-' :: rest => readUnsigned? true (ungrouped rest)
  | '+' :: rest => readUnsigned? false (ungrouped rest)
  | rest => readUnsigned? false (ungrouped rest)

theorem SameNumber.symm {a b : Decimal} (h : SameNumber a b) : SameNumber b a := Eq.symm h

theorem sameNumber_self (a : Decimal) : SameNumber a a := rfl

end Decimal

end DocumentQuery
