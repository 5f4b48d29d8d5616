import DocumentQuery.Value.Conversion

/-!
# Scalars

The values that a literal expression can hold: those without parts, null excepted.

**Comparison.** `SameScalar` compares by meaning: doubles and decimals by numeric value, so a NaN
is not even the same as itself, and everything else by contents. Scalars of different kinds are
never the same. The values of two scalars are compared more finely (`Value.beq`).
-/

namespace DocumentQuery

/-- A value without parts. -/
inductive Scalar where
  | bool (b : Bool)
  | int (n : Int32)
  | long (n : Int64)
  | double (d : Double)
  | decimal (d : Decimal)
  | date (t : Instant)
  | string (s : String)
  deriving DecidableEq

namespace Scalar

def toValue : Scalar → Value
  | .bool b => .bool b
  | .int n => .int n
  | .long n => .long n
  | .double d => .double d
  | .decimal d => .decimal d
  | .date t => .date t
  | .string s => .string s

/-- The two scalars mean the same. -/
def SameScalar : Scalar → Scalar → Prop
  | .bool a, .bool b => a = b
  | .int a, .int b => a = b
  | .long a, .long b => a = b
  | .double a, .double b => a.SameNumber b
  | .decimal a, .decimal b => a.SameNumber b
  | .date a, .date b => a = b
  | .string a, .string b => a = b
  | _, _ => False

instance (a b : Scalar) : Decidable (SameScalar a b) := by
  cases a <;> cases b <;> unfold SameScalar <;> infer_instance

end Scalar

instance : ToValue Scalar := ⟨Scalar.toValue⟩

/-- A type whose members are scalars of one kind. -/
class ToScalar (α : Type) where
  toScalar : α → Scalar

export ToScalar (toScalar)

instance : ToScalar Scalar := ⟨id⟩
instance : ToScalar Bool := ⟨.bool⟩
instance : ToScalar Int32 := ⟨.int⟩
instance : ToScalar Int64 := ⟨.long⟩
instance : ToScalar Double := ⟨.double⟩
instance : ToScalar Decimal := ⟨.decimal⟩
instance : ToScalar Instant := ⟨.date⟩
instance : ToScalar Timestamp := ⟨fun t => .date t.toInstant⟩
instance : ToScalar String := ⟨.string⟩

end DocumentQuery
