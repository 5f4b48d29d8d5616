import DocumentQuery.Double.Basic
import DocumentQuery.OrderedMap.Basic

/-!
# JSON trees

A `Json` tree keeps the order of the fields of its objects, whose names are distinct, and tells
whole numbers from real ones.

**Numbers.** A whole number is one that fits a signed or an unsigned 64-bit word. A real number is
a finite double; it may have a whole value and is still a real number.
-/

namespace DocumentQuery

namespace Json

/-- A number that fits a 64-bit word with or without a sign. -/
structure Whole where
  val : Int
  ge : -9223372036854775808 ≤ val
  lt : val < 18446744073709551616
  deriving DecidableEq, Repr

/-- A finite double. -/
structure Real where
  val : Double
  finite : val.IsFinite
  deriving DecidableEq, Repr

end Json

/-- A JSON tree. -/
inductive Json where
  | null
  | bool (b : Bool)
  | whole (n : Json.Whole)
  | real (d : Json.Real)
  | string (s : String)
  | array (items : List Json)
  | object (fields : OrderedMap String Json)

namespace Json

def Whole.ofInt? (n : Int) : Option Whole :=
  if h : -9223372036854775808 ≤ n ∧ n < 18446744073709551616 then some ⟨n, h.1, h.2⟩ else none

def Real.ofDouble? (d : Double) : Option Real :=
  if h : d.IsFinite then some ⟨d, h⟩ else none

/-- A 32-bit integer as a JSON number. -/
def Whole.ofInt32 (n : Int32) : Whole :=
  ⟨n.toInt, by have := n.le_toInt; omega, by have := n.toInt_lt; omega⟩

/-- A 64-bit integer as a JSON number. -/
def Whole.ofInt64 (n : Int64) : Whole :=
  ⟨n.toInt, by have := n.le_toInt; omega, by have := n.toInt_lt; omega⟩

/-- The object with one field. -/
def field (name : String) (value : Json) : Json := .object (.singleton name value)

end Json

end DocumentQuery
