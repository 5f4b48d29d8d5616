import DocumentQuery.Double.Nearest
import DocumentQuery.Json.Basic
import DocumentQuery.Value.Basic

/-!
# Values of plain JSON

`Value.ofJson` reads a JSON tree as a value. A whole number becomes the narrowest integer that
holds it, and beyond 64 bits with a sign the nearest double. A real number becomes a double.
Objects become documents with the same names in the same order.

**Doubles of numbers.** `Json.toDouble?` is partial, since trees other than numbers have no double.
A number without one would become a NaN, but every number has one (`ofNumber_whole`,
`ofNumber_real`).
-/

namespace DocumentQuery

namespace Json

/-- The double of a number, which is the nearest one for a whole number. -/
def toDouble? : Json → Option Double
  | .whole n => some (Double.nearest (decide (n.val < 0)) n.val.natAbs 1)
  | .real d => some d.val
  | _ => none

end Json

namespace Value

/-- The double of a number as a value. Without a double it is a NaN. -/
def ofNumber (j : Json) : Value := .double (j.toDouble?.getD .nan)

theorem ofNumber_whole (n : Json.Whole) :
    ofNumber (.whole n) = .double (Double.nearest (decide (n.val < 0)) n.val.natAbs 1) := rfl

theorem ofNumber_real (d : Json.Real) : ofNumber (.real d) = .double d.val := rfl

/-- The value of a whole number. -/
def ofWhole (n : Json.Whole) : Value :=
  if -2147483648 ≤ n.val ∧ n.val < 2147483648 then .int (Int32.ofInt n.val)
  else if n.val < 9223372036854775808 then .long (Int64.ofInt n.val)
  else ofNumber (.whole n)

mutual

/-- The value of a JSON tree. -/
def ofJson : Json → Value
  | .null => .null
  | .bool b => .bool b
  | .whole n => ofWhole n
  | .real d => ofNumber (.real d)
  | .string s => .string s
  | .array items => .array (ofJsonItems items)
  | .object fields => .document ⟨fields.keys, ofJsonFields fields.slots, fields.nodup⟩

def ofJsonItems : List Json → List Value
  | [] => []
  | item :: rest => ofJson item :: ofJsonItems rest

def ofJsonFields {names : List String} : Slots String Json names → Slots String Value names
  | .nil => .nil
  | .cons name value rest => .cons name (ofJson value) (ofJsonFields rest)

end

end Value

end DocumentQuery
