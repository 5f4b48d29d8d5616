import DocumentQuery.Json.Compact
import DocumentQuery.Value.Basic

/-!
# Extended JSON

Values are rendered as JSON trees in which a kind that JSON lacks is written as an object with a
single field, whose name starts with a dollar sign and says the kind.

**Canonical.** Every number and every date has such a wrapper, so the kind can be read off.

**Relaxed.** Integers and finite doubles are plain JSON numbers, and dates of the years 1970 to
9999 are ISO texts. What plain JSON would not keep stays wrapped: decimals, other dates, and the
doubles that are infinite, not a number, or the negative zero.
-/

namespace DocumentQuery

/-- How much of the kinds the JSON form shows. -/
inductive Dialect where
  | canonical
  | relaxed
  deriving DecidableEq, Repr

namespace Json

/-- Text under the name of a wrapper. -/
def wrapped (name : String) (text : List Char) : Json := field name (.string (String.ofList text))

end Json

def Double.toJson (dialect : Dialect) (d : Double) : Json :=
  if h : dialect = .relaxed ∧ d.IsFinite ∧ ¬ d.IsNegativeZero then .real ⟨d, h.2.1⟩
  else .wrapped "$numberDouble" (d.write .extended)

def Instant.toJson (dialect : Dialect) (t : Instant) : Json :=
  if dialect = .relaxed ∧ t.IsModern then .wrapped "$date" (Instant.writeIso t.date t.timeOfDay)
  else .field "$date" (.wrapped "$numberLong" (Text.signed t.toInt))

/-! ## Doubles and dates in each dialect -/

theorem Double.toJson_canonical (d : Double) :
    d.toJson .canonical = .wrapped "$numberDouble" (d.write .extended) :=
  dif_neg fun h => nomatch h.1

theorem Double.toJson_relaxed {d : Double} (h : d.IsFinite ∧ ¬ d.IsNegativeZero) :
    d.toJson .relaxed = .real ⟨d, h.1⟩ :=
  dif_pos ⟨rfl, h⟩

theorem Double.toJson_relaxed_of_not {d : Double} (h : ¬ (d.IsFinite ∧ ¬ d.IsNegativeZero)) :
    d.toJson .relaxed = d.toJson .canonical := by
  rw [toJson_canonical, toJson, dif_neg fun hreal => h hreal.2]

theorem Instant.toJson_canonical (t : Instant) :
    t.toJson .canonical = .field "$date" (.wrapped "$numberLong" (Text.signed t.toInt)) :=
  if_neg fun h => nomatch h.1

theorem Instant.toJson_relaxed {t : Instant} (h : t.IsModern) :
    t.toJson .relaxed = .wrapped "$date" (writeIso t.date t.timeOfDay) :=
  if_pos ⟨rfl, h⟩

theorem Instant.toJson_relaxed_of_not {t : Instant} (h : ¬ t.IsModern) :
    t.toJson .relaxed = t.toJson .canonical := by
  rw [toJson_canonical, toJson, if_neg fun hmodern => h hmodern.2]

/-! ## Values -/

namespace Value

mutual

/-- The extended JSON of a value. -/
def toJson (dialect : Dialect) : Value → Json
  | .null => .null
  | .bool b => .bool b
  | .string s => .string s
  | .int n => match dialect with
    | .canonical => .wrapped "$numberInt" (Text.signed n.toInt)
    | .relaxed => .whole (.ofInt32 n)
  | .long n => match dialect with
    | .canonical => .wrapped "$numberLong" (Text.signed n.toInt)
    | .relaxed => .whole (.ofInt64 n)
  | .double d => d.toJson dialect
  | .decimal d => .wrapped "$numberDecimal" d.write
  | .date t => t.toJson dialect
  | .array items => .array (toJsonItems dialect items)
  | .document fields => .object ⟨fields.keys, toJsonFields dialect fields.slots, fields.nodup⟩

def toJsonItems (dialect : Dialect) : List Value → List Json
  | [] => []
  | item :: rest => toJson dialect item :: toJsonItems dialect rest

def toJsonFields (dialect : Dialect) {names : List String} :
    Slots String Value names → Slots String Json names
  | .nil => .nil
  | .cons name value rest => .cons name (toJson dialect value) (toJsonFields dialect rest)

end

/-- The compact extended JSON text of a value. -/
def text (dialect : Dialect) (v : Value) : String := (v.toJson dialect).compact

end Value

namespace Document

/-- The compact extended JSON text of a document. -/
def text (dialect : Dialect) (d : Document) : String := (Value.document d).text dialect

end Document

end DocumentQuery
