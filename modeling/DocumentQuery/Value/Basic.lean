import DocumentQuery.Decimal
import DocumentQuery.Double.Basic
import DocumentQuery.Instant
import DocumentQuery.OrderedMap.Basic

/-!
# Values and documents

A `Value` is what a query sends to the database: a scalar of one of several kinds, an array, a
document or null. A `Document` maps field names to values and keeps the order of its fields.

**Kinds.** `ElementType` lists the kinds, which are told apart even where the numbers are the same.
-/

namespace DocumentQuery

/-- A typed value. -/
inductive Value where
  | bool (b : Bool)
  | int (n : Int32)
  | long (n : Int64)
  | double (d : Double)
  | decimal (d : Decimal)
  | date (t : Instant)
  | string (s : String)
  | array (items : List Value)
  | document (fields : OrderedMap String Value)
  | null

/-- Fields with their values, in order. -/
abbrev Document := OrderedMap String Value

/-- The kind of a value. -/
inductive ElementType where
  | bool
  | int
  | long
  | double
  | decimal
  | date
  | string
  | array
  | document
  | null
  deriving DecidableEq, Repr

def ElementType.name : ElementType → String
  | .bool => "bool"
  | .int => "int"
  | .long => "long"
  | .double => "double"
  | .decimal => "decimal"
  | .date => "date"
  | .string => "string"
  | .array => "array"
  | .document => "object"
  | .null => "null"

namespace Value

def elementType : Value → ElementType
  | .bool _ => .bool
  | .int _ => .int
  | .long _ => .long
  | .double _ => .double
  | .decimal _ => .decimal
  | .date _ => .date
  | .string _ => .string
  | .array _ => .array
  | .document _ => .document
  | .null => .null

def isNull : Value → Bool
  | .null => true
  | _ => false

/-- The text of a string. -/
def string? : Value → Option String
  | .string s => some s
  | _ => none

/-- The items of an array. -/
def array? : Value → Option (List Value)
  | .array items => some items
  | _ => none

/-- The fields of a document. -/
def document? : Value → Option Document
  | .document fields => some fields
  | _ => none

end Value

namespace Document

/-- The text under a name, if there is a string. -/
def getString? (d : Document) (name : String) : Option String := (d.get? name).bind Value.string?

end Document

end DocumentQuery
