import DocumentQuery.Encoding.Encoder
import DocumentQuery.Text.Digits

/-!
# Sample host types

A small host program with seven types: amounts of money, the items and orders of a shop,
temperatures, points of a grid, bytes and texts. The names that the types have in messages are a
parameter.
-/

namespace DocumentQuery

namespace Sample

/-- An amount of money. -/
structure Money where
  cents : Int64
  currency : String

/-- One line of an order. -/
structure LineItem where
  sku : String
  price : Money

/-- A number of lines that are ordered together. -/
structure Order where
  id : Int64
  lines : List LineItem

/-- A temperature. -/
structure Celsius where
  degrees : Double

/-- A point of a grid. -/
structure Point where
  x : Int32
  y : Int32

/-- The types of the sample program. -/
inductive Kind where
  | money
  | lineItem
  | order
  | celsius
  | point
  | byte
  | text
  deriving DecidableEq, Repr

/-- The objects of a type. -/
def Kind.Carrier : Kind → Type
  | .money => Money
  | .lineItem => LineItem
  | .order => Order
  | .celsius => Celsius
  | .point => Point
  | .byte => UInt8
  | .text => String

/-- A line holds a price, and an order holds lines. -/
def Kind.depth : Kind → Nat
  | .lineItem => 1
  | .order => 2
  | _ => 0

/-- The types are numbered, and a type is identified by its number. -/
def Kind.identity (kind : Kind) : String :=
  String.ofList ("TypeId(".toList ++ Text.digits kind.ctorIdx ++ [')'])

/-- The sample program, whose types have the given names. -/
def hostTypes (name : Kind → String) : HostTypes where
  Code := Kind
  decEq := inferInstance
  Carrier := Kind.Carrier
  name := name
  identity := Kind.identity
  size {kind} _ := kind.depth

variable {name : Kind → String}

/-- An object of the sample program. -/
abbrev Object (name : Kind → String) := HostObject (hostTypes name)

def Money.toObject (m : Money) : Object name := ⟨Kind.money, m⟩
def LineItem.toObject (i : LineItem) : Object name := ⟨Kind.lineItem, i⟩
def Order.toObject (o : Order) : Object name := ⟨Kind.order, o⟩
def Celsius.toObject (t : Celsius) : Object name := ⟨Kind.celsius, t⟩
def Point.toObject (p : Point) : Object name := ⟨Kind.point, p⟩
def byteObject (b : UInt8) : Object name := ⟨Kind.byte, b⟩
def textObject (s : String) : Object name := ⟨Kind.text, s⟩

end Sample

end DocumentQuery
