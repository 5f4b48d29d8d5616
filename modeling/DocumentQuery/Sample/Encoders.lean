import DocumentQuery.Double.Layout
import DocumentQuery.Encoding.Registry
import DocumentQuery.Sample.Types

/-!
# Sample encoders

Encoders for the sample host types, most types having two. Those for lines and orders hold
objects of other types, and leave these to the registry.
-/

namespace DocumentQuery

namespace Sample

variable {name : Kind → String}

/-- Money as its amount and its currency. -/
def moneyFields : Encoder (hostTypes name) where
  type := Kind.money
  recipe := fun (m : Money) =>
    .done (.document (.ofList [("amount", .long m.cents), ("currency", .string m.currency)]))

/-- Money as a text with two decimals; there is none for a negative amount. -/
def moneyText : Encoder (hostTypes name) where
  type := Kind.money
  recipe := fun (m : Money) =>
    let cents := m.cents.toInt
    if cents < 0 then .fail (.refused "Money" "negative amounts have no display form")
    else .done (.string (String.ofList
      (Text.digits (cents.toNat / 100) ++ '.' :: Text.padded 2 (cents.toNat % 100) ++
        ' ' :: m.currency.toList)))

/-- A line as its article and its encoded price. -/
def lineItem : Encoder (hostTypes name) where
  type := Kind.lineItem
  recipe := fun (i : LineItem) =>
    .part i.price.toObject Nat.zero_lt_one fun price =>
      .done (.document (.ofList [("sku", .string i.sku), ("price", price)]))

/-- An order as its number and its encoded lines. -/
def order : Encoder (hostTypes name) where
  type := Kind.order
  recipe := fun (o : Order) =>
    .parts (o.lines.map LineItem.toObject)
      (fun part h => by obtain ⟨i, _, rfl⟩ := List.mem_map.1 h; exact Nat.one_lt_two)
      fun lines => .done (.document (.ofList [("id", .long o.id), ("lines", .array lines)]))

/-- A temperature as a number. -/
def celsiusNumber : Encoder (hostTypes name) where
  type := Kind.celsius
  recipe := fun (t : Celsius) => .done (.double t.degrees)

/-- A temperature as a text with its unit. -/
def celsiusText : Encoder (hostTypes name) where
  type := Kind.celsius
  recipe := fun (t : Celsius) =>
    .done (.string (String.ofList (t.degrees.write .everyday) ++ "°C"))

/-- A point as its named coordinates. -/
def pointFields : Encoder (hostTypes name) where
  type := Kind.point
  recipe := fun (p : Point) => .done (.document (.ofList [("x", .int p.x), ("y", .int p.y)]))

/-- A point as the array of its coordinates. -/
def pointPair : Encoder (hostTypes name) where
  type := Kind.point
  recipe := fun (p : Point) => .done (.array [.int p.x, .int p.y])

/-- A byte as an integer. -/
def byteNumber : Encoder (hostTypes name) where
  type := Kind.byte
  recipe := fun (b : UInt8) => .done (.int (Int32.ofNat b.toNat))

/-- Refuses every byte. -/
def byteRefused : Encoder (hostTypes name) where
  type := Kind.byte
  recipe := fun (b : UInt8) =>
    .fail (.refused (name .byte)
      (String.ofList ("byte ".toList ++ Text.digits b.toNat ++ " refused".toList)))

/-- A text as itself. -/
def textString : Encoder (hostTypes name) where
  type := Kind.text
  recipe := fun (s : String) => .done (.string s)

/-- A text as null. -/
def textNull : Encoder (hostTypes name) where
  type := Kind.text
  recipe := fun (_ : String) => .done .null

end Sample

end DocumentQuery
