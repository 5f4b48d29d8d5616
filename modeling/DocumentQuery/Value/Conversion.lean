import DocumentQuery.Value.Basic

/-!
# Conversion to values

`ToValue` converts host scalars, lists and documents to values. A timestamp loses what is finer
than a millisecond; everything else is kept as it is.
-/

namespace DocumentQuery

/-- A type whose members are values of one kind. -/
class ToValue (α : Type) where
  toValue : α → Value

export ToValue (toValue)

instance : ToValue Value := ⟨id⟩
instance : ToValue Bool := ⟨.bool⟩
instance : ToValue Int32 := ⟨.int⟩
instance : ToValue Int64 := ⟨.long⟩
instance : ToValue Double := ⟨.double⟩
instance : ToValue Decimal := ⟨.decimal⟩
instance : ToValue Instant := ⟨.date⟩
instance : ToValue Timestamp := ⟨fun t => .date t.toInstant⟩
instance : ToValue String := ⟨.string⟩
instance : ToValue (List Value) := ⟨.array⟩
instance : ToValue Document := ⟨.document⟩

end DocumentQuery
