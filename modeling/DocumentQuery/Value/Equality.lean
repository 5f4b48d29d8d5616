import DocumentQuery.Value.Basic

/-!
# Equality of values

Two values are equal when they have the same kind and the same contents: doubles the same word,
decimals the same mantissa and scale, arrays equal items in order, and documents the same names
with equal values, in the same order.

Main result: `beq_iff_eq`, the comparison decides whether two values are the same tree.
-/

namespace DocumentQuery

namespace Value

mutual

/-- The two values are equal. -/
def beq : Value → Value → Bool
  | .bool a, .bool b => a == b
  | .int a, .int b => a == b
  | .long a, .long b => a == b
  | .double a, .double b => a.bits == b.bits
  | .decimal a, .decimal b => a.mantissa == b.mantissa && a.scale == b.scale
  | .date a, .date b => a.millis == b.millis
  | .string a, .string b => a == b
  | .array a, .array b => beqItems a b
  | .document a, .document b => beqFields a.slots b.slots
  | .null, .null => true
  | _, _ => false

def beqItems : List Value → List Value → Bool
  | [], [] => true
  | a :: as, b :: bs => beq a b && beqItems as bs
  | _, _ => false

def beqFields {ks ls : List String} : Slots String Value ks → Slots String Value ls → Bool
  | .nil, .nil => true
  | .cons k a as, .cons l b bs => k == l && (beq a b && beqFields as bs)
  | _, _ => false

end

/-! ## The comparison decides equality -/

theorem double_ext_iff {a b : Double} : a = b ↔ a.bits = b.bits := by
  cases a
  cases b
  simp

theorem decimal_ext_iff {a b : Decimal} :
    a = b ↔ a.mantissa = b.mantissa ∧ a.scale = b.scale := by
  cases a
  cases b
  simp

theorem instant_ext_iff {a b : Instant} : a = b ↔ a.millis = b.millis := by
  cases a
  cases b
  simp

mutual

theorem beq_iff_eq : ∀ v w : Value, beq v w = true ↔ v = w
  | .bool a, w => by cases w <;> simp [beq]
  | .int a, w => by cases w <;> simp [beq]
  | .long a, w => by cases w <;> simp [beq]
  | .double a, w => by cases w <;> simp [beq, double_ext_iff]
  | .decimal a, w => by cases w <;> simp [beq, decimal_ext_iff]
  | .date a, w => by cases w <;> simp [beq, instant_ext_iff]
  | .string a, w => by cases w <;> simp [beq]
  | .array a, w => by cases w <;> simp [beq, beqItems_iff_eq a]
  | .document a, w => by
    cases w with
    | document b =>
      rw [beq, beqFields_iff_toList_eq a.slots b.slots, Value.document.injEq]
      exact ⟨fun h => OrderedMap.ext_toList h, fun h => h ▸ rfl⟩
    | _ => simp [beq]
  | .null, w => by cases w <;> simp [beq]

theorem beqItems_iff_eq : ∀ vs ws : List Value, beqItems vs ws = true ↔ vs = ws
  | [], ws => by cases ws <;> simp [beqItems]
  | v :: vs, ws => by cases ws <;> simp [beqItems, beq_iff_eq v, beqItems_iff_eq vs]

theorem beqFields_iff_toList_eq {ks ls : List String} :
    ∀ (vs : Slots String Value ks) (ws : Slots String Value ls),
      beqFields vs ws = true ↔ vs.toList = ws.toList
  | .nil, ws => by cases ws <;> simp [beqFields, Slots.toList]
  | .cons k v vs, ws => by
    cases ws <;> simp [beqFields, Slots.toList, beq_iff_eq v, beqFields_iff_toList_eq vs, and_assoc]

end

instance : DecidableEq Value := fun v w => decidable_of_iff _ (beq_iff_eq v w)

end Value

instance : DecidableEq Document := fun d e =>
  decidable_of_iff (Value.beqFields d.slots e.slots)
    ((Value.beqFields_iff_toList_eq _ _).trans
      ⟨OrderedMap.ext_toList, fun h => h ▸ rfl⟩)

end DocumentQuery
