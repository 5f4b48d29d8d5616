import DocumentQuery.Proofs.JsonTree
import DocumentQuery.Proofs.ValueTree
import DocumentQuery.Value.Lift

/-!
# Lifting and rendering

A JSON tree that is lifted to a value and rendered in relaxed form comes back as it was, unless one
of its numbers is lost on the way.

**Leaves.** Null, booleans and texts come back. So does a whole number that fits a 64-bit integer,
whatever the width it is lifted to; a larger one becomes a double, which is never rendered as a
whole number. A real number comes back unless it is the negative zero, which is rendered as a
wrapper.

**Trees.** Arrays and objects are lifted and rendered item by item and field by field, so a tree
comes back just when all of its leaves do (`roundTrip_eq_self_iff`): a lost number is never made up
for by what is around it.

Main results: `roundTrip_eq_self_iff` and `toJson_ofJson_eq_self_iff`.
-/

namespace DocumentQuery

/-! ## Lifting arrays and objects -/

namespace Value

theorem ofJsonItems_eq_map (items : List Json) : ofJsonItems items = items.map ofJson := by
  induction items with
  | nil => rfl
  | cons item rest ih => rw [ofJsonItems, ih, List.map_cons]

theorem ofJsonFields_eq_mapValues {names : List String} (fields : Slots String Json names) :
    ofJsonFields fields = fields.mapValues ofJson := by
  induction fields with
  | nil => rfl
  | cons name value rest ih => rw [ofJsonFields, ih, Slots.mapValues]

theorem ofJson_array (items : List Json) : ofJson (.array items) = .array (items.map ofJson) := by
  rw [ofJson, ofJsonItems_eq_map]

theorem ofJson_object (fields : OrderedMap String Json) :
    ofJson (.object fields) = .document (fields.mapValues ofJson) := by
  rw [ofJson, ofJsonFields_eq_mapValues]
  rfl

end Value

namespace Json

/-- The tree that comes back when a tree is lifted and rendered. -/
def roundTrip (j : Json) : Json := (Value.ofJson j).toJson .relaxed

theorem roundTrip_array (items : List Json) :
    (array items).roundTrip = .array (items.map roundTrip) := by
  rw [roundTrip, Value.ofJson_array, Value.toJson_array, List.map_map]
  rfl

theorem roundTrip_object (fields : OrderedMap String Json) :
    (object fields).roundTrip = .object (fields.mapValues roundTrip) := by
  rw [roundTrip, Value.ofJson_object, Value.toJson_document, OrderedMap.mapValues_mapValues]
  rfl

/-! ## Leaves -/

theorem toJson_double_ne_whole (d : Double) (n : Whole) : d.toJson .relaxed ≠ .whole n := by
  unfold Double.toJson
  split
  · intro h
    exact nomatch h
  · intro h
    exact nomatch h

theorem roundTrip_whole_eq_self_iff {n : Whole} :
    (whole n).roundTrip = .whole n ↔ n.val ≤ 9223372036854775807 := by
  show (Value.ofWhole n).toJson .relaxed = .whole n ↔ _
  unfold Value.ofWhole
  split
  next hint =>
    have hval : (Int32.ofInt n.val).toInt = n.val := Int32.toInt_ofInt_of_le hint.1 hint.2
    have hback : Whole.ofInt32 (Int32.ofInt n.val) = n := by
      simp only [Whole.ofInt32, hval]
    have hle : n.val ≤ 9223372036854775807 := by omega
    simp [Value.toJson, hback, hle]
  next hint =>
    split
    next hlong =>
      have hval : (Int64.ofInt n.val).toInt = n.val := Int64.toInt_ofInt_of_le n.ge hlong
      have hback : Whole.ofInt64 (Int64.ofInt n.val) = n := by
        simp only [Whole.ofInt64, hval]
      have hle : n.val ≤ 9223372036854775807 := by omega
      simp [Value.toJson, hback, hle]
    next hlong =>
      have hgt : ¬ n.val ≤ 9223372036854775807 := by omega
      exact iff_of_false (toJson_double_ne_whole _ n) hgt

theorem roundTrip_real_eq_self_iff {d : Real} :
    (real d).roundTrip = .real d ↔ ¬ d.val.IsNegativeZero := by
  show (Value.ofNumber (.real d)).toJson .relaxed = .real d ↔ _
  rw [Value.ofNumber_real, Value.toJson]
  unfold Double.toJson
  split
  next h => exact iff_of_true rfl h.2.2
  next h =>
    apply iff_of_false
    · intro hwrapped
      cases hwrapped
    · intro hzero
      exact h ⟨rfl, d.finite, hzero⟩

/-! ## Trees -/

/-- **A tree comes back just when all of its leaves do.** -/
theorem roundTrip_eq_self_iff (j : Json) :
    j.roundTrip = j ↔ ∀ k, j.Holds k → k.isLeaf → k.roundTrip = k := by
  induction j using Json.induction with
  | leaf j hj =>
    constructor
    · intro h k hk _
      rw [(holds_of_isLeaf hj).1 hk, h]
    · intro h
      exact h j (.self j) hj
  | array items ih =>
    rw [roundTrip_array, array.injEq, map_eq_self_iff, forall_leaf_array]
    exact forall₂_congr ih
  | object fields ih =>
    rw [roundTrip_object, object.injEq, OrderedMap.mapValues_eq_self_iff, forall_leaf_object]
    exact forall₂_congr ih

end Json

/-- **Plain JSON comes back from lifting and relaxed rendering** if and only if it holds, at no
depth, a whole number beyond 64 bits with a sign, nor a negative zero. -/
theorem Value.toJson_ofJson_eq_self_iff (j : Json) :
    (Value.ofJson j).toJson .relaxed = j ↔
      (∀ n, j.Holds (.whole n) → n.val ≤ 9223372036854775807) ∧
        ∀ d, j.Holds (.real d) → ¬ d.val.IsNegativeZero := by
  show j.roundTrip = j ↔ _
  rw [Json.roundTrip_eq_self_iff]
  constructor
  · intro h
    constructor
    · intro n hn
      exact Json.roundTrip_whole_eq_self_iff.1 (h _ hn rfl)
    · intro d hd
      exact Json.roundTrip_real_eq_self_iff.1 (h _ hd rfl)
  · rintro ⟨hwhole, hreal⟩ k hk hleaf
    cases k with
    | whole n => exact Json.roundTrip_whole_eq_self_iff.2 (hwhole n hk)
    | real d => exact Json.roundTrip_real_eq_self_iff.2 (hreal d hk)
    | array items => exact nomatch hleaf
    | object fields => exact nomatch hleaf
    | _ => rfl

end DocumentQuery
