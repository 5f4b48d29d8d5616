import DocumentQuery.Proofs.Lifting
import DocumentQuery.Value.Equality

/-!
# Rendered values lifted back

A value that is rendered and lifted back is in normal form: rendering it again, in relaxed form,
gives the same JSON. The value itself comes back just when plain JSON has a place for all that is in
it.

**Rendered trees.** A tree that comes from a value has no number that lifting would change. Its
whole numbers fit 64 bits with a sign, since they were integers, and its real numbers are not the
negative zero, which is rendered as a wrapper (`roundTrip_toJson`). In canonical form there are no
numbers at all (`hasNoNumber_toJson`).

**Leaves.** Wrappers come back as documents, so decimals, dates and the doubles that need a wrapper
do not come back. An integer comes back with the least width that holds it, so a 64-bit integer
that fits 32 bits does not come back either (`lifted_eq_self_iff_of_isLeaf`). Since arrays and
documents are taken apart and put together again member by member, nothing around a leaf makes up
for it (`lifted_eq_self_iff`).

Main results: `roundTrip_toJson`, `hasNoNumber_toJson` and `lifted_eq_self_iff`.
-/

namespace DocumentQuery

namespace Json

/-! ## Wrappers -/

theorem roundTrip_field (name : String) (j : Json) :
    (field name j).roundTrip = field name j.roundTrip := by
  rw [field, roundTrip_object]
  rfl

theorem roundTrip_wrapped (name : String) (text : List Char) :
    (wrapped name text).roundTrip = wrapped name text :=
  roundTrip_field name _

/-! ## Trees without numbers -/

def isNumber : Json → Bool
  | .whole _ => true
  | .real _ => true
  | _ => false

/-- No leaf of the tree is a number. -/
def HasNoNumber (j : Json) : Prop := ∀ k, j.Holds k → k.isLeaf → ¬ k.isNumber

theorem hasNoNumber_of_isLeaf {j : Json} (hleaf : j.isLeaf) (h : ¬ j.isNumber) :
    j.HasNoNumber := by
  intro k hk _
  rw [(holds_of_isLeaf hleaf).1 hk]
  exact h

theorem hasNoNumber_field {name : String} {j : Json} (h : j.HasNoNumber) :
    (field name j).HasNoNumber := by
  refine forall_leaf_object.2 fun entry hentry => ?_
  rw [List.mem_singleton.1 hentry]
  exact h

theorem hasNoNumber_wrapped (name : String) (text : List Char) :
    (wrapped name text).HasNoNumber :=
  hasNoNumber_field (hasNoNumber_of_isLeaf rfl Bool.false_ne_true)

end Json

/-! ## Rendered leaves -/

theorem Double.roundTrip_toJson (dialect : Dialect) (d : Double) :
    (d.toJson dialect).roundTrip = d.toJson dialect := by
  unfold Double.toJson
  split
  · next h => exact Json.roundTrip_real_eq_self_iff.2 h.2.2
  · exact Json.roundTrip_wrapped _ _

theorem Instant.roundTrip_toJson (dialect : Dialect) (t : Instant) :
    (t.toJson dialect).roundTrip = t.toJson dialect := by
  unfold Instant.toJson
  split
  · exact Json.roundTrip_wrapped _ _
  · rw [Json.roundTrip_field, Json.roundTrip_wrapped]

theorem Double.hasNoNumber_toJson (d : Double) : (d.toJson .canonical).HasNoNumber := by
  rw [Double.toJson_canonical]
  exact Json.hasNoNumber_wrapped _ _

theorem Instant.hasNoNumber_toJson (t : Instant) : (t.toJson .canonical).HasNoNumber := by
  rw [Instant.toJson_canonical]
  exact Json.hasNoNumber_field (Json.hasNoNumber_wrapped _ _)

namespace Value

/-! ## Rendered trees -/

/-- **A rendered tree comes back from lifting and relaxed rendering**, in whichever form it was
rendered. -/
theorem roundTrip_toJson (dialect : Dialect) (v : Value) :
    (v.toJson dialect).roundTrip = v.toJson dialect := by
  induction v using Value.induction with
  | leaf v hv =>
    cases v with
    | int n =>
      have hle : n.toInt ≤ 9223372036854775807 := by have := n.toInt_lt; omega
      cases dialect with
      | canonical => exact Json.roundTrip_wrapped _ _
      | relaxed => exact Json.roundTrip_whole_eq_self_iff.2 hle
    | long n =>
      have hle : n.toInt ≤ 9223372036854775807 := by have := n.toInt_lt; omega
      cases dialect with
      | canonical => exact Json.roundTrip_wrapped _ _
      | relaxed => exact Json.roundTrip_whole_eq_self_iff.2 hle
    | double d => exact d.roundTrip_toJson dialect
    | decimal d => exact Json.roundTrip_wrapped _ _
    | date t => exact t.roundTrip_toJson dialect
    | array items => exact nomatch hv
    | document fields => exact nomatch hv
    | _ => rfl
  | array items ih =>
    rw [toJson_array, Json.roundTrip_array, List.map_map]
    exact congrArg Json.array (List.map_congr_left ih)
  | document fields ih =>
    rw [toJson_document, Json.roundTrip_object, OrderedMap.mapValues_mapValues]
    exact congrArg Json.object (OrderedMap.mapValues_congr ih)

/-- **Canonical JSON has no numbers**, at no depth. -/
theorem hasNoNumber_toJson (v : Value) : (v.toJson .canonical).HasNoNumber := by
  induction v using Value.induction with
  | leaf v hv =>
    cases v with
    | int n => exact Json.hasNoNumber_wrapped _ _
    | long n => exact Json.hasNoNumber_wrapped _ _
    | double d => exact d.hasNoNumber_toJson
    | decimal d => exact Json.hasNoNumber_wrapped _ _
    | date t => exact t.hasNoNumber_toJson
    | array items => exact nomatch hv
    | document fields => exact nomatch hv
    | _ => exact Json.hasNoNumber_of_isLeaf rfl Bool.false_ne_true
  | array items ih =>
    rw [toJson_array]
    refine Json.forall_leaf_array.2 fun j hj => ?_
    obtain ⟨item, hitem, rfl⟩ := List.mem_map.1 hj
    exact ih item hitem
  | document fields ih =>
    rw [toJson_document]
    refine Json.forall_leaf_object.2 fun entry hentry => ?_
    rw [OrderedMap.toList_mapValues] at hentry
    obtain ⟨field, hfield, rfl⟩ := List.mem_map.1 hentry
    exact ih field hfield

/-! ## What comes back -/

/-- The value that comes back when a value is rendered in relaxed form and lifted. -/
def lifted (v : Value) : Value := ofJson (v.toJson .relaxed)

theorem lifted_array (items : List Value) : (array items).lifted = array (items.map lifted) := by
  rw [lifted, toJson_array, ofJson_array, List.map_map]
  rfl

theorem lifted_document (fields : Document) :
    (document fields).lifted = document (fields.mapValues lifted) := by
  rw [lifted, toJson_document, ofJson_object, OrderedMap.mapValues_mapValues]
  rfl

/-- A leaf for which plain JSON has a place. -/
def IsPlainLeaf : Value → Prop
  | .decimal _ => False
  | .date _ => False
  | .double d => d.IsFinite ∧ ¬ d.IsNegativeZero
  | .long n => n.toInt < -2147483648 ∨ 2147483648 ≤ n.toInt
  | _ => True

theorem lifted_int (n : Int32) : (int n).lifted = .int n := by
  have hge := n.le_toInt
  have hlt := n.toInt_lt
  show ofWhole (.ofInt32 n) = .int n
  rw [ofWhole, if_pos (by simp only [Json.Whole.ofInt32]; omega), int.injEq]
  exact Int32.ofInt_toInt n

theorem lifted_long_eq_self_iff {n : Int64} :
    (long n).lifted = .long n ↔ (long n).IsPlainLeaf := by
  have hlt := n.toInt_lt
  have hval : (Json.Whole.ofInt64 n).val = n.toInt := rfl
  show ofWhole (.ofInt64 n) = .long n ↔ n.toInt < -2147483648 ∨ 2147483648 ≤ n.toInt
  unfold ofWhole
  split
  · exact iff_of_false (fun h => nomatch h) (by omega)
  · rw [if_pos (by omega), hval, Int64.ofInt_toInt]
    exact iff_of_true rfl (by omega)

/-- A wrapper comes back as a document, not as the leaf that was in it. -/
theorem lifted_ne_of_field {v : Value} {name : String} {j : Json} (hv : v.isLeaf)
    (h : v.toJson .relaxed = .field name j) : v.lifted ≠ v := by
  rw [lifted, h, Json.field, ofJson_object]
  rintro rfl
  exact nomatch hv

theorem lifted_double_eq_self_iff {d : Double} :
    (double d).lifted = .double d ↔ (double d).IsPlainLeaf := by
  by_cases h : d.IsFinite ∧ ¬ d.IsNegativeZero
  · refine iff_of_true ?_ h
    show ofJson (d.toJson .relaxed) = .double d
    rw [Double.toJson_relaxed h, ofJson, ofNumber_real]
  · have hjson := (Double.toJson_relaxed_of_not h).trans (Double.toJson_canonical d)
    exact iff_of_false (lifted_ne_of_field rfl hjson) h

theorem lifted_date_ne (t : Instant) : (date t).lifted ≠ .date t := by
  by_cases h : t.IsModern
  · exact lifted_ne_of_field rfl (Instant.toJson_relaxed h)
  · exact lifted_ne_of_field rfl
      ((Instant.toJson_relaxed_of_not h).trans (Instant.toJson_canonical t))

theorem lifted_eq_self_iff_of_isLeaf {v : Value} (hv : v.isLeaf) :
    v.lifted = v ↔ v.IsPlainLeaf := by
  cases v with
  | int n => exact iff_of_true (lifted_int n) trivial
  | long n => exact lifted_long_eq_self_iff
  | double d => exact lifted_double_eq_self_iff
  | decimal d => exact iff_of_false (lifted_ne_of_field rfl rfl) id
  | date t => exact iff_of_false (lifted_date_ne t) id
  | array items => exact nomatch hv
  | document fields => exact nomatch hv
  | _ => exact iff_of_true rfl trivial

/-- **A value comes back just when all of its leaves are plain.** -/
theorem lifted_eq_self_iff (v : Value) :
    v.lifted = v ↔ ∀ w, v.Holds w → w.isLeaf → w.IsPlainLeaf := by
  induction v using Value.induction with
  | leaf v hv =>
    rw [lifted_eq_self_iff_of_isLeaf hv]
    constructor
    · intro h w hw _
      rwa [(holds_of_isLeaf hv).1 hw]
    · intro h
      exact h v (.self v) hv
  | array items ih =>
    rw [lifted_array, array.injEq, map_eq_self_iff, forall_leaf_array]
    exact forall₂_congr ih
  | document fields ih =>
    rw [lifted_document, document.injEq, OrderedMap.mapValues_eq_self_iff, forall_leaf_document]
    exact forall₂_congr ih

/-- All leaves of the value are plain: it holds no decimal, no date, no double that needs a wrapper
and no 64-bit integer that fits 32 bits. -/
theorem forall_isPlainLeaf_iff (v : Value) :
    (∀ w, v.Holds w → w.isLeaf → w.IsPlainLeaf) ↔
      (∀ d, ¬ v.Holds (.decimal d)) ∧ (∀ t, ¬ v.Holds (.date t)) ∧
        (∀ d, v.Holds (.double d) → ¬ d.IsNaN ∧ ¬ d.IsInfinite ∧ ¬ d.IsNegativeZero) ∧
        ∀ n, v.Holds (.long n) → ¬ (-2147483648 ≤ n.toInt ∧ n.toInt ≤ 2147483647) := by
  constructor
  · intro h
    refine ⟨fun d hd => h _ hd rfl, fun t ht => h _ ht rfl, fun d hd => ?_, fun n hn => ?_⟩
    · obtain ⟨hfinite, hzero⟩ := h _ hd rfl
      exact ⟨Nat.lt_asymm hfinite, Nat.ne_of_lt hfinite, hzero⟩
    · have hplain : n.toInt < -2147483648 ∨ 2147483648 ≤ n.toInt := h _ hn rfl
      omega
  · rintro ⟨hdecimal, hdate, hdouble, hlong⟩ w hw hleaf
    cases w with
    | decimal d => exact hdecimal d hw
    | date t => exact hdate t hw
    | double d =>
      obtain ⟨hnan, hinfinite, hzero⟩ := hdouble d hw
      exact ⟨Nat.lt_of_le_of_ne (Nat.le_of_not_lt hnan) hinfinite, hzero⟩
    | long n =>
      show n.toInt < -2147483648 ∨ 2147483648 ≤ n.toInt
      have := hlong n hw
      omega
    | array items => exact nomatch hleaf
    | document fields => exact nomatch hleaf
    | _ => trivial

/-- **Rendering and lifting normalize a value.** It comes back from relaxed JSON if and only if it
holds, at no depth, a decimal, a date, a double that is infinite, not a number or the negative zero,
nor a 64-bit integer that fits 32 bits. What is lifted from either form renders as that same JSON
in relaxed form, and canonical JSON has no numbers. -/
theorem ofJson_toJson_normal (v : Value) :
    (beq (ofJson (v.toJson .relaxed)) v ↔
        (∀ d, ¬ v.Holds (.decimal d)) ∧ (∀ t, ¬ v.Holds (.date t)) ∧
          (∀ d, v.Holds (.double d) → ¬ d.IsNaN ∧ ¬ d.IsInfinite ∧ ¬ d.IsNegativeZero) ∧
          ∀ n, v.Holds (.long n) → ¬ (-2147483648 ≤ n.toInt ∧ n.toInt ≤ 2147483647)) ∧
      (∀ dialect, (ofJson (v.toJson dialect)).toJson .relaxed = v.toJson dialect) ∧
      (∀ n, ¬ (v.toJson .canonical).Holds (.whole n)) ∧
      ∀ d, ¬ (v.toJson .canonical).Holds (.real d) := by
  refine ⟨?_, fun dialect => roundTrip_toJson dialect v, fun n hn => ?_, fun d hd => ?_⟩
  · rw [beq_iff_eq, ← forall_isPlainLeaf_iff]
    exact lifted_eq_self_iff v
  · exact hasNoNumber_toJson v _ hn rfl rfl
  · exact hasNoNumber_toJson v _ hd rfl rfl

end Value

end DocumentQuery
