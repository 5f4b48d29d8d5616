import DocumentQuery.Proofs.ErrorOrigin
import DocumentQuery.Proofs.Truncation

/-!
# Literals agree with direct conversion

A host scalar becomes a value in two ways: by direct conversion, or as a literal that is evaluated.
Both give the same value, also where the scalar is an element of an array.

**Arrays.** An array of literals is evaluated item by item, under any registry and without errors
(`evaluate_ofScalars`). Its elements may be turned into scalars or into literals before, or be given
as options, and the array is the same.

**Kinds.** The two conversions are given type by type. `LiteralsAgree` says of one type of host
scalars what both of them give, and it follows for all arrays from what it says of a single scalar
(`literalsAgree_of_conversions`).

**Missing elements.** Only an array of options can be refused, and it is if and only if an element
is missing.

Main results: `evaluate_ofScalars`, `literalsAgree_of_conversions` and
`literals_agree_with_conversion`.
-/

namespace DocumentQuery

namespace Expression

variable {H : HostTypes} {α : Type} [ToScalar α]

/-! ## Arrays of literals -/

/-- Scalars are lifted to literals as they are. -/
theorem ofScalars_map_toScalar (as : List α) :
    (ofScalars (as.map toScalar) : Expression H) = ofScalars as := by
  rw [ofScalars, ofScalars, List.map_map]
  rfl

theorem evaluate_of (R : Registry H) (a : α) :
    (of a : Expression H).evaluate R = .ok (toScalar a).toValue := by
  rw [of, evaluate]

/-- **An array of literals evaluates to the values of its scalars**, in order. -/
theorem evaluate_ofScalars (R : Registry H) (as : List α) :
    (ofScalars as : Expression H).evaluate R =
      .ok (.array (as.map fun a => (toScalar a).toValue)) := by
  refine evaluate_array_eq_ok_iff.2 ⟨_, ?_, rfl⟩
  rw [List.forall₂_map_left_iff, List.forall₂_map_right_iff, List.forall₂_same]
  intro a _
  exact evaluate_of R a

/-! ## Agreement with direct conversion -/

/-- The value of a host scalar `a` is `value a`, by direct conversion, as a literal, and in arrays of
literals in whatever way they are built. -/
structure LiteralsAgree (R : Registry H) (α : Type) [ToScalar α] [ToValue α] (value : α → Value) :
    Prop where
  direct : ∀ a : α, toValue a = value a
  literal : ∀ a : α, (of a : Expression H).evaluate R = .ok (value a)
  /-- The array that is built from the list. -/
  typed : ∀ as : List α, (ofScalars as : Expression H).evaluate R = .ok (.array (as.map value))
  /-- The array of scalars, into which the list is turned first. -/
  mixed : ∀ as : List α,
    (ofScalars (as.map toScalar) : Expression H).evaluate R = .ok (.array (as.map value))
  /-- The array of expressions, which are the literals. -/
  items : ∀ as : List α,
    (array (as.map of) : Expression H).evaluate R = .ok (.array (as.map value))
  /-- The array of options, none of which is missing. -/
  options : ∀ as : List α, ∃ e : Expression H,
    ofOptions (as.map some) = .ok e ∧ e.evaluate R = .ok (.array (as.map value))

/-- **Literals agree when the two conversions of a single scalar do.** -/
theorem literalsAgree_of_conversions [ToValue α] (R : Registry H) {value : α → Value}
    (hdirect : ∀ a : α, toValue a = value a) (hscalar : ∀ a : α, (toScalar a).toValue = value a) :
    LiteralsAgree R α value := by
  have harray : ∀ as : List α,
      (ofScalars as : Expression H).evaluate R = .ok (.array (as.map value)) := by
    intro as
    rw [evaluate_ofScalars, List.map_congr_left fun a _ => hscalar a]
  exact {
    direct := hdirect
    literal := fun a => by rw [evaluate_of, hscalar]
    typed := harray
    mixed := fun as => by rw [ofScalars_map_toScalar, harray]
    items := harray
    options := fun as => ⟨_, ofOptions_map_some as, harray as⟩ }

/-- **Literals agree with direct conversion.** Under every registry, a host scalar of any kind is
kept with its kind and its contents, and a timestamp is cut to the millisecond. The array built from
a list, the array of the literals of its elements, and the array of the elements as options have one
value, which is the array of the converted elements in order. An array of options is refused if and
only if an element is missing, at whatever place, and then an argument is invalid. -/
theorem literals_agree_with_conversion :
    (∀ (H : HostTypes) (R : Registry H),
      LiteralsAgree R Bool .bool ∧
      LiteralsAgree R Int32 .int ∧
      LiteralsAgree R Int64 .long ∧
      LiteralsAgree R Double .double ∧
      LiteralsAgree R Decimal .decimal ∧
      LiteralsAgree R Instant .date ∧
      LiteralsAgree R Timestamp (fun t => .date t.toInstant) ∧
      LiteralsAgree R String .string ∧
      LiteralsAgree R Scalar Scalar.toValue) ∧
    (∀ t : Timestamp, t.toInstant.toInt = t.seconds * 1000 + (t.nanos / 1000000 : Nat)) ∧
    (∀ (H : HostTypes) (α : Type) [ToScalar α] (as : List (Option α)) (err : ExpressionError),
      (ofOptions as : Except _ (Expression H)) = .error err ↔
        none ∈ as ∧ err = .missingElement) ∧
    (QueryError.expression .missingElement).isInvalidArgument = true := by
  refine ⟨fun H R => ?_, Timestamp.toInt_toInstant, fun H α _ as err => ofOptions_eq_error_iff, rfl⟩
  refine ⟨?_, ?_, ?_, ?_, ?_, ?_, ?_, ?_, ?_⟩ <;>
    exact literalsAgree_of_conversions R (fun _ => rfl) fun _ => rfl

end Expression

end DocumentQuery
