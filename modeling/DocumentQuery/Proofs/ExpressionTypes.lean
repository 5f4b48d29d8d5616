import DocumentQuery.Proofs.LiteralForm
import DocumentQuery.Proofs.Substitution

/-!
# Types of expressions

The value of an expression is of the type that the expression has before any evaluation.

**Kinds.** A type stands for one or two kinds of values (`ExpressionType.kinds`): integers have two
widths, numbers are doubles or decimals, and what belongs to every type is null.

**Soundness.** `e.Sound v` says that the value is of such a kind, and that the items of an array are
sound one by one for the expressions in it. Nothing is asked of what stands inside a document, since
this is where the encodings of host objects go.

**Data.** Encoders are free in what they return, also texts and documents that look like operators.
None of it comes to the surface of the value, where every document is a literal.

Main results: `sound_of_evaluate` and `evaluate_typed`.
-/

namespace DocumentQuery

variable {H : HostTypes}

/-- The kinds of the values of a type. -/
def ExpressionType.kinds : ExpressionType → List ElementType
  | .boolean => [.bool]
  | .integer => [.int, .long]
  | .number => [.double, .decimal]
  | .date => [.date]
  | .string => [.string]
  | .array => [.array]
  | .document => [.document]
  | .any => [.null]

theorem Scalar.elementType_mem_kinds (s : Scalar) :
    s.toValue.elementType ∈ s.expressionType.kinds := by
  cases s <;> simp [toValue, Value.elementType, expressionType, ExpressionType.kinds]

theorem Scalar.expressionType_ne_array (s : Scalar) : s.expressionType ≠ .array := by
  cases s <;> simp [expressionType]

namespace Expression

/-- The value is of a kind that the type of the expression stands for, and an array has as many
items as the expression, each of them sound for the one in its place. -/
inductive Sound : Expression H → Value → Prop
  | single {e : Expression H} {v : Value} (he : e.expressionType ≠ .array)
    (kind : v.elementType ∈ e.expressionType.kinds) : Sound e v
  | array {items : List (Expression H)} {vs : List Value} (length : vs.length = items.length)
    (item : ∀ i (hi : i < items.length) (hi' : i < vs.length), Sound items[i] vs[i]) :
    Sound (.array items) (.array vs)

theorem Sound.kind {e : Expression H} {v : Value} (h : e.Sound v) :
    v.elementType ∈ e.expressionType.kinds := by
  cases h with
  | single _ kind => exact kind
  | array => exact List.mem_singleton_self _

theorem sound_array_of_forall₂ {items : List (Expression H)} {vs : List Value}
    (h : List.Forall₂ Sound items vs) : (array items).Sound (.array vs) :=
  .array h.length_eq.symm fun _ hi hi' => h.get hi hi'

variable {R : Registry H}

/-- **Evaluation is sound for the types of expressions.** -/
theorem sound_of_evaluate {e : Expression H} {v : Value} (h : e.evaluate R = .ok v) :
    e.Sound v := by
  induction e using Expression.induction generalizing v with
  | literal s =>
    cases h
    exact .single s.expressionType_ne_array s.elementType_mem_kinds
  | array items ih =>
    obtain ⟨vs, hvs, rfl⟩ := evaluate_array_eq_ok_iff.1 h
    exact sound_array_of_forall₂ (forall₂_imp_of_mem (fun item hitem v hv => ih item hitem hv) hvs)
  | document source =>
    obtain ⟨d, -, rfl⟩ := evaluate_document_eq_ok_iff.1 h
    exact .single (by simp [expressionType]) (List.mem_singleton_self _)
  | null =>
    cases h
    exact .single (by simp [expressionType]) (List.mem_singleton_self _)

/-- **A value is of the type of its expression, and no data in it is ever an operator.** Whatever
the encoders of the host objects return, its kind is one that the type stands for, the items of an
array are sound one by one, and every document on its surface is the literal of a document. -/
theorem evaluate_typed {e : Expression H} {v : Value} (h : e.evaluate R = .ok v) :
    v.elementType ∈ e.expressionType.kinds ∧ e.Sound v ∧ v.IsLiteralForm :=
  ⟨(sound_of_evaluate h).kind, sound_of_evaluate h, isLiteralForm_of_evaluate h⟩

/-- What looks like an operator. -/
def addition : Value := .document (.singleton "$add" (.array [.int 1, .int 2]))

/-- A registry under which every host object becomes what looks like an operator. -/
def operators : Registry (Sample.hostTypes fun _ => "u8") := .ofOutcomes fun _ => .ok addition

/-- A document with a byte. -/
def byteFields : HostDocument (Sample.hostTypes fun _ => "u8") :=
  [("n", .object (Sample.byteObject 7))]

/-- A number, an array and a document with a byte. -/
def mixed : Expression (Sample.hostTypes fun _ => "u8") :=
  .array [.literal (.long 5), .array [.null], ofHostDocument byteFields]

/-- Their value, in which the document stays under `$literal` with the operator inside. -/
def mixedValue : Value :=
  .array [.long 5, .array [.null],
    .document (.singleton literalName (.document (.singleton "n" addition)))]

theorem encode_byteFields : byteFields.encode operators = .ok (.singleton "n" addition) := by
  have hbyte : operators.encode (Sample.byteObject 7) = .ok addition :=
    Registry.encode_ofOutcomes _ _
  rw [byteFields, HostDocument.encode, HostValue.encodeEntries, HostValue.encode, hbyte]
  rfl

theorem evaluate_mixed : mixed.evaluate operators = .ok mixedValue := by
  simp only [mixed, ofHostDocument, evaluate, evaluateItems, DocumentSource.encode,
    encode_byteFields]
  rfl

/-- The array has its type, and the operator does not come to the surface. -/
theorem evaluate_operators :
    mixed.evaluate operators = .ok mixedValue ∧
      mixedValue.elementType ∈ mixed.expressionType.kinds ∧ mixed.Sound mixedValue ∧
      mixedValue.IsLiteralForm :=
  ⟨evaluate_mixed, evaluate_typed evaluate_mixed⟩

end Expression

end DocumentQuery
