import DocumentQuery.Proofs.ExpressionTree
import DocumentQuery.Proofs.ValueTree
import DocumentQuery.SearchPath.Compact
import DocumentQuery.Value.Equality

/-!
# Equal values are the same tree

The comparison of values goes through two trees side by side, and it succeeds just when they have
the same shape and the same contents everywhere.

**The same tree.** `SameTree` says so kind by kind and mentions no comparison: doubles have the same
word, so that a NaN is the same as itself and the two zeros differ; decimals have the same sign,
digits and scale; arrays go item by item, and documents entry by entry, in order.

**Consequences.** What is the same tree is the same value, so the comparison is an equivalence, the
order of the fields counts, and nothing that is computed from equal values tells them apart.

Main results: `sameTree_iff_eq` and `beq_is_identity`.
-/

namespace DocumentQuery

namespace Value

mutual

/-- The values have the same kind and the same contents, at every depth. -/
inductive SameTree : Value → Value → Prop
  | null : SameTree .null .null
  | bool (b : Bool) : SameTree (.bool b) (.bool b)
  | int (n : Int32) : SameTree (.int n) (.int n)
  | long (n : Int64) : SameTree (.long n) (.long n)
  | double {a b : Double} (h : a.bits = b.bits) : SameTree (.double a) (.double b)
  | decimal {a b : Decimal} (hsign : a.mantissa.sign = b.mantissa.sign)
    (hdigits : a.mantissa.natAbs = b.mantissa.natAbs) (hscale : a.scale = b.scale) :
    SameTree (.decimal a) (.decimal b)
  | date {t u : Instant} (h : t.millis = u.millis) : SameTree (.date t) (.date u)
  | string (s : String) : SameTree (.string s) (.string s)
  | array {vs ws : List Value} (h : List.Forall₂ SameTree vs ws) : SameTree (.array vs) (.array ws)
  | document {d e : Document} (h : List.Forall₂ SameEntry d.toList e.toList) :
    SameTree (.document d) (.document e)

/-- The entries have the same name, and the same tree under it. -/
inductive SameEntry : String × Value → String × Value → Prop
  | entry {name : String} {v w : Value} (h : SameTree v w) : SameEntry (name, v) (name, w)

end

/-! ## The same tree is the same value -/

theorem sameTree_refl (v : Value) : SameTree v v := by
  induction v using Value.induction with
  | leaf v hv =>
    cases v with
    | null => exact .null
    | bool b => exact .bool b
    | int n => exact .int n
    | long n => exact .long n
    | double d => exact .double rfl
    | decimal d => exact .decimal rfl rfl rfl
    | date t => exact .date rfl
    | string s => exact .string s
    | array items => exact nomatch hv
    | document fields => exact nomatch hv
  | array items ih => exact .array (List.forall₂_same.2 ih)
  | document fields ih =>
    exact .document (List.forall₂_same.2 fun entry hentry => .entry (ih entry hentry))

/-- Decimals with the same sign and the same digits on the same scale are the same. -/
theorem decimal_eq_of_sign {a b : Decimal} (hsign : a.mantissa.sign = b.mantissa.sign)
    (hdigits : a.mantissa.natAbs = b.mantissa.natAbs) (hscale : a.scale = b.scale) : a = b := by
  refine decimal_ext_iff.2 ⟨?_, hscale⟩
  rw [← Int.sign_mul_natAbs a.mantissa, hsign, hdigits, Int.sign_mul_natAbs]

theorem SameTree.eq {v w : Value} (h : SameTree v w) : v = w := by
  induction v using Value.induction generalizing w with
  | leaf v hv =>
    cases h with
    | double h => rw [double_ext_iff.2 h]
    | decimal hsign hdigits hscale => rw [decimal_eq_of_sign hsign hdigits hscale]
    | date h => rw [instant_ext_iff.2 h]
    | array h => exact nomatch hv
    | document h => exact nomatch hv
    | _ => rfl
  | array items ih =>
    cases h with
    | array h =>
      have hitems := forall₂_imp_of_mem (fun v hv w hvw => ih v hv hvw) h
      rw [List.forall₂_eq_eq_eq] at hitems
      rw [hitems]
  | document fields ih =>
    cases h with
    | document h =>
      have hentries := forall₂_imp_of_mem (S := Eq) (fun entry hentry other hsame => by
        cases hsame with
        | entry hv => exact Prod.ext rfl (ih _ hentry hv)) h
      rw [List.forall₂_eq_eq_eq] at hentries
      rw [OrderedMap.ext_toList hentries]

theorem sameTree_iff_eq {v w : Value} : SameTree v w ↔ v = w := by
  constructor
  · exact SameTree.eq
  · rintro rfl
    exact sameTree_refl v

theorem beq_iff_sameTree {v w : Value} : v.beq w = true ↔ SameTree v w :=
  (beq_iff_eq v w).trans sameTree_iff_eq.symm

theorem beq_comm (v w : Value) : v.beq w = w.beq v := by
  rw [Bool.eq_iff_iff, beq_iff_eq, beq_iff_eq]
  exact eq_comm

/-- The order of the fields counts. -/
theorem beq_document_eq_false {d e : Document} (h : d.toList ≠ e.toList) :
    (document d).beq (document e) = false := by
  rw [Bool.eq_false_iff, ne_eq, beq_iff_eq, Value.document.injEq]
  rintro rfl
  exact h rfl

/-- **Values are equal when they are the same tree.** So the comparison is reflexive, symmetric and
transitive, documents with the same entries in another order are not equal, and equal values have
the same kind and the same extended JSON in both dialects, equal documents the same values under
all names and the same compact form. -/
theorem beq_is_identity :
    (∀ v w : Value, v.beq w = true ↔ SameTree v w) ∧
    (∀ v : Value, v.beq v = true) ∧
    (∀ v w : Value, v.beq w = w.beq v) ∧
    (∀ u v w : Value, u.beq v = true → v.beq w = true → u.beq w = true) ∧
    (∀ d e : Document, d.toList.Perm e.toList → d.toList ≠ e.toList →
      (document d).beq (document e) = false) ∧
    (∀ v w : Value, v.beq w = true → v.elementType = w.elementType ∧
      ∀ dialect, v.toJson dialect = w.toJson dialect ∧ v.text dialect = w.text dialect) ∧
    ∀ d e : Document, (document d).beq (document e) = true →
      (∀ name, d.get? name = e.get? name) ∧ d.compact = e.compact := by
  refine ⟨fun v w => beq_iff_sameTree, fun v => (beq_iff_eq v v).2 rfl, beq_comm, ?_,
    fun d e _ hne => beq_document_eq_false hne, ?_, ?_⟩
  · intro u v w huv hvw
    rw [beq_iff_eq] at huv hvw ⊢
    exact huv.trans hvw
  · intro v w h
    rw [beq_iff_eq] at h
    subst h
    exact ⟨rfl, fun _ => ⟨rfl, rfl⟩⟩
  · intro d e h
    rw [beq_iff_eq, Value.document.injEq] at h
    subst h
    exact ⟨fun _ => rfl, rfl⟩

/-- What is not a number. -/
def nan : Value := .double ⟨0x7ff8000000000000⟩

/-- One and a half, with two decimal places. -/
def oneAndAHalf : Value := .decimal ⟨150, 2, by decide, by decide⟩

/-- Two fields. -/
def nanFirst : Document := OrderedMap.ofList [("a", nan), ("b", oneAndAHalf)]

/-- The same fields, the first of which had another value before. -/
def nanReplaced : Document := OrderedMap.ofList [("a", .null), ("b", oneAndAHalf), ("a", nan)]

/-- The same fields in another order. -/
def nanLast : Document := OrderedMap.ofList [("b", oneAndAHalf), ("a", nan)]

/-- How a document came about does not show, the order of its fields does. -/
theorem beq_is_identity_nan :
    (document nanFirst).beq (document nanReplaced) = true ∧
      (document nanReplaced).beq (document nanFirst) = true ∧
      (document nanFirst).beq (document nanFirst) = true ∧
      (document nanFirst).text .canonical = (document nanReplaced).text .canonical ∧
      nanFirst.get? "a" = nanReplaced.get? "a" ∧
      nanFirst.toList.Perm nanLast.toList ∧
      (document nanFirst).beq (document nanLast) = false := by
  obtain ⟨-, -, hcomm, htrans, horder, htext, hfields⟩ := beq_is_identity
  have hsame : (document nanFirst).beq (document nanReplaced) = true := by decide +kernel
  have hback : (document nanReplaced).beq (document nanFirst) = true := by rwa [hcomm]
  have hperm : nanFirst.toList.Perm nanLast.toList := .swap ("b", oneAndAHalf) ("a", nan) []
  exact ⟨hsame, hback, htrans _ _ _ hsame hback, ((htext _ _ hsame).2 _).2,
    (hfields _ _ hsame).1 _, hperm, horder _ _ hperm (by decide +kernel)⟩

end Value

end DocumentQuery
