import DocumentQuery.Proofs.ExpressionTree
import DocumentQuery.Proofs.ValueTree
import DocumentQuery.Sample.Types
import DocumentQuery.Value.Equality

/-!
# Values in literal form

An expression without host documents and the value it evaluates to determine each other.

**The surface.** A value surfaces in another when it is reached through the items of arrays alone.
This is where an operator would be recognized. In a value in literal form, every document on the
surface has the one name `$literal` with a document under it; what is inside that document is free,
and may look like an operator or like a literal itself.

**Reading back.** `ofValue?` takes a value in literal form to the plain expression that it is the
value of. It takes exactly one `$literal` off a document, the one that evaluation put there.

Main results: `isLiteralForm_of_evaluate`, `ofValue?_eq_some_iff` and `plain_correspondence`.
-/

namespace DocumentQuery

variable {H : HostTypes}

/-! ## The surface of a value -/

namespace Value

/-- `v.Surfaces w`: from `v`, the value `w` is reached through the items of arrays alone. -/
inductive Surfaces : Value → Value → Prop
  | self (v : Value) : Surfaces v v
  | item {items : List Value} {v w : Value} (hv : v ∈ items) (h : Surfaces v w) :
    Surfaces (.array items) w

/-- Every document on the surface has the name `$literal` alone, with a document under it. -/
def IsLiteralForm (v : Value) : Prop :=
  ∀ d : Document, v.Surfaces (.document d) →
    ∃ inner : Document, d = .singleton Expression.literalName (.document inner)

theorem isLiteralForm_of_isLeaf {v : Value} (hv : v.isLeaf) : v.IsLiteralForm := by
  intro d h
  cases h with
  | self => exact nomatch hv
  | item => exact nomatch hv

theorem isLiteralForm_array {items : List Value} :
    (array items).IsLiteralForm ↔ ∀ item ∈ items, item.IsLiteralForm := by
  constructor
  · intro h item hitem d hd
    exact h d (.item hitem hd)
  · intro h d hd
    cases hd with
    | item hv hd => exact h _ hv d hd

theorem isLiteralForm_document {d : Document} :
    (document d).IsLiteralForm ↔
      ∃ inner : Document, d = .singleton Expression.literalName (.document inner) := by
  constructor
  · intro h
    exact h d (.self _)
  · intro h d' hd'
    cases hd' with
    | self => exact h

end Value

theorem Scalar.isLeaf_toValue (s : Scalar) : s.toValue.isLeaf := by cases s <;> rfl

namespace Expression

/-- **Every value of an expression is in literal form**, whatever the encoders of its host objects
return. -/
theorem isLiteralForm_of_evaluate {R : Registry H} {e : Expression H} {v : Value}
    (h : e.evaluate R = .ok v) : v.IsLiteralForm := by
  induction e using Expression.induction generalizing v with
  | literal s =>
    cases h
    exact Value.isLiteralForm_of_isLeaf s.isLeaf_toValue
  | array items ih =>
    obtain ⟨vs, hvs, rfl⟩ := evaluate_array_eq_ok_iff.1 h
    rw [Value.isLiteralForm_array]
    intro v hv
    obtain ⟨item, hitem, hvalue⟩ := exists_of_forall₂_right hvs hv
    exact ih item hitem hvalue
  | document source =>
    obtain ⟨d, -, rfl⟩ := evaluate_document_eq_ok_iff.1 h
    rw [Value.isLiteralForm_document]
    exact ⟨d, rfl⟩
  | null =>
    cases h
    exact Value.isLiteralForm_of_isLeaf rfl

/-! ## Plain expressions -/

mutual

/-- The documents in the expression are plain ones. -/
def isPlain : Expression H → Bool
  | .literal _ => true
  | .array items => isPlainItems items
  | .document (.plain _) => true
  | .document (.host _) => false
  | .null => true

def isPlainItems : List (Expression H) → Bool
  | [] => true
  | item :: rest => isPlain item && isPlainItems rest

end

theorem isPlain_array {items : List (Expression H)} :
    (array items).isPlain ↔ ∀ item ∈ items, item.isPlain := by
  rw [isPlain]
  induction items with
  | nil => simp [isPlainItems]
  | cons item rest ih => simp [isPlainItems, ih]

/-! ## Reading a value back -/

mutual

/-- The plain expression of a value in literal form. -/
def ofValue? : Value → Option (Expression H)
  | .bool b => some (.literal (.bool b))
  | .int n => some (.literal (.int n))
  | .long n => some (.literal (.long n))
  | .double d => some (.literal (.double d))
  | .decimal d => some (.literal (.decimal d))
  | .date t => some (.literal (.date t))
  | .string s => some (.literal (.string s))
  | .array items => (ofValues? items).map .array
  | .document fields =>
    match fields.single? with
    | some (name, .document d) => if name = literalName then some (ofDocument d) else none
    | _ => none
  | .null => some .null

def ofValues? : List Value → Option (List (Expression H))
  | [] => some []
  | v :: vs => do
    let item ← ofValue? v
    let rest ← ofValues? vs
    return item :: rest

end

theorem ofValues?_eq_some_iff {vs : List Value} {items : List (Expression H)} :
    ofValues? vs = some items ↔
      List.Forall₂ (fun item v => ofValue? v = some item) items vs := by
  induction vs generalizing items with
  | nil => simp [ofValues?, eq_comm]
  | cons v vs ih =>
    rw [List.forall₂_cons_right_iff]
    simp [ofValues?, Option.bind_eq_some_iff, ih, @eq_comm _ items]

theorem ofValue?_array_eq_some_iff {vs : List Value} {e : Expression H} :
    ofValue? (.array vs) = some e ↔
      ∃ items, List.Forall₂ (fun item v => ofValue? v = some item) items vs ∧ e = .array items := by
  simp only [ofValue?, Option.map_eq_some_iff, ofValues?_eq_some_iff, @eq_comm _ e]

theorem ofValue?_document_eq_some_iff {fields : Document} {e : Expression H} :
    ofValue? (.document fields) = some e ↔
      ∃ d : Document, fields = .singleton literalName (.document d) ∧ e = ofDocument d := by
  constructor
  · intro h
    rw [ofValue?] at h
    split at h
    · rename_i name d hsingle
      split at h
      · rename_i hname
        refine ⟨d, ?_, (Option.some.inj h).symm⟩
        rw [← hname]
        exact OrderedMap.single?_eq_some_iff.1 hsingle
      · exact nomatch h
    · exact nomatch h
  · rintro ⟨d, rfl, rfl⟩
    rfl

theorem ofValue?_toValue (s : Scalar) : (ofValue? s.toValue : Option (Expression H)) =
    some (.literal s) := by
  cases s <;> rfl

/-- **A plain expression has a value**, the same under every registry, and is read back from it. -/
theorem exists_evaluate_of_isPlain {e : Expression H} (he : e.isPlain) :
    ∃ v, (∀ R : Registry H, e.evaluate R = .ok v) ∧ ofValue? v = some e := by
  induction e using Expression.induction with
  | literal s => exact ⟨s.toValue, fun R => rfl, ofValue?_toValue s⟩
  | array items ih =>
    rw [isPlain_array] at he
    obtain ⟨vs, hvs⟩ := exists_forall₂ fun item hitem => ih item hitem (he item hitem)
    refine ⟨.array vs, ?_, ?_⟩
    · intro R
      rw [evaluate_array_eq_ok_iff]
      exact ⟨vs, hvs.imp fun item v h => h.1 R, rfl⟩
    · rw [ofValue?_array_eq_some_iff]
      exact ⟨items, hvs.imp fun item v h => h.2, rfl⟩
  | document source =>
    cases source with
    | plain d => exact ⟨_, fun R => rfl, rfl⟩
    | host d => exact nomatch he
  | null => exact ⟨.null, fun R => rfl, rfl⟩

theorem evaluate_of_ofValue? {v : Value} {e : Expression H} (h : ofValue? v = some e) :
    e.isPlain ∧ ∀ R : Registry H, e.evaluate R = .ok v := by
  induction v using Value.induction generalizing e with
  | leaf v hv =>
    cases v with
    | array items => exact nomatch hv
    | document fields => exact nomatch hv
    | _ =>
      cases h
      exact ⟨rfl, fun R => rfl⟩
  | array vs ih =>
    obtain ⟨items, hitems, rfl⟩ := ofValue?_array_eq_some_iff.1 h
    have hread : List.Forall₂
        (fun v item => item.isPlain ∧ ∀ R : Registry H, item.evaluate R = .ok v) vs items :=
      forall₂_imp_of_mem (fun v hv item h => ih v hv h) hitems.flip
    constructor
    · rw [isPlain_array]
      intro item hitem
      obtain ⟨v, -, hplain, -⟩ := exists_of_forall₂_right hread hitem
      exact hplain
    · intro R
      rw [evaluate_array_eq_ok_iff]
      exact ⟨vs, (hread.imp fun v item h => h.2 R).flip, rfl⟩
  | document fields ih =>
    obtain ⟨d, rfl, rfl⟩ := ofValue?_document_eq_some_iff.1 h
    exact ⟨rfl, fun R => rfl⟩

/-- **Reading back is the inverse of evaluation** on plain expressions, under any registry. -/
theorem ofValue?_eq_some_iff (R : Registry H) {v : Value} {e : Expression H} :
    ofValue? v = some e ↔ e.isPlain ∧ e.evaluate R = .ok v := by
  constructor
  · intro h
    obtain ⟨hplain, hvalue⟩ := evaluate_of_ofValue? h
    exact ⟨hplain, hvalue R⟩
  · rintro ⟨hplain, hvalue⟩
    obtain ⟨w, hw, hback⟩ := exists_evaluate_of_isPlain hplain
    rw [hw R, Except.ok.injEq] at hvalue
    rw [← hvalue, hback]

theorem exists_ofValue?_of_isLiteralForm {v : Value} (hv : v.IsLiteralForm) :
    ∃ e : Expression H, ofValue? v = some e := by
  induction v using Value.induction with
  | leaf v hleaf =>
    cases v with
    | array items => exact nomatch hleaf
    | document fields => exact nomatch hleaf
    | _ => exact ⟨_, rfl⟩
  | array vs ih =>
    rw [Value.isLiteralForm_array] at hv
    obtain ⟨items, hitems⟩ := exists_forall₂ fun v h => ih v h (hv v h)
    exact ⟨.array items, ofValue?_array_eq_some_iff.2 ⟨items, hitems.flip, rfl⟩⟩
  | document fields ih =>
    obtain ⟨d, rfl⟩ := Value.isLiteralForm_document.1 hv
    exact ⟨ofDocument d, rfl⟩

/-! ## The correspondence -/

/-- **Plain expressions correspond to the values in literal form.** Each has a value, under any
registry; two have equal values only if they are the same tree; and the values in literal form are
just the ones that occur. -/
theorem plain_correspondence :
    (∀ (R₁ R₂ : Registry H) (e₁ e₂ : Expression H), e₁.isPlain → e₂.isPlain →
      ∃ v₁ v₂, e₁.evaluate R₁ = .ok v₁ ∧ e₂.evaluate R₂ = .ok v₂ ∧ (Value.beq v₁ v₂ ↔ e₁ = e₂)) ∧
    ∀ (R : Registry H) (v : Value),
      (∃ e : Expression H, e.isPlain ∧ e.evaluate R = .ok v) ↔ v.IsLiteralForm := by
  constructor
  · intro R₁ R₂ e₁ e₂ h₁ h₂
    obtain ⟨v₁, hv₁, hback₁⟩ := exists_evaluate_of_isPlain h₁
    obtain ⟨v₂, hv₂, hback₂⟩ := exists_evaluate_of_isPlain h₂
    refine ⟨v₁, v₂, hv₁ R₁, hv₂ R₂, ?_⟩
    rw [Value.beq_iff_eq]
    constructor
    · intro h
      rw [h, hback₂, Option.some.injEq] at hback₁
      exact hback₁.symm
    · intro h
      have hvalues := hv₁ R₁
      rw [h, hv₂ R₁, Except.ok.injEq] at hvalues
      exact hvalues.symm
  · intro R v
    constructor
    · rintro ⟨e, -, h⟩
      exact isLiteralForm_of_evaluate h
    · intro h
      obtain ⟨e, he⟩ := exists_ofValue?_of_isLiteralForm (H := H) h
      exact ⟨e, (ofValue?_eq_some_iff R).1 he⟩

/-- A registry out of order, under which no host object has an encoding. -/
def outOfOrder : Registry (Sample.hostTypes fun _ => "text") := .failing "shop" "out of order"

/-- A document that looks like the value of the empty one is kept apart from it. -/
theorem evaluate_lookalike :
    ∃ v₁ v₂, (ofDocument (.singleton "$literal" (.document ∅))).evaluate outOfOrder = .ok v₁ ∧
      (ofDocument ∅).evaluate outOfOrder = .ok v₂ ∧ ¬ Value.beq v₁ v₂ := by
  obtain ⟨v₁, v₂, hv₁, hv₂, hiff⟩ := plain_correspondence.1 outOfOrder outOfOrder
    (ofDocument (.singleton "$literal" (.document ∅))) (ofDocument ∅) rfl rfl
  refine ⟨v₁, v₂, hv₁, hv₂, ?_⟩
  intro hequal
  have hdocuments := DocumentSource.plain.inj (Expression.document.inj (hiff.1 hequal))
  exact absurd (congrArg OrderedMap.keys hdocuments) (by decide)

end Expression

end DocumentQuery
