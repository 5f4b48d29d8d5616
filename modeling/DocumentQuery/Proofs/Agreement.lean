import DocumentQuery.Expression.Evaluation

/-!
# What encoding depends on

A registry takes part in encoding only through its answers, and in the evaluation of an expression
only through the encodings of the objects that the expression holds.

**Look-ups decide encodings.** Two registries that give the same answer for every type encode every
object alike, including the parts that its encoder asks for: the parts go back to the same registry,
and they are smaller.

**Encodings decide values.** A host value, a host document and an expression have the same outcome
under two registries that encode their objects alike.

**Every outcome is possible.** Any function from objects to outcomes is the encoding of some
registry, so a statement about all registries is one about all such functions.

Main results: `Registry.encode_congr`, `HostDocument.encode_congr` and `Expression.evaluate_congr`.
-/

namespace DocumentQuery

variable {H : HostTypes}

/-! ## Objects -/

theorem Recipe.run_congr {bound : Nat}
    {f g : (part : HostObject H) → part.size < bound → Except EncodingError Value}
    (h : ∀ part smaller, f part smaller = g part smaller) (r : Recipe H bound) :
    r.run f = r.run g := by
  have hfg : f = g := by
    funext part smaller
    exact h part smaller
  rw [hfg]

namespace Registry

/-- **Registries with the same answers encode every object alike.** -/
theorem encode_congr {R S : Registry H} (h : ∀ c, R.lookup c = S.lookup c) (o : HostObject H) :
    R.encode o = S.encode o := by
  -- Induction on the size: the recipe sends only smaller objects back to the registry.
  induction hn : o.size using Nat.strongRecOn generalizing o with
  | ind n ih =>
    subst hn
    rw [R.encode_eq, S.encode_eq, h]
    cases S.lookup o.type with
    | error e => rfl
    | ok encoder =>
      show encoder.encode o R = encoder.encode o S
      exact Recipe.run_congr (fun part smaller => ih part.size smaller part rfl) _

/-- The registry that gives every object the outcome that a function names. -/
def ofOutcomes (outcome : HostObject H → Except EncodingError Value) : Registry H :=
  .leaf "outcomes" fun c => .ok {
    type := c
    recipe := fun x => match outcome ⟨c, x⟩ with
      | .ok v => .done v
      | .error e => .fail e }

/-- **Every function from objects to outcomes is the encoding of some registry.** -/
theorem encode_ofOutcomes (outcome : HostObject H → Except EncodingError Value)
    (o : HostObject H) : (ofOutcomes outcome).encode o = outcome o := by
  obtain ⟨c, x⟩ := o
  rw [encode_eq]
  show Encoder.encode _ (⟨c, x⟩ : HostObject H) _ = _
  rw [Encoder.encode, Encoder.plan_mk (H := H)]
  dsimp only
  cases outcome ⟨c, x⟩ <;> rfl

end Registry

/-! ## Host values -/

namespace HostValue

variable {R S : Registry H}

mutual

theorem encode_congr : ∀ x : HostValue H,
    (∀ o ∈ x.objects, R.encode o = S.encode o) → x.encode R = x.encode S
  | .value v, _ => rfl
  | .object o, h => h o (by simp [objects])
  | .document entries, h => by
    simp only [encode, encodeEntries_congr entries h]
  | .array items, h => by
    simp only [encode, encodeItems_congr items h]

theorem encodeEntries_congr : ∀ entries : List (String × HostValue H),
    (∀ o ∈ objectsOfEntries entries, R.encode o = S.encode o) →
      encodeEntries R entries = encodeEntries S entries
  | [], _ => rfl
  | (name, x) :: rest, h => by
    simp only [objectsOfEntries, List.mem_append] at h
    simp only [encodeEntries, encode_congr x fun o ho => h o (Or.inl ho),
      encodeEntries_congr rest fun o ho => h o (Or.inr ho)]

theorem encodeItems_congr : ∀ items : List (HostValue H),
    (∀ o ∈ objectsOfItems items, R.encode o = S.encode o) →
      encodeItems R items = encodeItems S items
  | [], _ => rfl
  | item :: rest, h => by
    simp only [objectsOfItems, List.mem_append] at h
    simp only [encodeItems, encode_congr item fun o ho => h o (Or.inl ho),
      encodeItems_congr rest fun o ho => h o (Or.inr ho)]

end

end HostValue

theorem HostDocument.encode_congr {R S : Registry H} (d : HostDocument H)
    (h : ∀ o ∈ d.objects, R.encode o = S.encode o) : d.encode R = d.encode S := by
  simp only [HostDocument.encode, HostValue.encodeEntries_congr d h]

theorem DocumentSource.encode_congr {R S : Registry H} (source : DocumentSource H)
    (h : ∀ o ∈ source.objects, R.encode o = S.encode o) : source.encode R = source.encode S := by
  cases source with
  | plain d => rfl
  | host d => exact d.encode_congr h

/-! ## Expressions -/

namespace Expression

variable {R S : Registry H}

mutual

/-- **An expression has the same value under registries that encode its objects alike.** -/
theorem evaluate_congr : ∀ e : Expression H,
    (∀ o ∈ e.objects, R.encode o = S.encode o) → e.evaluate R = e.evaluate S
  | .literal s, _ => rfl
  | .array items, h => by
    simp only [evaluate, evaluateItems_congr items h]
  | .document source, h => by
    simp only [evaluate, source.encode_congr h]
  | .null, _ => rfl

theorem evaluateItems_congr : ∀ items : List (Expression H),
    (∀ o ∈ objectsOfItems items, R.encode o = S.encode o) →
      evaluateItems R items = evaluateItems S items
  | [], _ => rfl
  | item :: rest, h => by
    simp only [objectsOfItems, List.mem_append] at h
    simp only [evaluateItems, evaluate_congr item fun o ho => h o (Or.inl ho),
      evaluateItems_congr rest fun o ho => h o (Or.inr ho)]

end

theorem toField_congr {e : Expression H} (h : ∀ o ∈ e.objects, R.encode o = S.encode o)
    (name : String) : e.toField name R = e.toField name S := by
  simp only [toField, e.evaluate_congr h]

end Expression

end DocumentQuery
