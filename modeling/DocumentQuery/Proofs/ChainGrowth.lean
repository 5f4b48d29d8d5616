import DocumentQuery.Proofs.RegistryLeaves
import DocumentQuery.Proofs.Substitution

/-!
# A longer chain

A registry that is appended to a chain can only repair missing encoders. Any outcome other than that
no encoder is known, be it a value or another error, is the same under the longer chain.

**Recipes.** The encoders are those that stop at the first part without an encoding and fail as it
does (`Recipe.Propagates`). Under such an encoder a missing part is never covered up: if the outcome
is not a missing encoder, then no part that was asked for had a missing encoder.

**Objects.** The longer chain gives every answer that the chain itself gives, other than that no
encoder is known. Parts are encoded through the longer chain as well, but they are smaller than
their object, so by induction their outcomes are the same.

**Documents and expressions.** These fail as the first object that does. If that is not for a
missing encoder, the objects before it have encodings, and all of them have the same outcomes under
the longer chain; objects after it do not matter.

Main results: `repairs_of_lookup`, `eq_of_repairs` and `push_repairs`.
-/

namespace DocumentQuery

variable {H : HostTypes}

/-! ## Recipes that fail as their parts do -/

namespace Recipe

variable {bound : Nat}

theorem run_part {o : HostObject H} (smaller : o.size < bound) {next : Value → Recipe H bound}
    (encode : (part : HostObject H) → part.size < bound → Except EncodingError Value) :
    (part o smaller next).run encode = (encode o smaller).bind fun v => (next v).run encode := by
  rw [part, run]
  cases encode o smaller <;> rfl

theorem propagates_ite {p : Prop} [Decidable p] {r s : Recipe H bound} (hr : r.Propagates)
    (hs : s.Propagates) : (if p then r else s).Propagates := by
  split
  · exact hr
  · exact hs

theorem propagates_part {o : HostObject H} {smaller : o.size < bound}
    {next : Value → Recipe H bound} (h : ∀ v, (next v).Propagates) :
    (part o smaller next).Propagates := by
  apply Propagates.ask
  · intro e
    rfl
  · exact h

theorem propagates_parts {os : List (HostObject H)} (smaller : ∀ o ∈ os, o.size < bound)
    {next : List Value → Recipe H bound} (h : ∀ vs, (next vs).Propagates) :
    (parts os smaller next).Propagates := by
  induction os generalizing next with
  | nil => exact h []
  | cons o os ih =>
    apply propagates_part
    intro v
    apply ih
    intro vs
    exact h (v :: vs)

/-- **Outcomes of parts decide**, but for the parts with a missing encoder: the recipe would have
failed for want of it. -/
theorem run_eq_of_propagates
    {f g : (part : HostObject H) → part.size < bound → Except EncodingError Value}
    (hfg : ∀ part smaller, (∀ type, f part smaller ≠ .error (.noEncoder type)) →
      g part smaller = f part smaller)
    {r : Recipe H bound} (hr : r.Propagates) (h : ∀ type, r.run f ≠ .error (.noEncoder type)) :
    r.run g = r.run f := by
  induction hr with
  | done v => rfl
  | fail e => rfl
  | @ask part smaller next stops goesOn ih =>
    rw [run] at h ⊢
    rw [run]
    cases hpart : f part smaller with
    | error e =>
      have hout : (next (.error e)).run f = .error e := by rw [stops e, run]
      rw [hpart, hout] at h
      have hsame := hfg part smaller
      rw [hpart] at hsame
      rw [hsame h, stops e, run, run]
    | ok v =>
      have hsame := hfg part smaller
      rw [hpart] at hsame h
      rw [hsame fun type hmissing => nomatch hmissing]
      exact ih v h

end Recipe

theorem Encoder.propagates_plan {e : Encoder H} (he : e.Propagates) (o : HostObject H) :
    (e.plan o).Propagates := by
  by_cases htype : o.type = e.type
  · obtain ⟨c, x⟩ := o
    cases htype
    rw [plan_mk]
    exact he x
  · rw [plan_of_ne htype]
    exact .fail _

namespace Registry

variable {R S : Registry H}

/-! ## Objects -/

/-- `S.Repairs R`: every object has the same outcome under `S` as under `R`, but for those that have
no encoder known to `R`. -/
def Repairs (S R : Registry H) : Prop :=
  ∀ o : HostObject H, (∀ type, R.encode o ≠ .error (.noEncoder type)) → S.encode o = R.encode o

theorem Repairs.encode_eq_ok (hrepairs : S.Repairs R) {o : HostObject H} {v : Value}
    (ho : R.encode o = .ok v) : S.encode o = .ok v := by
  have hsame := hrepairs o
  rw [ho] at hsame
  apply hsame
  intro type hmissing
  exact nomatch hmissing

theorem Repairs.encode_eq_error (hrepairs : S.Repairs R) {o : HostObject H} {err : EncodingError}
    (ho : R.encode o = .error err) (herr : ∀ type, err ≠ .noEncoder type) :
    S.encode o = .error err := by
  have hsame := hrepairs o
  rw [ho] at hsame
  apply hsame
  intro type hmissing
  exact herr type (Except.error.inj hmissing)

/-- **A registry that keeps all answers of another but the misses repairs it.** -/
theorem repairs_of_lookup (hlookup : ∀ c, ¬ R.Misses c → S.lookup c = R.lookup c)
    (hencoders : ∀ c encoder, R.lookup c = .ok encoder → encoder.Propagates) : S.Repairs R := by
  intro o
  -- Induction on the size: the recipe sends only smaller objects back to the registry.
  induction hn : o.size using Nat.strongRecOn generalizing o with
  | ind n ih =>
    subst hn
    intro h
    have hfound : ¬ R.Misses o.type := by
      rintro ⟨type, htype⟩
      apply h type
      rw [R.encode_eq, htype]
      rfl
    rw [S.encode_eq, hlookup o.type hfound]
    rw [R.encode_eq] at h ⊢
    cases hencoder : R.lookup o.type with
    | error e => rfl
    | ok encoder =>
      rw [hencoder] at h
      have hplan := Encoder.propagates_plan (hencoders o.type encoder hencoder) o
      exact Recipe.run_eq_of_propagates (fun part smaller => ih part.size smaller part rfl) hplan h

/-! ## Documents and expressions -/

/-- **What fails as the first of its objects does is repaired with them.** -/
theorem eq_of_repairs (hrepairs : S.Repairs R) {ε α : Type} {outcome : Registry H → Except ε α}
    {cause : EncodingError → ε} {os : List (HostObject H)}
    (hcongr : (∀ o ∈ os, S.encode o = R.encode o) → outcome S = outcome R)
    (hfail : ∀ (R' : Registry H) err, R'.firstError os = some err →
      outcome R' = .error (cause err))
    (h : ∀ type, outcome R ≠ .error (cause (.noEncoder type))) : outcome S = outcome R := by
  cases herror : R.firstError os with
  | none =>
    apply hcongr
    intro o ho
    obtain ⟨v, hv⟩ := firstError_eq_none_iff.1 herror o ho
    rw [hrepairs.encode_eq_ok hv, hv]
  | some err =>
    have hR := hfail R err herror
    have herr : ∀ type, err ≠ .noEncoder type := by
      intro type hmissing
      apply h type
      rw [hR, hmissing]
    obtain ⟨before, o, after, hos, hbefore, ho⟩ := firstError_eq_some_iff.1 herror
    have hfirst : S.firstError os = some err := by
      rw [firstError_eq_some_iff]
      refine ⟨before, o, after, hos, ?_, hrepairs.encode_eq_error ho herr⟩
      intro b hb
      obtain ⟨v, hv⟩ := hbefore b hb
      exact ⟨v, hrepairs.encode_eq_ok hv⟩
    rw [hR, hfail S err hfirst]

/-! ## Pushing -/

theorem lookup_push {members : List (Registry H)} {c : H.Code} (h : ¬ (chain members).Misses c)
    (S : Registry H) : ((chain members).push S).lookup c = (chain members).lookup c := by
  rw [push, lookup, lookupFirst_append]
  exact orNext_of_not_misses h _

/-- **Pushing a registry repairs only missing encoders.** Where all encoders that the chain knows
fail as the parts of their objects do, every outcome under the chain that is not a missing encoder
stays the same when another registry is pushed: of an object, a host value, a host document, an
expression and a field. -/
theorem push_repairs (members : List (Registry H)) (S : Registry H)
    (hencoders : ∀ c encoder, (chain members).lookup c = .ok encoder → encoder.Propagates) :
    (∀ o : HostObject H, (∀ type, (chain members).encode o ≠ .error (.noEncoder type)) →
      ((chain members).push S).encode o = (chain members).encode o) ∧
    (∀ x : HostValue H, (∀ type, x.encode (chain members) ≠ .error (.noEncoder type)) →
      x.encode ((chain members).push S) = x.encode (chain members)) ∧
    (∀ d : HostDocument H, (∀ type, d.encode (chain members) ≠ .error (.noEncoder type)) →
      d.encode ((chain members).push S) = d.encode (chain members)) ∧
    ∀ e : Expression H,
      (∀ type, e.evaluate (chain members) ≠ .error (.encoding (.noEncoder type))) →
        e.evaluate ((chain members).push S) = e.evaluate (chain members) ∧
          ∀ name, e.toField name ((chain members).push S) = e.toField name (chain members) := by
  have hrepairs : ((chain members).push S).Repairs (chain members) :=
    repairs_of_lookup (fun c hfound => lookup_push hfound S) hencoders
  refine ⟨hrepairs, ?_, ?_, ?_⟩
  · intro x h
    exact eq_of_repairs hrepairs (fun hos => x.encode_congr hos)
      (fun R' err herror => x.encode_of_firstError herror) h
  · intro d h
    exact eq_of_repairs hrepairs (fun hos => d.encode_congr hos)
      (fun R' err herror => HostDocument.encode_of_firstError herror) h
  · intro e h
    have hvalue := eq_of_repairs hrepairs (fun hos => e.evaluate_congr hos)
      (fun R' err herror => e.evaluate_of_firstError herror) h
    refine ⟨hvalue, ?_⟩
    intro name
    rw [Expression.toField, hvalue, Expression.toField]

/-- A table that knows amounts of money as texts, then one that knows lines and orders. -/
def textMoney : List (Registry (Sample.hostTypes fun _ => "shop")) :=
  [(EncoderTable.empty.register Sample.moneyText).toRegistry,
    ((EncoderTable.empty.register Sample.lineItem).register Sample.order).toRegistry]

/-- A table that knows all amounts of money. -/
def anyMoney : Registry (Sample.hostTypes fun _ => "shop") :=
  (EncoderTable.empty.register Sample.moneyFields).toRegistry

/-- A line whose price has no text. -/
def refundLine : Sample.LineItem := ⟨"A", ⟨-1, "EUR"⟩⟩

theorem encode_refundLine : (chain textMoney).encode refundLine.toObject =
    .error (.refused "Money" "negative amounts have no display form") := by
  have hprice : (chain textMoney).encode refundLine.price.toObject =
      .error (.refused "Money" "negative amounts have no display form") := by
    rw [encode_eq]
    rfl
  rw [encode_eq]
  apply (Recipe.run_part (o := refundLine.price.toObject) Nat.zero_lt_one _).trans
  rw [hprice]
  rfl

theorem propagates_textMoney (c : Sample.Kind)
    (encoder : Encoder (Sample.hostTypes fun _ => "shop"))
    (h : (chain textMoney).lookup c = .ok encoder) : encoder.Propagates := by
  cases c with
  | money =>
    cases h
    intro (m : Sample.Money)
    exact Recipe.propagates_ite (.fail _) (.done _)
  | lineItem =>
    cases h
    intro (i : Sample.LineItem)
    apply Recipe.propagates_part
    intro price
    exact .done _
  | order =>
    cases h
    intro (o : Sample.Order)
    apply Recipe.propagates_parts
    intro lines
    exact .done _
  | _ => exact nomatch h

/-- The price stays refused, though the registry that is pushed would take it. -/
theorem evaluate_push_refundLine :
    (Expression.ofHostDocument [("line", .object refundLine.toObject)]).evaluate
        ((chain textMoney).push anyMoney) =
      .error (.encoding (.refused "Money" "negative amounts have no display form")) := by
  have houtcome : (Expression.ofHostDocument [("line", .object refundLine.toObject)]).evaluate
      (chain textMoney) =
        .error (.encoding (.refused "Money" "negative amounts have no display form")) := by
    apply Expression.evaluate_of_firstError
    exact List.findSome?_singleton.trans (error?_eq_some_iff.2 encode_refundLine)
  have hpush := (push_repairs textMoney anyMoney propagates_textMoney).2.2.2
    (Expression.ofHostDocument [("line", .object refundLine.toObject)])
  rw [houtcome] at hpush
  exact (hpush fun type hmissing => nomatch hmissing).1

end Registry

end DocumentQuery
