import DocumentQuery.Proofs.ErrorOrigin
import DocumentQuery.Proofs.TableChain

/-!
# Type mismatches

An encoder is given an object of another type only where it was put under that type.

**Registries in place.** A table into which every encoder was put under its own type answers with
encoders for the type asked for. One step of building it keeps this (`EncoderTable.Fits.apply`), so
does a whole run, and a chain of such registries answers as they do (`InPlace.fits`). Encoding then
ends in no type mismatch, by induction on the size of the object: the encoder found is for its type,
and if it makes no mismatch of its own, one could only come from a part of the object.

**Misplaced encoders.** The first leaf that does not miss decides. If its encoder is for another
type, the object is refused, whatever the leaves behind it know (`encode_of_misplaced`).

Main results: `InPlace.fits`, `not_isTypeMismatch_of_encode` and `typeMismatch_only_misplaced`.
-/

namespace DocumentQuery

variable {H : HostTypes}

/-! ## Tables -/

/-- The step puts an encoder under the type that it is for. -/
def TableStep.Fits (step : TableStep H) : Prop := step.entry.2.type = step.entry.1

theorem TableStep.fits_register (e : Encoder H) : (TableStep.register e).Fits := rfl

namespace EncoderTable

/-- Every encoder of the table is for the type that it is under. -/
def Fits (t : EncoderTable H) : Prop := ∀ c e, t.encoders.get? c = some e → e.type = c

theorem fits_empty : (empty : EncoderTable H).Fits := by
  intro c e he
  have hnone : (empty : EncoderTable H).encoders.get? c = none := rfl
  rw [hnone] at he
  exact nomatch he

theorem Fits.apply {t : EncoderTable H} {step : TableStep H} (ht : t.Fits) (hstep : step.Fits) :
    (step.apply t).Fits := by
  intro c e he
  rw [get?_apply, TableStep.encoderFor?] at he
  by_cases hc : step.entry.1 = c
  · rw [if_pos hc, Option.some_or, Option.some.injEq] at he
    rw [← he, ← hc]
    exact hstep
  · rw [if_neg hc, Option.none_or] at he
    exact ht c e he

theorem Fits.run {t : EncoderTable H} (ht : t.Fits) {steps : List (TableStep H)}
    (hsteps : ∀ step ∈ steps, step.Fits) : (t.run steps).Fits := by
  induction steps generalizing t with
  | nil => exact ht
  | cons step rest ih =>
    simp only [List.mem_cons, forall_eq_or_imp] at hsteps
    exact ih (ht.apply hsteps.1) hsteps.2

end EncoderTable

/-! ## Recipes that make no mismatch -/

namespace Recipe

variable {bound : Nat}

theorem makesNoMismatch_part {o : HostObject H} {smaller : o.size < bound}
    {next : Value → Recipe H bound} (h : ∀ v, (next v).MakesNoMismatch) :
    (part o smaller next).MakesNoMismatch :=
  .ask h fun _ he => .fail he

/-- A mismatch at the end of such a recipe is that of a part. -/
theorem MakesNoMismatch.not_isTypeMismatch
    {f : (part : HostObject H) → part.size < bound → Except EncodingError Value}
    (hf : ∀ part smaller err, f part smaller = .error err → ¬ err.IsTypeMismatch)
    {r : Recipe H bound} (hr : r.MakesNoMismatch) {err : EncodingError}
    (h : r.run f = .error err) : ¬ err.IsTypeMismatch := by
  induction hr with
  | done v => exact nomatch h
  | fail hfail =>
    rw [run, Except.error.injEq] at h
    rwa [← h]
  | @ask part smaller next _ _ onValue onError =>
    rw [run] at h
    cases hpart : f part smaller with
    | ok v =>
      rw [hpart] at h
      exact onValue v h
    | error e =>
      rw [hpart] at h
      exact onError e (hf part smaller e hpart) h

end Recipe

namespace Registry

/-! ## Registries in place -/

/-- A registry made of tables in which every encoder was put under its own type, of registries that
refuse every look-up, and of chains of these. -/
inductive InPlace : Registry H → Prop
  | table (steps : List (TableStep H)) (h : ∀ step ∈ steps, step.Fits) :
    InPlace (EncoderTable.empty.run steps).toRegistry
  | refusing (name : String) {answer : H.Code → LookupResult H}
    (h : ∀ c, ∃ type reason, answer c = .error (.refused type reason)) :
    InPlace (.leaf name answer)
  | chain {members : List (Registry H)} (h : ∀ R ∈ members, InPlace R) : InPlace (.chain members)

/-- The answer is an encoder for the type asked for, or an error other than a type mismatch. -/
def Fits (c : H.Code) : LookupResult H → Prop
  | .ok encoder => encoder.type = c
  | .error e => ¬ e.IsTypeMismatch

variable {R : Registry H}

theorem InPlace.push {S : Registry H} (hR : R.InPlace) (hS : S.InPlace) : (R.push S).InPlace := by
  cases R with
  | leaf name answer => exact .chain (by simp [hR, hS])
  | chain members =>
    cases hR with
    | chain hmembers =>
      refine .chain fun member hmember => ?_
      rcases List.mem_append.1 hmember with h | h
      · exact hmembers member h
      · rwa [List.mem_singleton.1 h]

theorem fits_orNext {c : H.Code} {answer next : LookupResult H} (h : Fits c answer)
    (hnext : Fits c next) : Fits c (orNext answer next) := by
  cases answer with
  | ok encoder => exact h
  | error e =>
    cases e with
    | noEncoder type => exact hnext
    | _ => exact h

theorem fits_lookupFirst {c : H.Code} {rs : List (Registry H)}
    (h : ∀ R ∈ rs, Fits c (R.lookup c)) : Fits c (lookupFirst c rs) := by
  induction rs with
  | nil => exact not_false
  | cons R rest ih =>
    simp only [List.mem_cons, forall_eq_or_imp] at h
    rw [lookupFirst_cons]
    exact fits_orNext h.1 (ih h.2)

/-- **The answers of a registry in place fit.** -/
theorem InPlace.fits (h : R.InPlace) (c : H.Code) : Fits c (R.lookup c) := by
  induction h with
  | table steps hsteps =>
    have hfits : (EncoderTable.empty.run steps).Fits := EncoderTable.fits_empty.run hsteps
    show Fits c ((EncoderTable.empty.run steps).lookup c)
    rw [EncoderTable.lookup]
    cases hget : (EncoderTable.empty.run steps).encoders.get? c with
    | some e => exact hfits c e hget
    | none => exact not_false
  | refusing name hanswer =>
    obtain ⟨type, reason, hc⟩ := hanswer c
    rw [lookup, hc]
    exact not_false
  | chain _ ih => exact fits_lookupFirst ih

/-- **Fitting encoders that make no mismatch end in none.** -/
theorem not_isTypeMismatch_of_encode (hfits : ∀ c, Fits c (R.lookup c))
    (hencoders : ∀ c encoder, R.lookup c = .ok encoder → encoder.MakesNoMismatch)
    {o : HostObject H} {err : EncodingError} (h : R.encode o = .error err) :
    ¬ err.IsTypeMismatch := by
  -- Induction on the size: the recipe sends only smaller objects back to the registry.
  induction hn : o.size using Nat.strongRecOn generalizing o err with
  | ind n ih =>
    subst hn
    rw [encode_eq] at h
    have hfit := hfits o.type
    cases hlookup : R.lookup o.type with
    | error e =>
      rw [hlookup] at h hfit
      rwa [← Except.error.inj h]
    | ok encoder =>
      rw [hlookup] at h hfit
      have hquiet := hencoders o.type encoder hlookup
      obtain ⟨c, x⟩ := o
      cases hfit
      have hrun : (encoder.recipe x).run (fun part _ => R.encode part) = .error err := by
        rw [← Encoder.plan_mk]
        exact h
      exact (hquiet x).not_isTypeMismatch
        (fun part smaller err hpart => ih part.size smaller hpart rfl) hrun

/-! ## Misplaced encoders -/

theorem lookupFirst_append_of_misses {c : H.Code} {before : List (Registry H)}
    (h : ∀ b ∈ before, b.Misses c) (rest : List (Registry H)) :
    lookupFirst c (before ++ rest) = lookupFirst c rest := by
  induction before with
  | nil => rfl
  | cons b before ih =>
    simp only [List.mem_cons, forall_eq_or_imp] at h
    rw [List.cons_append, lookupFirst_cons_of_misses h.1, ih h.2]

theorem lookup_eq_ok_of_leaves {c : H.Code} {before after : List (Registry H)} {l : Registry H}
    {encoder : Encoder H} (hleaves : R.leaves = before ++ l :: after)
    (hbefore : ∀ b ∈ before, b.Misses c) (hl : l.lookup c = .ok encoder) :
    R.lookup c = .ok encoder := by
  have hfirst : lookupFirst c R.leaves = .ok encoder := by
    rw [hleaves, lookupFirst_append_of_misses hbefore, lookupFirst_cons, hl]
    rfl
  -- A registry agrees with its leaves up to a miss, and this is none.
  have hagree := orNext_lookupFirst_leaves c (.error (.noEncoder (H.name c))) R
  rw [hfirst] at hagree
  cases hR : R.lookup c with
  | ok found =>
    rw [hR] at hagree
    exact hagree.symm
  | error e =>
    rw [hR] at hagree
    cases e <;> exact nomatch hagree

theorem encode_of_misplaced {o : HostObject H} {encoder : Encoder H}
    (hlookup : R.lookup o.type = .ok encoder) (hne : encoder.type ≠ o.type) :
    R.encode o = .error (.typeMismatch encoder.typeName o.typeIdentity) := by
  rw [encode_eq, hlookup]
  show encoder.encode o R = _
  rw [Encoder.encode, Encoder.plan_of_ne hne.symm, Recipe.run]

/-- **Only misplaced encoders cause type mismatches, and they always do.** Under a registry in place
whose encoders make no mismatch of their own, no object, host value, host document or expression
ends in a type mismatch. Under any registry, if the first leaf that does not miss the type of an
object answers with an encoder for another type, then the object ends in a type mismatch in which
that other type is the expected one, whatever the leaves behind it know. -/
theorem typeMismatch_only_misplaced (R : Registry H) :
    (R.InPlace → (∀ c encoder, R.lookup c = .ok encoder → encoder.MakesNoMismatch) →
      (∀ o expected actual, R.encode o ≠ .error (.typeMismatch expected actual)) ∧
      (∀ (x : HostValue H) expected actual, x.encode R ≠ .error (.typeMismatch expected actual)) ∧
      (∀ (d : HostDocument H) expected actual,
        d.encode R ≠ .error (.typeMismatch expected actual)) ∧
      ∀ (e : Expression H) expected actual,
        e.evaluate R ≠ .error (.encoding (.typeMismatch expected actual)) ∧
          ∀ name, e.toField name R ≠ .error (.encoding (.typeMismatch expected actual))) ∧
    ∀ (o : HostObject H) before l after encoder, R.leaves = before ++ l :: after →
      (∀ b ∈ before, b.Misses o.type) → l.lookup o.type = .ok encoder → encoder.type ≠ o.type →
        ∃ actual, R.encode o = .error (.typeMismatch encoder.typeName actual) := by
  refine ⟨fun hplace hencoders => ?_, ?_⟩
  · have hobject : ∀ o expected actual, R.encode o ≠ .error (.typeMismatch expected actual) := by
      intro o expected actual h
      exact not_isTypeMismatch_of_encode hplace.fits hencoders h trivial
    have hfirst : ∀ (os : List (HostObject H)) expected actual,
        R.firstError os ≠ some (.typeMismatch expected actual) := by
      intro os expected actual h
      obtain ⟨o, -, ho, -⟩ := exists_mem_of_firstError h
      exact hobject o expected actual ho
    have hexpression : ∀ (e : Expression H) expected actual,
        e.evaluate R ≠ .error (.encoding (.typeMismatch expected actual)) := by
      intro e expected actual h
      obtain ⟨cause, hcause, herr⟩ := Expression.evaluate_eq_error_iff.1 h
      rw [← ExpressionError.encoding.inj herr] at hcause
      exact hfirst e.objects expected actual hcause
    refine ⟨hobject, ?_, ?_, ?_⟩
    · intro x expected actual h
      exact hfirst x.objects expected actual (HostValue.encode_eq_error_iff.1 h)
    · intro d expected actual h
      exact hfirst d.objects expected actual (HostDocument.encode_eq_error_iff.1 h)
    · intro e expected actual
      refine ⟨hexpression e expected actual, fun name h => ?_⟩
      exact hexpression e expected actual (Expression.toField_eq_error_iff.1 h)
  · intro o before l after encoder hleaves hbefore hl hne
    exact ⟨o.typeIdentity, encode_of_misplaced (lookup_eq_ok_of_leaves hleaves hbefore hl) hne⟩

/-- Money and bytes by name. -/
def shopName : Sample.Kind → String
  | .money => "Money"
  | .byte => "u8"
  | _ => "other"

/-- Lines in one table, and the money in them in another. -/
def shop : Registry (Sample.hostTypes shopName) :=
  (chain [(EncoderTable.empty.run [.register Sample.lineItem]).toRegistry]).push
    (EncoderTable.empty.run [.register Sample.moneyFields, .register Sample.moneyText]).toRegistry

/-- Money is taken for a byte in the first table, and rightly known in the second. -/
def byteForMoney : Registry (Sample.hostTypes shopName) :=
  chain [(EncoderTable.empty.run [.insert Sample.Kind.money Sample.byteNumber]).toRegistry,
    (EncoderTable.empty.run [.register Sample.moneyFields]).toRegistry]

theorem inPlace_shop : shop.InPlace := by
  refine InPlace.push (.chain fun member hmember => ?_) (.table _ ?_)
  · rw [List.mem_singleton.1 hmember]
    exact .table _ (by simp [TableStep.fits_register])
  · simp [TableStep.fits_register]

theorem makesNoMismatch_shop (c : Sample.Kind) (encoder : Encoder (Sample.hostTypes shopName))
    (h : shop.lookup c = .ok encoder) : encoder.MakesNoMismatch := by
  cases c with
  | money =>
    cases h
    intro (m : Sample.Money)
    show (ite _ (Recipe.fail _) (Recipe.done _)).MakesNoMismatch
    split
    · exact .fail not_false
    · exact .done _
  | lineItem =>
    cases h
    intro (i : Sample.LineItem)
    exact Recipe.makesNoMismatch_part fun price => .done _
  | _ => exact nomatch h

/-- A line whose price has no text ends in no mismatch in the shop. Money that is taken for a byte
does, though the table behind would know it. -/
theorem encode_byteForMoney :
    (∀ expected actual,
      (Expression.ofHostDocument
        [("line", .object (Sample.LineItem.toObject ⟨"A", ⟨-1, "EUR"⟩⟩))]).evaluate shop ≠
          .error (.encoding (.typeMismatch expected actual))) ∧
    ∃ actual, byteForMoney.encode (Sample.Money.toObject ⟨1250, "EUR"⟩) =
      .error (.typeMismatch "u8" actual) := by
  refine ⟨fun expected actual => ?_, ?_⟩
  · obtain ⟨-, -, -, hexpression⟩ :=
      (typeMismatch_only_misplaced shop).1 inPlace_shop makesNoMismatch_shop
    exact (hexpression _ expected actual).1
  · exact (typeMismatch_only_misplaced byteForMoney).2 (Sample.Money.toObject ⟨1250, "EUR"⟩)
      [] _ _ Sample.byteNumber rfl (by simp) rfl (by decide)

end Registry

end DocumentQuery
