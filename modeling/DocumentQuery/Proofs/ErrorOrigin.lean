import DocumentQuery.Error
import DocumentQuery.Proofs.ExpressionTree
import DocumentQuery.Proofs.RegistryLeaves
import DocumentQuery.Proofs.Substitution
import DocumentQuery.SearchPath.Compact

/-!
# Where errors come from

An error of building a query is an invalid argument. An error of rendering one is not: it is the
error of a host object, just as it was raised, within the layer of the part that reports it.

**Objects.** An object fails in one of three ways (`Registry.Raises`): a leaf of the registry
answers the look-up with an error, no leaf knows an encoder, or the encoder that was found fails.

**Rendering.** Host values, documents and expressions add no errors of their own. Each succeeds when
all of its objects do and fails as the first that does not, so there is no other way for it to fail
(`eq_error_iff`).

**Building.** Paths, the path option and arrays with missing elements are refused before there is a
registry, so no encoding error can be in their refusals. An array is refused for a missing element
and for nothing else (`ofOptions_eq_error_iff`).

Main results: `raises_of_encode`, `evaluate_eq_error_iff` and `isInvalidArgument_of_building`.
-/

namespace DocumentQuery

variable {H : HostTypes}

namespace Registry

variable {R : Registry H}

/-! ## Objects -/

/-- The ways in which an object fails to be encoded. -/
inductive Raises (R : Registry H) (o : HostObject H) : EncodingError → Prop
  /-- A leaf answers the look-up with the error. -/
  | leaf {l : Registry H} {err : EncodingError} (hl : l ∈ R.leaves)
    (h : l.lookup o.type = .error err) : Raises R o err
  /-- No leaf knows an encoder. -/
  | missing (h : ∀ l ∈ R.leaves, l.Misses o.type) : Raises R o (.noEncoder o.typeName)
  /-- The encoder that was found fails with the error. -/
  | encoder {encoder : Encoder H} {err : EncodingError} (hlookup : R.lookup o.type = .ok encoder)
    (h : encoder.encode o R = .error err) : Raises R o err

theorem raises_of_lookup {o : HostObject H} {err : EncodingError}
    (h : R.lookup o.type = .error err) : R.Raises o err := by
  cases R with
  | leaf name answer => exact .leaf (by simp [leaves]) h
  | chain members =>
    rw [lookup, ← lookupFirst_leavesOf] at h
    rcases lookupFirst_cases o.type (leavesOf members) with
      ⟨before, l, after, hsplit, -, -, hanswer⟩ | ⟨hall, hanswer⟩
    · rw [hanswer] at h
      exact .leaf (by simp [leaves, hsplit]) h
    · rw [hanswer, Except.error.injEq] at h
      subst h
      exact .missing hall

theorem raises_of_encode {o : HostObject H} {err : EncodingError} (h : R.encode o = .error err) :
    R.Raises o err := by
  rw [encode_eq] at h
  cases hlookup : R.lookup o.type with
  | error e =>
    rw [hlookup] at h
    have he : e = err := Except.error.inj h
    exact raises_of_lookup (he ▸ hlookup)
  | ok encoder =>
    rw [hlookup] at h
    exact .encoder hlookup h

theorem exists_mem_of_firstError {os : List (HostObject H)} {err : EncodingError}
    (h : R.firstError os = some err) : ∃ o ∈ os, R.encode o = .error err ∧ R.Raises o err := by
  obtain ⟨before, o, after, rfl, -, ho⟩ := firstError_eq_some_iff.1 h
  exact ⟨o, by simp, ho, raises_of_encode ho⟩

/-- **What succeeds with all of its objects, and fails as the first that does not, fails in no other
way.** -/
theorem eq_error_iff {ε α : Type} {outcome : Except ε α} {os : List (HostObject H)}
    (cause : EncodingError → ε) (hok : R.firstError os = none → ∃ a, outcome = .ok a)
    (hfail : ∀ err, R.firstError os = some err → outcome = .error (cause err)) {e : ε} :
    outcome = .error e ↔ ∃ err, R.firstError os = some err ∧ e = cause err := by
  refine ⟨fun h => ?_, fun ⟨err, herr, he⟩ => he ▸ hfail err herr⟩
  cases herr : R.firstError os with
  | none =>
    obtain ⟨a, ha⟩ := hok herr
    exact nomatch ha.symm.trans h
  | some err => exact ⟨err, rfl, Except.error.inj (h.symm.trans (hfail err herr))⟩

end Registry

/-! ## Rendering -/

variable {R : Registry H}

theorem HostValue.encode_eq_error_iff {x : HostValue H} {err : EncodingError} :
    x.encode R = .error err ↔ R.firstError x.objects = some err := by
  have hok : R.firstError x.objects = none → ∃ v, x.encode R = .ok v := by
    intro h
    obtain ⟨v, hv, -⟩ := x.encode_settle h
    exact ⟨v, hv⟩
  simpa using Registry.eq_error_iff id hok (fun err h => x.encode_of_firstError h) (e := err)

theorem HostDocument.encode_eq_error_iff {d : HostDocument H} {err : EncodingError} :
    d.encode R = .error err ↔ R.firstError d.objects = some err := by
  have hok : R.firstError d.objects = none → ∃ doc, d.encode R = .ok doc := by
    intro h
    obtain ⟨doc, hdoc, -⟩ := encode_settle h
    exact ⟨doc, hdoc⟩
  simpa using Registry.eq_error_iff id hok (fun err h => encode_of_firstError h) (e := err)

namespace Expression

/-- **The errors of an expression are those of its first failing object**, in one layer. -/
theorem evaluate_eq_error_iff {e : Expression H} {err : ExpressionError} :
    e.evaluate R = .error err ↔
      ∃ cause, R.firstError e.objects = some cause ∧ err = .encoding cause := by
  have hok : R.firstError e.objects = none → ∃ v, e.evaluate R = .ok v := by
    intro h
    obtain ⟨v, hv, -⟩ := e.evaluate_settle h
    exact ⟨v, hv⟩
  exact Registry.eq_error_iff .encoding hok fun cause h => e.evaluate_of_firstError h

theorem toField_eq_error_iff {e : Expression H} {name : String} {err : ExpressionError} :
    e.toField name R = .error err ↔ e.evaluate R = .error err := by
  rw [toField]
  cases e.evaluate R <;> simp [Except.map]

/-! ## Building -/

section Elements

variable {α : Type} [ToScalar α]

theorem ofOptions_map_some (as : List α) :
    (ofOptions (as.map some) : Except _ (Expression H)) = .ok (ofScalars as) := by
  have hitems : (as.map some).mapM (ofOption (H := H)) = .ok (as.map of) := by
    rw [List.mapM_map]
    exact List.mapM_pure
  rw [ofOptions, hitems]
  rfl

variable {as : List (Option α)} {err : ExpressionError}

theorem mapM_ofOption_of_mem (h : none ∈ as) :
    as.mapM (ofOption (H := H)) = .error .missingElement := by
  induction as with
  | nil => exact nomatch h
  | cons a rest ih =>
    rw [List.mapM_cons]
    cases a with
    | none => rfl
    | some a =>
      rw [ih ((List.mem_cons.1 h).resolve_left (Option.some_ne_none a).symm)]
      rfl

/-- **An array is refused if and only if an element is missing**, whichever it is. -/
theorem ofOptions_eq_error_iff :
    (ofOptions as : Except _ (Expression H)) = .error err ↔
      none ∈ as ∧ err = .missingElement := by
  by_cases h : none ∈ as
  · rw [and_iff_right h, ofOptions, mapM_ofOption_of_mem h, Except.map, Except.error.injEq, eq_comm]
  · obtain ⟨bs, rfl⟩ := exists_eq_map_some h
    rw [ofOptions_map_some]
    exact iff_of_false (fun hok => by cases hok) fun herr => h herr.1

theorem eq_missingElement_of_ofOptions
    (h : (ofOptions as : Except _ (Expression H)) = .error err) : err = .missingElement :=
  (ofOptions_eq_error_iff.1 h).2

end Elements

end Expression

namespace QueryError

/-- **Invalid arguments are the errors of building, never those of rendering.** What is refused when
a path, a path option or an array is built is an invalid argument. What fails when an object, a host
value, a host document or an expression is rendered is not: it is the error of one of the objects,
as it was raised, within the layer that reports it and no other. -/
theorem isInvalidArgument_of_building :
    (∀ path err, FieldPath.ofString path = .error err → (searchPath err).isInvalidArgument) ∧
    (∀ pattern err, WildcardPath.ofString pattern = .error err →
      (searchPath err).isInvalidArgument) ∧
    (∀ (p : FieldPath) name err, p.withAnalyzer name = .error err →
      (searchPath err).isInvalidArgument) ∧
    (∀ paths err, SearchPath.combine paths = .error err → (searchPath err).isInvalidArgument) ∧
    (∀ (α : Type) [ToScalar α] (as : List (Option α)) err,
      (Expression.ofOptions as : Except _ (Expression H)) = .error err →
        (expression err).isInvalidArgument) ∧
    ∀ R : Registry H,
      (∀ o err, R.encode o = .error err →
        ¬ (encoding err).isInvalidArgument ∧ R.Raises o err) ∧
      (∀ (x : HostValue H) err, x.encode R = .error err → ¬ (encoding err).isInvalidArgument ∧
        ∃ o ∈ x.objects, R.encode o = .error err ∧ R.Raises o err) ∧
      (∀ (d : HostDocument H) err, d.encode R = .error err → ¬ (encoding err).isInvalidArgument ∧
        ∃ o ∈ d.objects, R.encode o = .error err ∧ R.Raises o err) ∧
      (∀ (e : Expression H) err, e.evaluate R = .error err → ¬ (expression err).isInvalidArgument ∧
        ∃ cause, err = .encoding cause ∧
          ∃ o ∈ e.objects, R.encode o = .error cause ∧ R.Raises o cause) ∧
      ∀ (e : Expression H) name err, e.toField name R = .error err →
        ¬ (expression err).isInvalidArgument ∧ ∃ cause, err = .encoding cause ∧
          ∃ o ∈ e.objects, R.encode o = .error cause ∧ R.Raises o cause := by
  refine ⟨fun _ _ _ => rfl, fun _ _ _ => rfl, fun _ _ _ _ => rfl, fun _ _ _ => rfl, ?_, ?_⟩
  · intro α _ as err h
    rw [Expression.eq_missingElement_of_ofOptions h]
    rfl
  · intro R
    have hexpression : ∀ (e : Expression H) err, e.evaluate R = .error err →
        ¬ (expression err).isInvalidArgument ∧ ∃ cause, err = .encoding cause ∧
          ∃ o ∈ e.objects, R.encode o = .error cause ∧ R.Raises o cause := by
      intro e err h
      obtain ⟨cause, hcause, rfl⟩ := Expression.evaluate_eq_error_iff.1 h
      exact ⟨Bool.false_ne_true, cause, rfl, Registry.exists_mem_of_firstError hcause⟩
    refine ⟨?_, ?_, ?_, hexpression, ?_⟩
    · intro o err h
      exact ⟨Bool.false_ne_true, Registry.raises_of_encode h⟩
    · intro x err h
      have hfirst := HostValue.encode_eq_error_iff.1 h
      exact ⟨Bool.false_ne_true, Registry.exists_mem_of_firstError hfirst⟩
    · intro d err h
      have hfirst := HostDocument.encode_eq_error_iff.1 h
      exact ⟨Bool.false_ne_true, Registry.exists_mem_of_firstError hfirst⟩
    · intro e name err h
      exact hexpression e err (Expression.toField_eq_error_iff.1 h)

/-- A field that is searched with the default analyzer. -/
def plainField : FieldPath := ⟨"a", none, by decide, by decide, by decide⟩

/-- A table that knows no encoder. -/
def noEncoders : Registry (Sample.hostTypes fun _ => "u8") := EncoderTable.empty.toRegistry

/-- A document with a byte in it. -/
def byteDocument : HostDocument (Sample.hostTypes fun _ => "u8") :=
  [("n", .object (Sample.byteObject 7))]

theorem encode_noEncoders : noEncoders.encode (Sample.byteObject 7) = .error (.noEncoder "u8") := by
  rw [Registry.encode_eq]
  rfl

theorem firstError_byteDocument :
    noEncoders.firstError byteDocument.objects = some (.noEncoder "u8") :=
  List.findSome?_singleton.trans (Registry.error?_eq_some_iff.2 encode_noEncoders)

/-- A star, a missing star, an empty name, a search without paths and a missing element are invalid
arguments. A byte without an encoder is none, wherever it stands. -/
theorem isInvalidArgument_noEncoders :
    (FieldPath.ofString "a.*" = .error .starInPath ∧ (searchPath .starInPath).isInvalidArgument) ∧
    (WildcardPath.ofString "a.b" = .error .missingStar ∧
      (searchPath .missingStar).isInvalidArgument) ∧
    (plainField.withAnalyzer "" = .error .emptyAnalyzer ∧
      (searchPath .emptyAnalyzer).isInvalidArgument) ∧
    (SearchPath.combine [] = .error .noPaths ∧ (searchPath .noPaths).isInvalidArgument) ∧
    ((Expression.ofOptions [some true, none] :
        Except _ (Expression (Sample.hostTypes fun _ => "u8"))) = .error .missingElement ∧
      (expression .missingElement).isInvalidArgument) ∧
    (byteDocument.encode noEncoders = .error (.noEncoder "u8") ∧
      (HostValue.document byteDocument).encode noEncoders = .error (.noEncoder "u8") ∧
      ¬ (encoding (.noEncoder "u8")).isInvalidArgument) ∧
    ((Expression.ofHostDocument byteDocument).evaluate noEncoders =
        .error (.encoding (.noEncoder "u8")) ∧
      (Expression.ofHostDocument byteDocument).toField "n" noEncoders =
        .error (.encoding (.noEncoder "u8")) ∧
      ¬ (expression (.encoding (.noEncoder "u8"))).isInvalidArgument) := by
  obtain ⟨hfield, hwildcard, hanalyzer, hpaths, helements, hrendering⟩ :=
    isInvalidArgument_of_building (H := Sample.hostTypes fun _ => "u8")
  obtain ⟨-, -, hdocument, hexpression, -⟩ := hrendering noEncoders
  have hd : byteDocument.encode noEncoders = .error (.noEncoder "u8") :=
    HostDocument.encode_of_firstError firstError_byteDocument
  have hx : (HostValue.document byteDocument).encode noEncoders = .error (.noEncoder "u8") :=
    HostValue.encode_of_firstError _ firstError_byteDocument
  have he : (Expression.ofHostDocument byteDocument).evaluate noEncoders =
      .error (.encoding (.noEncoder "u8")) :=
    Expression.evaluate_of_firstError _ firstError_byteDocument
  have hf : (Expression.ofHostDocument byteDocument).toField "n" noEncoders =
      .error (.encoding (.noEncoder "u8")) := Expression.toField_eq_error_iff.2 he
  refine ⟨⟨rfl, hfield "a.*" _ rfl⟩, ⟨rfl, hwildcard "a.b" _ rfl⟩,
    ⟨rfl, hanalyzer plainField "" _ rfl⟩, ⟨rfl, hpaths [] _ rfl⟩,
    ⟨rfl, helements Bool [some true, none] _ rfl⟩, ⟨hd, hx, ?_⟩, ⟨he, hf, ?_⟩⟩
  · exact (hdocument _ _ hd).1
  · exact (hexpression _ _ he).1

end QueryError

end DocumentQuery
