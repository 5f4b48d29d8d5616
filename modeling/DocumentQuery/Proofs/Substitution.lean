import DocumentQuery.Proofs.Agreement
import DocumentQuery.Sample.Encoders

/-!
# Evaluation is substitution

The value of an expression is that of the same expression with each host object replaced by its
encoding, and the only way to fail is that of the first object without one.

**Settling.** `settle` puts the encoding of every object in the object's place, and leaves an
object without an encoding as it is. A settled expression all of whose objects had encodings holds
none any more, so it has the same value under every registry.

**The first failure.** `Registry.firstError` looks for it in a list of objects. Over a document the
list runs through all entries, also those whose name comes again later, so the objects of an
overwritten entry are encoded and can fail.

Main results: `HostValue.encode_settle`, `HostValue.encode_of_firstError` and
`Expression.evaluate_substitution`.
-/

namespace DocumentQuery

variable {H : HostTypes}

/-! ## The first object that fails -/

namespace Registry

/-- Why an object has no encoding. -/
def error? (R : Registry H) (o : HostObject H) : Option EncodingError :=
  match R.encode o with
  | .ok _ => none
  | .error e => some e

/-- The error of the first object that has no encoding. -/
def firstError (R : Registry H) (os : List (HostObject H)) : Option EncodingError :=
  os.findSome? R.error?

theorem error?_eq_none_iff {R : Registry H} {o : HostObject H} :
    R.error? o = none ↔ ∃ v, R.encode o = .ok v := by
  unfold error?
  cases R.encode o <;> simp

theorem error?_eq_some_iff {R : Registry H} {o : HostObject H} {e : EncodingError} :
    R.error? o = some e ↔ R.encode o = .error e := by
  unfold error?
  cases R.encode o <;> simp

theorem firstError_append (R : Registry H) (os ps : List (HostObject H)) :
    R.firstError (os ++ ps) = (R.firstError os).or (R.firstError ps) :=
  List.findSome?_append

theorem firstError_eq_none_iff {R : Registry H} {os : List (HostObject H)} :
    R.firstError os = none ↔ ∀ o ∈ os, ∃ v, R.encode o = .ok v := by
  simp only [firstError, List.findSome?_eq_none_iff, error?_eq_none_iff]

theorem firstError_eq_some_iff {R : Registry H} {os : List (HostObject H)} {e : EncodingError} :
    R.firstError os = some e ↔ ∃ before o after, os = before ++ o :: after ∧
      (∀ b ∈ before, ∃ v, R.encode b = .ok v) ∧ R.encode o = .error e := by
  simp only [firstError, List.findSome?_eq_some_iff, error?_eq_none_iff, error?_eq_some_iff]
  constructor
  · rintro ⟨before, o, after, hos, ho, hb⟩
    exact ⟨before, o, after, hos, hb, ho⟩
  · rintro ⟨before, o, after, hos, hb, ho⟩
    exact ⟨before, o, after, hos, ho, hb⟩

end Registry

/-! ## Settling -/

namespace HostValue

mutual

/-- The host value with the encodings of its objects in their places. -/
def settle (R : Registry H) : HostValue H → HostValue H
  | .value v => .value v
  | .object o => match R.encode o with
    | .ok v => .value v
    | .error _ => .object o
  | .document entries => .document (settleEntries R entries)
  | .array items => .array (settleItems R items)

def settleEntries (R : Registry H) : List (String × HostValue H) → List (String × HostValue H)
  | [] => []
  | (name, x) :: rest => (name, settle R x) :: settleEntries R rest

def settleItems (R : Registry H) : List (HostValue H) → List (HostValue H)
  | [] => []
  | item :: rest => settle R item :: settleItems R rest

end

variable {R : Registry H}

mutual

theorem objects_settle : ∀ x : HostValue H,
    R.firstError x.objects = none → (x.settle R).objects = []
  | .value v, _ => rfl
  | .object o, h => by
    obtain ⟨v, hv⟩ := Registry.firstError_eq_none_iff.1 h o (by simp [objects])
    simp only [settle, hv, objects]
  | .document entries, h => by
    rw [settle, objects, objectsOfEntries_settle entries h]
  | .array items, h => by
    rw [settle, objects, objectsOfItems_settle items h]

theorem objectsOfEntries_settle : ∀ entries : List (String × HostValue H),
    R.firstError (objectsOfEntries entries) = none →
      objectsOfEntries (settleEntries R entries) = []
  | [], _ => rfl
  | (name, x) :: rest, h => by
    rw [objectsOfEntries, Registry.firstError_append, Option.or_eq_none_iff] at h
    rw [settleEntries, objectsOfEntries, objects_settle x h.1, objectsOfEntries_settle rest h.2,
      List.append_nil]

theorem objectsOfItems_settle : ∀ items : List (HostValue H),
    R.firstError (objectsOfItems items) = none → objectsOfItems (settleItems R items) = []
  | [], _ => rfl
  | item :: rest, h => by
    rw [objectsOfItems, Registry.firstError_append, Option.or_eq_none_iff] at h
    rw [settleItems, objectsOfItems, objects_settle item h.1, objectsOfItems_settle rest h.2,
      List.append_nil]

end

mutual

/-- **A host value whose objects all have encodings has one**, the same as when it is settled. -/
theorem encode_settle : ∀ x : HostValue H, R.firstError x.objects = none →
    ∃ v, x.encode R = .ok v ∧ (x.settle R).encode R = .ok v
  | .value v, _ => ⟨v, rfl, rfl⟩
  | .object o, h => by
    obtain ⟨v, hv⟩ := Registry.firstError_eq_none_iff.1 h o (by simp [objects])
    refine ⟨v, hv, ?_⟩
    simp only [settle, hv, encode]
  | .document entries, h => by
    obtain ⟨vs, hvs, hsettled⟩ := encodeEntries_settle entries h
    refine ⟨.document (.ofList vs), ?_, ?_⟩
    · rw [encode, hvs]; rfl
    · rw [settle, encode, hsettled]; rfl
  | .array items, h => by
    obtain ⟨vs, hvs, hsettled⟩ := encodeItems_settle items h
    refine ⟨.array vs, ?_, ?_⟩
    · rw [encode, hvs]; rfl
    · rw [settle, encode, hsettled]; rfl

theorem encodeEntries_settle : ∀ entries : List (String × HostValue H),
    R.firstError (objectsOfEntries entries) = none →
      ∃ vs, encodeEntries R entries = .ok vs ∧ encodeEntries R (settleEntries R entries) = .ok vs
  | [], _ => ⟨[], rfl, rfl⟩
  | (name, x) :: rest, h => by
    rw [objectsOfEntries, Registry.firstError_append, Option.or_eq_none_iff] at h
    obtain ⟨v, hv, hsettled⟩ := encode_settle x h.1
    obtain ⟨vs, hvs, hrest⟩ := encodeEntries_settle rest h.2
    refine ⟨(name, v) :: vs, ?_, ?_⟩
    · rw [encodeEntries, hv, hvs]; rfl
    · rw [settleEntries, encodeEntries, hsettled, hrest]; rfl

theorem encodeItems_settle : ∀ items : List (HostValue H),
    R.firstError (objectsOfItems items) = none →
      ∃ vs, encodeItems R items = .ok vs ∧ encodeItems R (settleItems R items) = .ok vs
  | [], _ => ⟨[], rfl, rfl⟩
  | item :: rest, h => by
    rw [objectsOfItems, Registry.firstError_append, Option.or_eq_none_iff] at h
    obtain ⟨v, hv, hsettled⟩ := encode_settle item h.1
    obtain ⟨vs, hvs, hrest⟩ := encodeItems_settle rest h.2
    refine ⟨v :: vs, ?_, ?_⟩
    · rw [encodeItems, hv, hvs]; rfl
    · rw [settleItems, encodeItems, hsettled, hrest]; rfl

end

mutual

/-- **A host value fails as the first of its objects that does.** -/
theorem encode_of_firstError {err : EncodingError} : ∀ x : HostValue H,
    R.firstError x.objects = some err → x.encode R = .error err
  | .value v, h => nomatch h
  | .object o, h => by
    rw [objects, Registry.firstError, List.findSome?_singleton] at h
    exact Registry.error?_eq_some_iff.1 h
  | .document entries, h => by
    rw [encode, encodeEntries_of_firstError entries h]; rfl
  | .array items, h => by
    rw [encode, encodeItems_of_firstError items h]; rfl

theorem encodeEntries_of_firstError {err : EncodingError} :
    ∀ entries : List (String × HostValue H),
      R.firstError (objectsOfEntries entries) = some err → encodeEntries R entries = .error err
  | [], h => nomatch h
  | (name, x) :: rest, h => by
    rw [objectsOfEntries, Registry.firstError_append, Option.or_eq_some_iff] at h
    rcases h with h | ⟨h, hrest⟩
    · rw [encodeEntries, encode_of_firstError x h]; rfl
    · obtain ⟨v, hv, -⟩ := encode_settle x h
      rw [encodeEntries, hv, encodeEntries_of_firstError rest hrest]; rfl

theorem encodeItems_of_firstError {err : EncodingError} : ∀ items : List (HostValue H),
    R.firstError (objectsOfItems items) = some err → encodeItems R items = .error err
  | [], h => nomatch h
  | item :: rest, h => by
    rw [objectsOfItems, Registry.firstError_append, Option.or_eq_some_iff] at h
    rcases h with h | ⟨h, hrest⟩
    · rw [encodeItems, encode_of_firstError item h]; rfl
    · obtain ⟨v, hv, -⟩ := encode_settle item h
      rw [encodeItems, hv, encodeItems_of_firstError rest hrest]; rfl

end

end HostValue

namespace HostDocument

variable {R : Registry H}

def settle (R : Registry H) (d : HostDocument H) : HostDocument H := HostValue.settleEntries R d

theorem encode_settle {d : HostDocument H} (h : R.firstError d.objects = none) :
    ∃ doc, d.encode R = .ok doc ∧ (d.settle R).encode R = .ok doc := by
  obtain ⟨vs, hvs, hsettled⟩ := HostValue.encodeEntries_settle d h
  refine ⟨.ofList vs, ?_, ?_⟩
  · rw [encode, hvs]; rfl
  · rw [settle, encode, hsettled]; rfl

theorem encode_of_firstError {d : HostDocument H} {err : EncodingError}
    (h : R.firstError d.objects = some err) : d.encode R = .error err := by
  rw [encode, HostValue.encodeEntries_of_firstError d h]; rfl

end HostDocument

namespace DocumentSource

variable {R : Registry H}

/-- The source with the encodings of its objects in their places. -/
def settle (R : Registry H) : DocumentSource H → DocumentSource H
  | .plain d => .plain d
  | .host d => .host (d.settle R)

theorem objects_settle {source : DocumentSource H} (h : R.firstError source.objects = none) :
    (source.settle R).objects = [] := by
  cases source with
  | plain d => rfl
  | host d => exact HostValue.objectsOfEntries_settle d h

theorem encode_settle {source : DocumentSource H} (h : R.firstError source.objects = none) :
    ∃ doc, source.encode R = .ok doc ∧ (source.settle R).encode R = .ok doc := by
  cases source with
  | plain d => exact ⟨d, rfl, rfl⟩
  | host d => exact HostDocument.encode_settle h

theorem encode_of_firstError {source : DocumentSource H} {err : EncodingError}
    (h : R.firstError source.objects = some err) : source.encode R = .error err := by
  cases source with
  | plain d => exact nomatch h
  | host d => exact HostDocument.encode_of_firstError h

end DocumentSource

namespace Expression

mutual

/-- The expression with the encodings of its objects in their places. -/
def settle (R : Registry H) : Expression H → Expression H
  | .literal s => .literal s
  | .array items => .array (settleItems R items)
  | .document source => .document (source.settle R)
  | .null => .null

def settleItems (R : Registry H) : List (Expression H) → List (Expression H)
  | [] => []
  | item :: rest => settle R item :: settleItems R rest

end

variable {R : Registry H}

mutual

theorem objects_settle : ∀ e : Expression H,
    R.firstError e.objects = none → (e.settle R).objects = []
  | .literal s, _ => rfl
  | .array items, h => by
    rw [settle, objects, objectsOfItems_settle items h]
  | .document source, h => DocumentSource.objects_settle h
  | .null, _ => rfl

theorem objectsOfItems_settle : ∀ items : List (Expression H),
    R.firstError (objectsOfItems items) = none → objectsOfItems (settleItems R items) = []
  | [], _ => rfl
  | item :: rest, h => by
    rw [objectsOfItems, Registry.firstError_append, Option.or_eq_none_iff] at h
    rw [settleItems, objectsOfItems, objects_settle item h.1, objectsOfItems_settle rest h.2,
      List.append_nil]

end

mutual

theorem evaluate_settle : ∀ e : Expression H, R.firstError e.objects = none →
    ∃ v, e.evaluate R = .ok v ∧ (e.settle R).evaluate R = .ok v
  | .literal s, _ => ⟨s.toValue, rfl, rfl⟩
  | .array items, h => by
    obtain ⟨vs, hvs, hsettled⟩ := evaluateItems_settle items h
    refine ⟨.array vs, ?_, ?_⟩
    · rw [evaluate, hvs]; rfl
    · rw [settle, evaluate, hsettled]; rfl
  | .document source, h => by
    obtain ⟨d, hd, hsettled⟩ := DocumentSource.encode_settle h
    refine ⟨.document (.singleton literalName (.document d)), ?_, ?_⟩
    · rw [evaluate, hd]
    · rw [settle, evaluate, hsettled]
  | .null, _ => ⟨.null, rfl, rfl⟩

theorem evaluateItems_settle : ∀ items : List (Expression H),
    R.firstError (objectsOfItems items) = none →
      ∃ vs, evaluateItems R items = .ok vs ∧ evaluateItems R (settleItems R items) = .ok vs
  | [], _ => ⟨[], rfl, rfl⟩
  | item :: rest, h => by
    rw [objectsOfItems, Registry.firstError_append, Option.or_eq_none_iff] at h
    obtain ⟨v, hv, hsettled⟩ := evaluate_settle item h.1
    obtain ⟨vs, hvs, hrest⟩ := evaluateItems_settle rest h.2
    refine ⟨v :: vs, ?_, ?_⟩
    · rw [evaluateItems, hv, hvs]; rfl
    · rw [settleItems, evaluateItems, hsettled, hrest]; rfl

end

mutual

theorem evaluate_of_firstError {err : EncodingError} : ∀ e : Expression H,
    R.firstError e.objects = some err → e.evaluate R = .error (.encoding err)
  | .literal s, h => nomatch h
  | .array items, h => by
    rw [evaluate, evaluateItems_of_firstError items h]; rfl
  | .document source, h => by
    rw [evaluate, DocumentSource.encode_of_firstError h]
  | .null, h => nomatch h

theorem evaluateItems_of_firstError {err : EncodingError} : ∀ items : List (Expression H),
    R.firstError (objectsOfItems items) = some err →
      evaluateItems R items = .error (.encoding err)
  | [], h => nomatch h
  | item :: rest, h => by
    rw [objectsOfItems, Registry.firstError_append, Option.or_eq_some_iff] at h
    rcases h with h | ⟨h, hrest⟩
    · rw [evaluateItems, evaluate_of_firstError item h]; rfl
    · obtain ⟨v, hv, -⟩ := evaluate_settle item h
      rw [evaluateItems, hv, evaluateItems_of_firstError rest hrest]; rfl

end

/-! ## The value of an expression -/

/-- **Evaluation is substitution of the host objects, and fails as the first of them that does.**
When every object has an encoding, the expression has a value, which is also that of the settled
expression under any registry whatsoever. Otherwise the error is that of the first object without
an encoding. The one-field document has the same error, or that value under its name. So the
registry matters only through the encodings of the objects. -/
theorem evaluate_substitution (R : Registry H) (e : Expression H) :
    ((∀ o ∈ e.objects, ∃ v, R.encode o = .ok v) →
      (e.settle R).objects = [] ∧ ∃ v, e.evaluate R = .ok v ∧
        (∀ R' : Registry H, (e.settle R).evaluate R' = .ok v) ∧
        ∀ name, e.toField name R = .ok (.singleton name v)) ∧
    ((¬ ∀ o ∈ e.objects, ∃ v, R.encode o = .ok v) →
      ∃ before o after err, e.objects = before ++ o :: after ∧
        (∀ b ∈ before, ∃ v, R.encode b = .ok v) ∧ R.encode o = .error err ∧
        e.evaluate R = .error (.encoding err) ∧
        ∀ name, e.toField name R = .error (.encoding err)) ∧
    ∀ R' : Registry H, (∀ o ∈ e.objects, R.encode o = R'.encode o) →
      e.evaluate R = e.evaluate R' ∧ ∀ name, e.toField name R = e.toField name R' := by
  refine ⟨?_, ?_, ?_⟩
  · intro h
    have hnone := Registry.firstError_eq_none_iff.2 h
    have hobjects := e.objects_settle hnone
    obtain ⟨v, hv, hsettled⟩ := e.evaluate_settle hnone
    refine ⟨hobjects, v, hv, ?_, ?_⟩
    · intro R'
      rw [← hsettled]
      -- Without objects, all registries encode its objects alike.
      refine evaluate_congr _ fun o ho => ?_
      rw [hobjects] at ho
      exact absurd ho List.not_mem_nil
    · intro name
      rw [toField, hv]; rfl
  · intro h
    obtain ⟨err, herr⟩ : ∃ err, R.firstError e.objects = some err :=
      Option.ne_none_iff_exists'.1 fun hnone => h (Registry.firstError_eq_none_iff.1 hnone)
    obtain ⟨before, o, after, hobjects, hbefore, ho⟩ := Registry.firstError_eq_some_iff.1 herr
    have he := e.evaluate_of_firstError herr
    refine ⟨before, o, after, err, hobjects, hbefore, ho, he, ?_⟩
    intro name
    rw [toField, he]; rfl
  · intro R' h
    exact ⟨e.evaluate_congr h, toField_congr h⟩

/-- Knows bytes only, and refuses them. -/
def refusingBytes : Registry (Sample.hostTypes fun _ => "u8") :=
  (EncoderTable.empty.register Sample.byteRefused).toRegistry

/-- Knows bytes only, as numbers. -/
def numberedBytes : Registry (Sample.hostTypes fun _ => "u8") :=
  (EncoderTable.empty.register Sample.byteNumber).toRegistry

/-- A document in which a byte gives way to null under the same name, after a null. -/
def overwrittenByte : Expression (Sample.hostTypes fun _ => "u8") :=
  .array [.null, ofHostDocument [("n", .object (Sample.byteObject 7)), ("n", .value .null)]]

/-- A document in which null gives way to a byte, after a null. -/
def lastByte : Expression (Sample.hostTypes fun _ => "u8") :=
  .array [.null, ofHostDocument [("n", .value .null), ("n", .object (Sample.byteObject 7))]]

/-- Its value where bytes are numbers. -/
def lastByteValue : Value :=
  .array [.null, .document (.singleton "$literal" (.document (.singleton "n" (.int 7))))]

/-- A byte that is overwritten is encoded all the same, and refused. One that is not gives a number,
and once it is settled it does so under every registry, also under one that refuses bytes. -/
theorem evaluate_overwrittenByte :
    overwrittenByte.evaluate refusingBytes =
      .error (.encoding (.refused "u8" "byte 7 refused")) ∧
    lastByte.evaluate numberedBytes = .ok lastByteValue ∧
    (∀ R', (lastByte.settle numberedBytes).evaluate R' = .ok lastByteValue) ∧
    ∀ name, lastByte.toField name numberedBytes = .ok (.singleton name lastByteValue) := by
  constructor
  · have hbyte : refusingBytes.encode (Sample.byteObject 7) =
        .error (.refused "u8" "byte 7 refused") := by
      rw [Registry.encode_eq]
      rfl
    have hobjects : overwrittenByte.objects = [Sample.byteObject 7] := rfl
    obtain ⟨before, o, after, err, hsplit, -, ho, he, -⟩ :=
      (evaluate_substitution refusingBytes overwrittenByte).2.1 fun hall => by
        obtain ⟨v, hv⟩ := hall (Sample.byteObject 7) (by simp [hobjects])
        exact nomatch hbyte.symm.trans hv
    rcases List.singleton_eq_append_iff.1 (hobjects.symm.trans hsplit) with
      ⟨-, hbytes⟩ | ⟨-, hnil⟩
    · obtain ⟨rfl, rfl⟩ := List.cons.inj hbytes
      rw [he, Except.error.inj (ho.symm.trans hbyte)]
    · exact nomatch hnil
  · have hbyte : numberedBytes.encode (Sample.byteObject 7) = .ok (.int 7) := by
      rw [Registry.encode_eq]
      rfl
    have hobjects : lastByte.objects = [Sample.byteObject 7] := rfl
    obtain ⟨-, v, hv, hsettled, hfield⟩ :=
      (evaluate_substitution numberedBytes lastByte).1 (by simp [hobjects, hbyte])
    have hvalue : lastByte.evaluate numberedBytes = .ok lastByteValue := by
      simp only [lastByte, ofHostDocument, evaluate, evaluateItems, DocumentSource.encode,
        HostDocument.encode, HostValue.encodeEntries, HostValue.encode, hbyte]
      rfl
    obtain rfl := Except.ok.inj (hv.symm.trans hvalue)
    exact ⟨hv, hsettled, hfield⟩

end Expression

end DocumentQuery
