import DocumentQuery.Proofs.Insertion
import DocumentQuery.Proofs.RegistryLeaves
import DocumentQuery.Sample.Encoders

/-!
# A chain of tables is one table

Tables of encoders that are consulted one after the other give the same answers as one table, into
which everything was put that went into them, beginning with the last.

**Two priorities.** Within a table the encoder that was put in last counts, along a chain the first
table that has one. Both come down to the first encoder in some order, and reading the steps
backwards turns one order into the other (`lastEncoder?_merged`).

**What counts.** For each type, the answer of a chain is the last encoder in the first table that
has one. Nothing else matters, neither what it shadows nor in which order different types came.

Main results: `get?_run`, `lookup_chain` and `chain_eq_merged`.
-/

namespace DocumentQuery

variable {H : HostTypes}

/-- A step in building a table. -/
inductive TableStep (H : HostTypes) where
  /-- Puts an encoder under its own type. -/
  | register (e : Encoder H)
  /-- Puts an encoder under any type. -/
  | insert (c : H.Code) (e : Encoder H)

namespace TableStep

def apply (t : EncoderTable H) : TableStep H → EncoderTable H
  | .register e => t.register e
  | .insert c e => t.insert c e

/-- The type and the encoder that the step puts under it. -/
def entry : TableStep H → H.Code × Encoder H
  | .register e => (e.type, e)
  | .insert c e => (c, e)

theorem apply_eq_insert (t : EncoderTable H) (step : TableStep H) :
    step.apply t = t.insert step.entry.1 step.entry.2 := by
  cases step <;> rfl

/-- The encoder that the step puts under a type. -/
def encoderFor? (c : H.Code) (step : TableStep H) : Option (Encoder H) :=
  if step.entry.1 = c then some step.entry.2 else none

end TableStep

namespace EncoderTable

/-- The table after some steps. -/
def run (t : EncoderTable H) (steps : List (TableStep H)) : EncoderTable H :=
  steps.foldl TableStep.apply t

/-- The encoder that was last put under a type. -/
def lastEncoder? (c : H.Code) (steps : List (TableStep H)) : Option (Encoder H) :=
  steps.reverse.findSome? (TableStep.encoderFor? c)

/-- The answer for a type with this encoder, if any. -/
def answer (c : H.Code) : Option (Encoder H) → LookupResult H
  | some e => .ok e
  | none => .error (.noEncoder (H.name c))

/-! ## One table -/

theorem get?_apply (t : EncoderTable H) (step : TableStep H) (c : H.Code) :
    (step.apply t).encoders.get? c = (step.encoderFor? c).or (t.encoders.get? c) := by
  rw [TableStep.apply_eq_insert, insert, OrderedMap.get?_insert, TableStep.encoderFor?]
  by_cases h : step.entry.1 = c <;> simp [h]

theorem encoders_run (t : EncoderTable H) (steps : List (TableStep H)) :
    (t.run steps).encoders = t.encoders.insertAll (steps.map TableStep.entry) := by
  induction steps generalizing t with
  | nil => rfl
  | cons step rest ih =>
    rw [run, List.foldl_cons, ← run, ih, TableStep.apply_eq_insert]
    rfl

theorem lastEncoder?_eq_lastValue? (c : H.Code) (steps : List (TableStep H)) :
    lastEncoder? c steps = OrderedMap.lastValue? c (steps.map TableStep.entry) := by
  rw [OrderedMap.lastValue?, ← List.map_reverse, List.findSome?_map]
  rfl

theorem lastEncoder?_append (c : H.Code) (xs ys : List (TableStep H)) :
    lastEncoder? c (xs ++ ys) = (lastEncoder? c ys).or (lastEncoder? c xs) := by
  simp only [lastEncoder?_eq_lastValue?, List.map_append, OrderedMap.lastValue?_append]

/-- **In a table the last encoder counts**, or else the one that was there before. -/
theorem get?_run (t : EncoderTable H) (steps : List (TableStep H)) (c : H.Code) :
    (t.run steps).encoders.get? c = (lastEncoder? c steps).or (t.encoders.get? c) := by
  rw [encoders_run, OrderedMap.get?_insertAll, lastEncoder?_eq_lastValue?]

theorem lookup_run (steps : List (TableStep H)) (c : H.Code) :
    (empty.run steps).lookup c = answer c (lastEncoder? c steps) := by
  have hget : (empty.run steps).encoders.get? c = lastEncoder? c steps := by
    rw [get?_run]
    exact Option.or_none
  rw [lookup, hget]
  cases lastEncoder? c steps <;> rfl

/-! ## A chain of tables -/

/-- The chain of the tables that some runs of steps build. -/
def chain (runs : List (List (TableStep H))) : Registry H :=
  .chain (runs.map fun steps => (empty.run steps).toRegistry)

/-- The table that all the steps build, those of the last run first. -/
def merged (runs : List (List (TableStep H))) : EncoderTable H := empty.run runs.reverse.flatten

theorem orNext_answer (c : H.Code) (a b : Option (Encoder H)) :
    Registry.orNext (answer c a) (answer c b) = answer c (a.or b) := by
  cases a <;> rfl

/-- **Along a chain the first table counts** that has an encoder. -/
theorem lookup_chain (runs : List (List (TableStep H))) (c : H.Code) :
    (chain runs).lookup c = answer c (runs.findSome? (lastEncoder? c)) := by
  show Registry.lookupFirst c _ = _
  induction runs with
  | nil => rfl
  | cons steps rest ih =>
    have htable : (empty.run steps).toRegistry.lookup c = answer c (lastEncoder? c steps) :=
      lookup_run steps c
    rw [List.map_cons, Registry.lookupFirst_cons, htable, ih, orNext_answer, List.findSome?_cons]
    cases lastEncoder? c steps <;> rfl

theorem lastEncoder?_merged (runs : List (List (TableStep H))) (c : H.Code) :
    lastEncoder? c runs.reverse.flatten = runs.findSome? (lastEncoder? c) := by
  induction runs with
  | nil => rfl
  | cons steps rest ih =>
    rw [List.reverse_cons, List.flatten_append, List.flatten_singleton, lastEncoder?_append, ih,
      List.findSome?_cons]
    cases lastEncoder? c steps <;> rfl

theorem lookup_merged (runs : List (List (TableStep H))) (c : H.Code) :
    (merged runs).toRegistry.lookup c = answer c (runs.findSome? (lastEncoder? c)) := by
  rw [← lastEncoder?_merged]
  exact lookup_run _ c

/-- **A chain of tables is the merged table.** Both answer alike for every type, namely with the
last encoder in the first table that has one, and so objects, host values, host documents and
expressions have the same outcomes. Two chains that agree in these encoders have the same outcomes
as well. -/
theorem chain_eq_merged (runs : List (List (TableStep H))) :
    (∀ c, (chain runs).lookup c = (merged runs).toRegistry.lookup c ∧
      (chain runs).lookup c = answer c (runs.findSome? (lastEncoder? c))) ∧
    (∀ o : HostObject H, (chain runs).encode o = (merged runs).toRegistry.encode o) ∧
    (∀ x : HostValue H, x.encode (chain runs) = x.encode (merged runs).toRegistry) ∧
    (∀ d : HostDocument H, d.encode (chain runs) = d.encode (merged runs).toRegistry) ∧
    (∀ e : Expression H, e.evaluate (chain runs) = e.evaluate (merged runs).toRegistry ∧
      ∀ name, e.toField name (chain runs) = e.toField name (merged runs).toRegistry) ∧
    ∀ runs' : List (List (TableStep H)),
      (∀ c, runs.findSome? (lastEncoder? c) = runs'.findSome? (lastEncoder? c)) →
        ∀ e : Expression H, e.evaluate (chain runs) = e.evaluate (chain runs') := by
  have hlookup : ∀ c, (chain runs).lookup c = (merged runs).toRegistry.lookup c := by
    intro c
    rw [lookup_chain, lookup_merged]
  have hencode := Registry.encode_congr hlookup
  refine ⟨?_, hencode, ?_, ?_, ?_, ?_⟩
  · intro c
    exact ⟨hlookup c, lookup_chain runs c⟩
  · intro x
    exact x.encode_congr fun o _ => hencode o
  · intro d
    exact d.encode_congr fun o _ => hencode o
  · intro e
    exact ⟨e.evaluate_congr fun o _ => hencode o, Expression.toField_congr fun o _ => hencode o⟩
  · intro runs' hsame e
    have hanswers : ∀ c, (chain runs).lookup c = (chain runs').lookup c := by
      intro c
      rw [lookup_chain, lookup_chain, hsame]
    exact e.evaluate_congr fun o _ => Registry.encode_congr hanswers o

/-- Money as a text in the first table, where it was known otherwise before, and again in the
second. -/
def shadowedMoney : List (List (TableStep (Sample.hostTypes fun _ => "shop"))) :=
  [[.register Sample.moneyFields, .register Sample.moneyText, .register Sample.pointPair],
    [.insert Sample.Kind.byte Sample.byteRefused, .register Sample.moneyFields]]

/-- The same answers from one table. -/
def textMoney : List (List (TableStep (Sample.hostTypes fun _ => "shop"))) :=
  [[.register Sample.byteRefused, .register Sample.pointPair, .register Sample.moneyText]]

/-- A document with a price. -/
def priced : Expression (Sample.hostTypes fun _ => "shop") :=
  .ofHostDocument [("price", .object (Sample.Money.toObject ⟨1250, "EUR"⟩))]

/-- The encoders that are shadowed, and the order of the others, do not show. The price is a text
either way. -/
theorem evaluate_shadowedMoney :
    priced.evaluate (chain shadowedMoney) = priced.evaluate (chain textMoney) ∧
    priced.evaluate (chain textMoney) = .ok (.document (.singleton "$literal"
      (.document (.singleton "price" (.string "12.50 EUR"))))) := by
  constructor
  · apply (chain_eq_merged shadowedMoney).2.2.2.2.2 textMoney
    intro c
    cases c <;> rfl
  · have htext : String.ofList (Text.digits 12 ++ '.' :: Text.padded 2 50 ++
        ' ' :: "EUR".toList) = "12.50 EUR" := by decide +kernel
    have hprice : (chain textMoney).encode (Sample.Money.toObject ⟨1250, "EUR"⟩) =
        .ok (.string "12.50 EUR") := by
      rw [Registry.encode_eq, ← htext]
      rfl
    rw [priced, Expression.ofHostDocument, Expression.evaluate, DocumentSource.encode,
      HostDocument.encode, HostValue.encodeEntries, HostValue.encode, hprice]
    rfl

end EncoderTable

end DocumentQuery
