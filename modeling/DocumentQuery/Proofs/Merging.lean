import DocumentQuery.Proofs.Insertion
import DocumentQuery.Sample.Encoders

/-!
# Concatenation is merging

Inserting two runs one after the other gives the same map as inserting them apart and merging the
two maps, although the second map no longer has the entries that were replaced within its own run.

**Extensionality.** A map is determined by its keys in order and by look-up (`eq_of_get?`), and
after a merge both depend on the two maps alone (`get?_merge`, `keys_insertAll`).

**One step.** An insertion into the second map is an insertion into the merged one
(`merge_insert`). From this, merging a map after a run of insertions is inserting the run after
merging (`merge_insertAll`), and associativity is a case of it.

**Host documents.** The entries of one document are encoded before those of the other, so the first
failure of the two together is that of the first one, if it fails (`encodeEntries_append`).

Main results: `merge_insertAll`, `ofList_append` and `merge_of_concatenation`.
-/

namespace DocumentQuery

namespace OrderedMap

variable {κ α : Type} [DecidableEq κ]

/-! ## Keys and look-up -/

/-- **Maps with the same keys in the same order are equal when look-up agrees.** -/
theorem eq_of_get? {m n : OrderedMap κ α} (hkeys : m.keys = n.keys)
    (hget : ∀ k, m.get? k = n.get? k) : m = n := by
  have hm := firstPlaceLastValue_ofList m.toList
  rw [ofList_toList] at hm
  have hn : FirstPlaceLastValue m.toList n.toList := by
    constructor
    · rw [map_fst_toList, ← hkeys, ← m.map_fst_toList]
      exact hm.pairwise
    · intro k v
      rw [← get?_eq_some_iff, ← hget, get?_eq_some_iff]
      exact hm.mem_iff k v
  exact ext_toList (hm.unique hn)

theorem lastValue?_toList (m : OrderedMap κ α) (k : κ) : lastValue? k m.toList = m.get? k := by
  have h := get?_insertAll empty m.toList k
  rw [← ofList, ofList_toList] at h
  exact (h.trans Option.or_none).symm

/-- In a merged map the second one is looked up first. -/
theorem get?_merge (m n : OrderedMap κ α) (k : κ) :
    (m.merge n).get? k = (n.get? k).or (m.get? k) := by
  rw [merge, get?_insertAll, lastValue?_toList]

/-- The keys after a run depend on no value. -/
theorem keys_insertAll (m : OrderedMap κ α) (xs : List (κ × α)) :
    (m.insertAll xs).keys =
      (xs.map Prod.fst).foldl (fun ks k => if k ∈ ks then ks else ks ++ [k]) m.keys := by
  induction xs generalizing m with
  | nil => rfl
  | cons x rest ih =>
    rw [insertAll_cons, ih, keys_insert]
    rfl

/-! ## Merging after insertions -/

/-- **An insertion into the second map is one into the merged map.** -/
theorem merge_insert (m n : OrderedMap κ α) (k : κ) (v : α) :
    m.merge (n.insert k v) = (m.merge n).insert k v := by
  by_cases h : k ∈ n.keys
  · -- The key keeps its place in both maps, and only look-up shows the new value.
    have hkeys : (n.insert k v).toList.map Prod.fst = n.toList.map Prod.fst := by
      rw [map_fst_toList, keys_insert, if_pos h, map_fst_toList]
    have hmem : k ∈ (m.merge n).keys := by
      rw [merge, mem_keys_insertAll, map_fst_toList]
      exact Or.inr h
    apply eq_of_get?
    · rw [keys_insert, if_pos hmem, merge, merge, keys_insertAll, keys_insertAll, hkeys]
    · intro k'
      rw [get?_merge, get?_insert, get?_insert, get?_merge]
      split <;> rfl
  · rw [merge, toList_insert_of_notMem h, insertAll_append]
    rfl

/-- **A run of insertions into the second map is one into the merged map.** -/
theorem merge_insertAll (m n : OrderedMap κ α) (xs : List (κ × α)) :
    m.merge (n.insertAll xs) = (m.merge n).insertAll xs := by
  induction xs generalizing n with
  | nil => rfl
  | cons x xs ih =>
    rw [insertAll_cons, ih, merge_insert]
    rfl

/-- **The map of two runs is that of the first merged with that of the second.** -/
theorem ofList_append (xs ys : List (κ × α)) :
    ofList (xs ++ ys) = (ofList xs).merge (ofList ys) := by
  rw [ofList, insertAll_append, ofList, ofList, merge_insertAll]
  rfl

theorem merge_assoc (m₁ m₂ m₃ : OrderedMap κ α) :
    (m₁.merge m₂).merge m₃ = m₁.merge (m₂.merge m₃) :=
  (merge_insertAll m₁ m₂ m₃.toList).symm

theorem empty_merge (m : OrderedMap κ α) : empty.merge m = m := m.ofList_toList

theorem merge_empty (m : OrderedMap κ α) : m.merge empty = m := rfl

end OrderedMap

/-! ## Host documents -/

variable {H : HostTypes}

/-- **The entries of the first part are encoded first**, and a failure among them ends it. -/
theorem HostValue.encodeEntries_append (R : Registry H) (xs ys : List (String × HostValue H)) :
    encodeEntries R (xs ++ ys) = do
      let vs ← encodeEntries R xs
      let ws ← encodeEntries R ys
      return vs ++ ws := by
  induction xs with
  | nil =>
    rw [List.nil_append, encodeEntries]
    cases encodeEntries R ys <;> rfl
  | cons x xs ih =>
    rw [List.cons_append, encodeEntries, ih, encodeEntries]
    cases x.2.encode R with
    | error e => rfl
    | ok v =>
      cases encodeEntries R xs with
      | error e => rfl
      | ok vs => cases encodeEntries R ys <;> rfl

namespace HostDocument

theorem encode_append (R : Registry H) (h₁ h₂ : HostDocument H) :
    encode R (h₁ ++ h₂) = match h₁.encode R, h₂.encode R with
      | .ok d₁, .ok d₂ => .ok (d₁.merge d₂)
      | .error e, _ => .error e
      | .ok _, .error e => .error e := by
  rw [encode, encode, encode, HostValue.encodeEntries_append]
  cases HostValue.encodeEntries R h₁ with
  | error e => rfl
  | ok vs =>
    cases HostValue.encodeEntries R h₂ with
    | error e => rfl
    | ok ws => exact congrArg Except.ok (OrderedMap.ofList_append vs ws)

end HostDocument

/-- **Concatenation of entries is merging of documents.** The document of two runs of entries is
that of the first merged with that of the second, and merging is associative, with the empty
document as identity. A host document to which the entries of another one are appended is encoded
to the two documents merged, or fails as the first one does, or else as the second one. -/
theorem Document.merge_of_concatenation :
    (∀ xs ys : List (String × Value),
      OrderedMap.ofList (xs ++ ys) = (OrderedMap.ofList xs).merge (OrderedMap.ofList ys)) ∧
    (∀ d₁ d₂ d₃ : Document, (d₁.merge d₂).merge d₃ = d₁.merge (d₂.merge d₃)) ∧
    (∀ d : Document, OrderedMap.empty.merge d = d ∧ d.merge OrderedMap.empty = d) ∧
    ∀ (H : HostTypes) (R : Registry H) (h₁ h₂ : HostDocument H),
      (h₂.foldl (fun h entry => h.append entry.1 entry.2) h₁).encode R =
        match h₁.encode R, h₂.encode R with
        | .ok d₁, .ok d₂ => .ok (d₁.merge d₂)
        | .error e, _ => .error e
        | .ok _, .error e => .error e := by
  refine ⟨OrderedMap.ofList_append, OrderedMap.merge_assoc,
    fun d => ⟨d.empty_merge, d.merge_empty⟩, fun H R h₁ h₂ => ?_⟩
  have happend := HostDocument.foldl_append_eq id h₁ h₂
  rw [List.map_id] at happend
  rw [← HostDocument.encode_append]
  exact congrArg (HostDocument.encode R) happend

namespace HostDocument

/-- Knows texts and bytes. -/
def stockTable : Registry (Sample.hostTypes fun _ => "shop") :=
  ((EncoderTable.empty.register Sample.textString).register Sample.byteNumber).toRegistry

/-- What there is. -/
def stock : HostDocument (Sample.hostTypes fun _ => "shop") :=
  [("name", .object (Sample.textObject "tea")), ("count", .object (Sample.byteObject 3))]

/-- A new count, and a field of its own. -/
def delivery : HostDocument (Sample.hostTypes fun _ => "shop") :=
  [("count", .object (Sample.byteObject 5)), ("from", .object (Sample.textObject "Assam"))]

/-- A field whose type is not known. -/
def price : HostDocument (Sample.hostTypes fun _ => "shop") :=
  [("price", .object (Sample.Money.toObject ⟨1250, "EUR"⟩))]

/-- The delivery is merged into the stock, its count in the place of the old one. A price has no
encoding here, and neither has the stock with a price. -/
theorem encode_stockAndDelivery :
    (delivery.foldl (fun h entry => h.append entry.1 entry.2) stock).encode stockTable =
      .ok (OrderedMap.ofList
        [("name", .string "tea"), ("count", .int 5), ("from", .string "Assam")]) ∧
    (price.foldl (fun h entry => h.append entry.1 entry.2) stock).encode stockTable =
      .error (.noEncoder "shop") := by
  obtain ⟨-, -, -, hencode⟩ := Document.merge_of_concatenation
  have htext : ∀ s, stockTable.encode (Sample.textObject s) = .ok (.string s) := by
    intro s
    rw [Registry.encode_eq]
    rfl
  have hbyte : ∀ b, stockTable.encode (Sample.byteObject b) = .ok (.int (Int32.ofNat b.toNat)) := by
    intro b
    rw [Registry.encode_eq]
    rfl
  have hprice : stockTable.encode (Sample.Money.toObject ⟨1250, "EUR"⟩) =
      .error (.noEncoder "shop") := by
    rw [Registry.encode_eq]
    rfl
  have hstock : stock.encode stockTable =
      .ok (OrderedMap.ofList [("name", .string "tea"), ("count", .int 3)]) := by
    simp only [encode, stock, HostValue.encodeEntries, HostValue.encode, htext, hbyte]
    rfl
  have hdelivery : delivery.encode stockTable =
      .ok (OrderedMap.ofList [("count", .int 5), ("from", .string "Assam")]) := by
    simp only [encode, delivery, HostValue.encodeEntries, HostValue.encode, htext, hbyte]
    rfl
  have hfails : price.encode stockTable = .error (.noEncoder "shop") := by
    simp only [encode, price, HostValue.encodeEntries, HostValue.encode, hprice]
    rfl
  constructor
  · rw [hencode, hstock, hdelivery]
    rfl
  · rw [hencode, hstock, hfails]

end HostDocument

end DocumentQuery
