import DocumentQuery.Proofs.Merging
import DocumentQuery.Value.Equality

/-!
# When insertions commute

Two insertions leave the same map in either order, unless they compete: for the value under one
key, or for the first place after the entries that are there.

**Look-up.** Under different keys, look-up does not show which one was inserted first
(`get?_insert_comm`), and so only the places of the keys can tell.

**Places.** A key that is there keeps its place whatever is inserted around it, while two new keys
stand in the order of their insertions (`keys_insert_comm_iff`).

**Runs.** No insertion takes a key away, so entries that do not compete in a map do not compete
after others of them have been inserted (`Compatible.insert`). A run of such entries can therefore
be inserted in any order.

Main results: `insert_comm_iff`, `insertAll_perm` and `insertions_commute_iff`.
-/

namespace DocumentQuery

namespace OrderedMap

variable {κ α : Type} [DecidableEq κ] {m : OrderedMap κ α} {k l : κ} {v w : α}

/-! ## Two insertions under one key -/

theorem insert_inj : m.insert k v = m.insert k w ↔ v = w := by
  refine ⟨fun h => ?_, fun h => h ▸ rfl⟩
  have hget : (m.insert k v).get? k = (m.insert k w).get? k := by rw [h]
  rw [get?_insert, get?_insert, if_pos rfl, if_pos rfl] at hget
  exact Option.some.inj hget

/-- The second value takes the place of the first. -/
theorem insert_insert_self (m : OrderedMap κ α) (k : κ) (v w : α) :
    (m.insert k v).insert k w = m.insert k w := by
  have hmem : k ∈ (m.insert k v).keys := mem_keys_insert.2 (Or.inr rfl)
  apply eq_of_get?
  · rw [keys_insert, if_pos hmem, keys_insert, keys_insert]
  · intro k'
    rw [get?_insert, get?_insert, get?_insert]
    by_cases h : k = k'
    · rw [if_pos h, if_pos h]
    · rw [if_neg h, if_neg h, if_neg h]

/-! ## Two insertions under different keys -/

theorem get?_insert_comm (h : k ≠ l) (m : OrderedMap κ α) (v w : α) (k' : κ) :
    ((m.insert k v).insert l w).get? k' = ((m.insert l w).insert k v).get? k' := by
  rw [get?_insert, get?_insert, get?_insert, get?_insert]
  by_cases hl : l = k'
  · have hk : k ≠ k' := fun hk => h (hk.trans hl.symm)
    rw [if_pos hl, if_neg hk, if_pos hl]
  · rw [if_neg hl, if_neg hl]

/-- Whether a key is new does not depend on another one. -/
theorem keys_insert_insert_of_ne (h : k ≠ l) (m : OrderedMap κ α) (v w : α) :
    ((m.insert k v).insert l w).keys =
      if l ∈ m.keys then (m.insert k v).keys else (m.insert k v).keys ++ [l] := by
  have hmem : l ∈ (m.insert k v).keys ↔ l ∈ m.keys := mem_keys_insert.trans (or_iff_left h.symm)
  rw [keys_insert (m.insert k v)]
  exact if_congr hmem rfl rfl

/-- **Two keys stand in the same order if and only if one of them was there before.** -/
theorem keys_insert_comm_iff (h : k ≠ l) :
    ((m.insert k v).insert l w).keys = ((m.insert l w).insert k v).keys ↔
      k ∈ m.keys ∨ l ∈ m.keys := by
  rw [keys_insert_insert_of_ne h, keys_insert_insert_of_ne h.symm, keys_insert, keys_insert]
  by_cases hk : k ∈ m.keys
  · rw [if_pos hk, if_pos hk]
    exact iff_of_true rfl (Or.inl hk)
  · by_cases hl : l ∈ m.keys
    · rw [if_pos hl, if_pos hl]
      exact iff_of_true rfl (Or.inr hl)
    · rw [if_neg hl, if_neg hk, if_neg hk, if_neg hl, List.append_assoc, List.append_assoc]
      refine iff_of_false (fun hsame => h ?_) (not_or.2 ⟨hk, hl⟩)
      exact (List.cons.inj (List.append_cancel_left hsame)).1

/-! ## Insertions that do not compete -/

/-- The entries do not compete in the map: they are the same, or have different keys of which one at
least is there. -/
def Compatible (m : OrderedMap κ α) (x y : κ × α) : Prop :=
  x.1 = y.1 ∧ x.2 = y.2 ∨ x.1 ≠ y.1 ∧ (x.1 ∈ m.keys ∨ y.1 ∈ m.keys)

/-- **Two insertions commute if and only if they do not compete.** -/
theorem insert_comm_iff {x y : κ × α} :
    (m.insert x.1 x.2).insert y.1 y.2 = (m.insert y.1 y.2).insert x.1 x.2 ↔ m.Compatible x y := by
  by_cases h : x.1 = y.1
  · rw [Compatible, h, insert_insert_self, insert_insert_self, insert_inj, eq_comm]
    simp
  · rw [Compatible, ← keys_insert_comm_iff h]
    constructor
    · intro hsame
      exact Or.inr ⟨h, congrArg keys hsame⟩
    · rintro (⟨heq, -⟩ | ⟨-, hkeys⟩)
      · exact absurd heq h
      · exact eq_of_get? hkeys (get?_insert_comm h m x.2 y.2)

/-- No entries compete because of what is inserted. -/
theorem Compatible.insert {x y : κ × α} (h : m.Compatible x y) (k : κ) (v : α) :
    (m.insert k v).Compatible x y := by
  have hkept : ∀ {l}, l ∈ m.keys → l ∈ (m.insert k v).keys := fun hl =>
    mem_keys_insert.2 (Or.inl hl)
  exact h.imp_right fun ⟨hne, hmem⟩ => ⟨hne, hmem.imp hkept hkept⟩

/-- **Entries of which no two compete can be inserted in any order.** -/
theorem insertAll_perm {xs ys : List (κ × α)} (hperm : xs.Perm ys)
    (hcompatible : ∀ x ∈ xs, ∀ y ∈ xs, m.Compatible x y) : m.insertAll xs = m.insertAll ys := by
  -- The map is that of the entries which both runs have inserted already.
  induction hperm generalizing m with
  | nil => rfl
  | cons x hperm ih =>
    rw [insertAll_cons, insertAll_cons]
    apply ih
    intro y hy z hz
    exact (hcompatible y (.tail _ hy) z (.tail _ hz)).insert x.1 x.2
  | swap x y rest =>
    have hxy : m.Compatible y x := hcompatible y (.head _) x (.tail _ (.head _))
    rw [insertAll_cons, insertAll_cons, insertAll_cons, insertAll_cons, insert_comm_iff.2 hxy]
  | trans hfirst hsecond ihfirst ihsecond =>
    rw [ihfirst hcompatible]
    apply ihsecond
    intro x hx y hy
    exact hcompatible x (hfirst.mem_iff.2 hx) y (hfirst.mem_iff.2 hy)

end OrderedMap

/-- **Two insertions into a document commute exactly when they do not compete.** The documents that
two fields inserted in one order and in the other leave are equal if and only if the fields have one
name and equal values, or two names of which the document already has at least one. -/
theorem Document.insertions_commute_iff (d : Document) (name₁ name₂ : String) (v₁ v₂ : Value) :
    (Value.document ((d.insert name₁ v₁).insert name₂ v₂)).beq
        (.document ((d.insert name₂ v₂).insert name₁ v₁)) = true ↔
      name₁ = name₂ ∧ v₁.beq v₂ = true ∨
        name₁ ≠ name₂ ∧ (d.contains name₁ = true ∨ d.contains name₂ = true) := by
  rw [Value.beq_iff_eq, Value.beq_iff_eq, Value.document.injEq, OrderedMap.contains,
    OrderedMap.contains, decide_eq_true_iff, decide_eq_true_iff]
  exact OrderedMap.insert_comm_iff (x := (name₁, v₁)) (y := (name₂, v₂))

end DocumentQuery
