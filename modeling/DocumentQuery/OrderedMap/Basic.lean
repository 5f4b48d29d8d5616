import DocumentQuery.OrderedMap.Slots

/-!
# Maps that keep the order of insertion

An `OrderedMap` has distinct keys, each with a value, in the order in which the keys first came.

**View.** `toList` gives the entries. A map is determined by them (`ext_toList`), and each
operation is described by what it does to the entries or to `get?`.

**Insertion.** A key that is there keeps its place and takes the new value; a new key goes to the
end. `exchange` also returns the value that was there.

Main results: `get?_insert`, `keys_insert`, `exchange_fst` and `ofList_toList`.
-/

namespace DocumentQuery

/-- A map with distinct keys in the order of their first insertion. -/
structure OrderedMap (κ α : Type) where
  keys : List κ
  slots : Slots κ α keys
  nodup : keys.Nodup

namespace OrderedMap

variable {κ α : Type}

def empty : OrderedMap κ α := ⟨[], .nil, .nil⟩

instance : EmptyCollection (OrderedMap κ α) := ⟨empty⟩

instance : Inhabited (OrderedMap κ α) := ⟨∅⟩

/-- The map with one entry. -/
def singleton (k : κ) (v : α) : OrderedMap κ α := ⟨[k], .cons k v .nil, by simp⟩

/-- The entries in order. -/
def toList (m : OrderedMap κ α) : List (κ × α) := m.slots.toList

def size (m : OrderedMap κ α) : Nat := m.keys.length

def isEmpty (m : OrderedMap κ α) : Bool := m.keys.isEmpty

def first? (m : OrderedMap κ α) : Option (κ × α) := m.toList.head?

/-- The entry of a map that has exactly one. -/
def single? (m : OrderedMap κ α) : Option (κ × α) :=
  match m.toList with
  | [entry] => some entry
  | _ => none

theorem ext_toList {m₁ m₂ : OrderedMap κ α} (h : m₁.toList = m₂.toList) : m₁ = m₂ := by
  obtain ⟨ks₁, s₁, n₁⟩ := m₁
  obtain ⟨ks₂, s₂, n₂⟩ := m₂
  obtain rfl : ks₁ = ks₂ := by simpa [toList] using congrArg (List.map Prod.fst) h
  obtain rfl : s₁ = s₂ := Slots.toList_injective h
  rfl

@[simp] theorem map_fst_toList (m : OrderedMap κ α) : m.toList.map Prod.fst = m.keys :=
  m.slots.map_fst_toList

@[simp] theorem toList_empty : (empty : OrderedMap κ α).toList = [] := rfl

@[simp] theorem length_toList (m : OrderedMap κ α) : m.toList.length = m.size := by
  rw [size, ← m.map_fst_toList, List.length_map]

theorem single?_eq_some_iff {m : OrderedMap κ α} {k : κ} {v : α} :
    m.single? = some (k, v) ↔ m = .singleton k v := by
  constructor
  · intro h
    apply ext_toList
    unfold single? at h
    split at h
    · rename_i entry hentry
      rw [hentry, Option.some.inj h]
      rfl
    · exact nomatch h
  · intro h
    rw [h]
    rfl

/-! ## Look-up and insertion -/

variable [DecidableEq κ]

def get? (m : OrderedMap κ α) (k : κ) : Option α := m.slots.get? k

def contains (m : OrderedMap κ α) (k : κ) : Bool := decide (k ∈ m.keys)

/-- Inserts an entry and returns the value that its key had before. -/
def exchange (m : OrderedMap κ α) (k : κ) (v : α) : Option α × OrderedMap κ α :=
  if h : k ∈ m.keys then
    let (old, slots) := m.slots.swap k v h
    (some old, ⟨m.keys, slots, m.nodup⟩)
  else
    (none, ⟨m.keys ++ [k], m.slots.snoc k v, List.nodup_append.2 ⟨m.nodup, by simp, by
      rintro a ha b hb rfl
      exact h (List.mem_singleton.1 hb ▸ ha)⟩⟩)

/-- Inserts an entry. A key that is there keeps its place. -/
def insert (m : OrderedMap κ α) (k : κ) (v : α) : OrderedMap κ α := (m.exchange k v).2

/-- Inserts entries one by one. -/
def insertAll (m : OrderedMap κ α) (entries : List (κ × α)) : OrderedMap κ α :=
  entries.foldl (fun m entry => m.insert entry.1 entry.2) m

/-- The map of a list of entries, in which keys may be repeated. -/
def ofList (entries : List (κ × α)) : OrderedMap κ α := empty.insertAll entries

/-- The first map with the entries of the second inserted. -/
def merge (m₁ m₂ : OrderedMap κ α) : OrderedMap κ α := m₁.insertAll m₂.toList

theorem get?_eq_none_iff {m : OrderedMap κ α} {k : κ} : m.get? k = none ↔ k ∉ m.keys :=
  Slots.get?_eq_none_iff

theorem get?_insert (m : OrderedMap κ α) (k k' : κ) (v : α) :
    (m.insert k v).get? k' = if k = k' then some v else m.get? k' := by
  unfold insert exchange
  split
  · exact Slots.get?_swap ..
  · exact Slots.get?_snoc _ ‹_› ..

theorem get?_eq_lookup (m : OrderedMap κ α) (k : κ) : m.get? k = m.toList.lookup k :=
  m.slots.get?_eq_lookup k

theorem get?_eq_some_iff {m : OrderedMap κ α} {k : κ} {v : α} :
    m.get? k = some v ↔ (k, v) ∈ m.toList :=
  Slots.get?_eq_some_iff m.nodup

theorem keys_insert (m : OrderedMap κ α) (k : κ) (v : α) :
    (m.insert k v).keys = if k ∈ m.keys then m.keys else m.keys ++ [k] := by
  unfold insert exchange
  split <;> simp_all

/-- Insertion returns what look-up would have found before it. -/
theorem exchange_fst (m : OrderedMap κ α) (k : κ) (v : α) : (m.exchange k v).1 = m.get? k := by
  unfold exchange
  split
  · exact Slots.some_swap_fst ..
  · exact (get?_eq_none_iff.2 ‹_›).symm

theorem toList_insert_of_notMem {m : OrderedMap κ α} {k : κ} (h : k ∉ m.keys) (v : α) :
    (m.insert k v).toList = m.toList ++ [(k, v)] := by
  rw [insert, exchange, dif_neg h]
  exact Slots.toList_snoc ..

theorem toList_insert_of_mem {m : OrderedMap κ α} {k : κ} (h : k ∈ m.keys) (v : α) :
    (m.insert k v).toList = m.toList.map fun entry => if entry.1 = k then (k, v) else entry := by
  rw [insert, exchange, dif_pos h]
  exact m.slots.toList_swap m.nodup h v

theorem insertAll_cons (m : OrderedMap κ α) (x : κ × α) (xs : List (κ × α)) :
    m.insertAll (x :: xs) = (m.insert x.1 x.2).insertAll xs :=
  rfl

theorem insertAll_append (m : OrderedMap κ α) (xs ys : List (κ × α)) :
    m.insertAll (xs ++ ys) = (m.insertAll xs).insertAll ys :=
  List.foldl_append

theorem toList_insertAll_of_nodup (m : OrderedMap κ α) (xs : List (κ × α))
    (h : (m.keys ++ xs.map Prod.fst).Nodup) : (m.insertAll xs).toList = m.toList ++ xs := by
  induction xs generalizing m with
  | nil => simp [insertAll]
  | cons x xs ih =>
    have hx : x.1 ∉ m.keys := fun hm => (List.nodup_append.1 h).2.2 _ hm _ (by simp) rfl
    have hk : (m.insert x.1 x.2).keys = m.keys ++ [x.1] := by simp [keys_insert, hx]
    rw [insertAll_cons, ih _ (by simpa [hk] using h), toList_insert_of_notMem hx, List.append_assoc]
    rfl

/-- A map is rebuilt from its entries. -/
@[simp] theorem ofList_toList (m : OrderedMap κ α) : ofList m.toList = m :=
  ext_toList <|
    (toList_insertAll_of_nodup empty m.toList (by simpa [empty] using m.nodup)).trans (by simp)

end OrderedMap

end DocumentQuery
