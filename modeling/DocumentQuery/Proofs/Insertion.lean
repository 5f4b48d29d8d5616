import DocumentQuery.Encoding.HostDocument
import Mathlib.Data.List.Basic
import Mathlib.Data.List.Induction

/-!
# First place, last value

What a run of insertions leaves in a map: each key stands where it came first and holds the value
that came last.

**One insertion.** A key that is there keeps its place and takes the new value, a new key goes to
the end, and nothing else changes (`toList_insert`). The value that is given back is the one that
look-up would have found.

**A run.** Keys are told apart by where they first come in the run (`FirstBefore`), values by what
follows them (`IsLast`). The entries with these two properties are determined by the run
(`FirstPlaceLastValue.unique`), and inserting leaves them (`firstPlaceLastValue_ofList`).

**Documents.** Insertion, collection and the encoding of plain values come to the same document,
and all that a document shows is read off its entries.

Main results: `toList_insert`, `firstPlaceLastValue_iff` and `insertion_run`.
-/

namespace DocumentQuery

namespace OrderedMap

variable {κ α : Type} [DecidableEq κ]

/-! ## One insertion -/

/-- **An insertion changes the entry of its key**, or adds one at the end. -/
theorem toList_insert (m : OrderedMap κ α) (k : κ) (v : α) :
    (m.insert k v).toList =
      if k ∈ m.keys then m.toList.map fun entry => if entry.1 = k then (k, v) else entry
      else m.toList ++ [(k, v)] := by
  by_cases h : k ∈ m.keys
  · rw [if_pos h, toList_insert_of_mem h]
  · rw [if_neg h, toList_insert_of_notMem h]

theorem mem_keys_insert {m : OrderedMap κ α} {k k' : κ} {v : α} :
    k' ∈ (m.insert k v).keys ↔ k' ∈ m.keys ∨ k' = k := by
  rw [keys_insert]
  by_cases h : k ∈ m.keys
  · rw [if_pos h]
    exact ⟨Or.inl, fun hk => hk.elim id fun hk => hk ▸ h⟩
  · rw [if_neg h, List.mem_append, List.mem_singleton]

/-! ## What a run says of a key -/

/-- The first key comes in the run before the second one does. -/
def FirstBefore (xs : List (κ × α)) (k l : κ) : Prop :=
  (xs.map Prod.fst).idxOf k < (xs.map Prod.fst).idxOf l

/-- The value comes under the key, and no other one after it. -/
def IsLast (xs : List (κ × α)) (k : κ) (v : α) : Prop :=
  ∃ before after, xs = before ++ (k, v) :: after ∧ k ∉ after.map Prod.fst

/-- The value of an entry that has the key. -/
def valueFor? (k : κ) (entry : κ × α) : Option α := if entry.1 = k then some entry.2 else none

/-- The value that comes last under a key. -/
def lastValue? (k : κ) (xs : List (κ × α)) : Option α := xs.reverse.findSome? (valueFor? k)

theorem valueFor?_eq_some_iff {k : κ} {v : α} {entry : κ × α} :
    valueFor? k entry = some v ↔ entry = (k, v) := by
  unfold valueFor?
  split <;> simp_all [Prod.ext_iff]

theorem valueFor?_eq_none_iff {k : κ} {entry : κ × α} : valueFor? k entry = none ↔ k ≠ entry.1 := by
  unfold valueFor?
  split <;> simp_all [eq_comm]

theorem lastValue?_append (k : κ) (xs ys : List (κ × α)) :
    lastValue? k (xs ++ ys) = (lastValue? k ys).or (lastValue? k xs) := by
  simp [lastValue?, List.findSome?_append]

theorem lastValue?_eq_some_iff {xs : List (κ × α)} {k : κ} {v : α} :
    lastValue? k xs = some v ↔ IsLast xs k v := by
  have hfresh : ∀ ys : List (κ × α), (∀ entry ∈ ys, k ≠ entry.1) ↔ k ∉ ys.map Prod.fst := by
    intro ys
    simp only [List.mem_map, not_exists, not_and]
    exact forall₂_congr fun entry _ => ne_comm
  simp only [lastValue?, List.findSome?_eq_some_iff, valueFor?_eq_some_iff, valueFor?_eq_none_iff,
    hfresh]
  -- The run backwards: what comes after in it stands before.
  constructor
  · rintro ⟨after, _, before, hxs, rfl, hafter⟩
    refine ⟨before.reverse, after.reverse, ?_, ?_⟩
    · rw [← List.reverse_reverse xs, hxs]
      simp
    · rwa [List.map_reverse, List.mem_reverse]
  · rintro ⟨before, after, rfl, hafter⟩
    refine ⟨after.reverse, _, before.reverse, by simp, rfl, ?_⟩
    rwa [List.map_reverse, List.mem_reverse]

/-! ## A run of insertions -/

theorem ofList_concat (xs : List (κ × α)) (k : κ) (v : α) :
    ofList (xs ++ [(k, v)]) = (ofList xs).insert k v :=
  insertAll_append empty xs [(k, v)]

/-- **A run leaves the value that came last**, or else the one that was there before. -/
theorem get?_insertAll (m : OrderedMap κ α) (xs : List (κ × α)) (k : κ) :
    (m.insertAll xs).get? k = (lastValue? k xs).or (m.get? k) := by
  induction xs generalizing m with
  | nil => rfl
  | cons x rest ih =>
    have hlast : lastValue? k (x :: rest) = (lastValue? k rest).or (lastValue? k [x]) :=
      lastValue?_append k [x] rest
    rw [insertAll_cons, ih, get?_insert, hlast, Option.or_assoc]
    by_cases h : x.1 = k <;> simp [h, lastValue?, valueFor?]

theorem mem_keys_insertAll {m : OrderedMap κ α} {xs : List (κ × α)} {k : κ} :
    k ∈ (m.insertAll xs).keys ↔ k ∈ m.keys ∨ k ∈ xs.map Prod.fst := by
  induction xs generalizing m with
  | nil => simp [insertAll]
  | cons x rest ih =>
    rw [insertAll_cons, ih, mem_keys_insert, or_assoc, List.map_cons, List.mem_cons]

theorem mem_keys_ofList {xs : List (κ × α)} {k : κ} :
    k ∈ (ofList xs).keys ↔ k ∈ xs.map Prod.fst :=
  mem_keys_insertAll.trans (or_iff_right List.not_mem_nil)

/-- **A run leaves the keys in the order in which they first came.** -/
theorem pairwise_keys_ofList (xs : List (κ × α)) :
    (ofList xs).keys.Pairwise (FirstBefore xs) := by
  induction xs using List.reverseRecOn with
  | nil => exact .nil
  | append_singleton xs x ih =>
    -- What comes later does not change where a key first came.
    have hsame : ∀ k ∈ (ofList xs).keys,
        ((xs ++ [x]).map Prod.fst).idxOf k = (xs.map Prod.fst).idxOf k := by
      intro k hk
      rw [List.map_append, List.idxOf_append_of_mem (mem_keys_ofList.1 hk)]
    have hbefore : (ofList xs).keys.Pairwise (FirstBefore (xs ++ [x])) := by
      apply ih.imp_of_mem
      intro k l hk hl hkl
      rw [FirstBefore, hsame k hk, hsame l hl]
      exact hkl
    rw [ofList_concat, keys_insert]
    by_cases hx : x.1 ∈ (ofList xs).keys
    · rwa [if_pos hx]
    · rw [if_neg hx, List.pairwise_append]
      refine ⟨hbefore, List.pairwise_singleton _ _, fun k hk l hl => ?_⟩
      obtain rfl := List.mem_singleton.1 hl
      rw [FirstBefore, hsame k hk, List.map_append,
        List.idxOf_append_of_notMem (mt mem_keys_ofList.2 hx)]
      exact Nat.lt_add_right _ (List.idxOf_lt_length_of_mem (mem_keys_ofList.1 hk))

/-- The entries hold the keys of the run in the order in which they first came, each with the value
that came last. -/
structure FirstPlaceLastValue (xs entries : List (κ × α)) : Prop where
  pairwise : (entries.map Prod.fst).Pairwise (FirstBefore xs)
  mem_iff : ∀ k v, (k, v) ∈ entries ↔ IsLast xs k v

theorem firstPlaceLastValue_ofList (xs : List (κ × α)) :
    FirstPlaceLastValue xs (ofList xs).toList where
  pairwise := by
    rw [map_fst_toList]
    exact pairwise_keys_ofList xs
  mem_iff k v := by
    rw [← get?_eq_some_iff, ofList, get?_insertAll, ← lastValue?_eq_some_iff]
    exact iff_of_eq (congrArg (· = some v) Option.or_none)

theorem FirstPlaceLastValue.unique {xs entries entries' : List (κ × α)}
    (h : FirstPlaceLastValue xs entries) (h' : FirstPlaceLastValue xs entries') :
    entries = entries' := by
  have hpairwise := List.pairwise_map.1 h.pairwise
  have hpairwise' := List.pairwise_map.1 h'.pairwise
  have hne : ∀ {a b : κ × α}, FirstBefore xs a.1 b.1 → a ≠ b := by
    rintro a b hab rfl
    exact Nat.lt_irrefl _ hab
  have hperm : entries.Perm entries' :=
    (List.perm_ext_iff_of_nodup (hpairwise.imp hne) (hpairwise'.imp hne)).2 fun entry =>
      (h.mem_iff entry.1 entry.2).trans (h'.mem_iff entry.1 entry.2).symm
  exact hperm.eq_of_pairwise (fun _ _ _ _ hab hba => absurd hab (Nat.lt_asymm hba))
    hpairwise hpairwise'

/-- **The entries that a run leaves are the ones with first places and last values.** -/
theorem firstPlaceLastValue_iff {xs entries : List (κ × α)} :
    FirstPlaceLastValue xs entries ↔ entries = (ofList xs).toList := by
  constructor
  · intro h
    exact h.unique (firstPlaceLastValue_ofList xs)
  · rintro rfl
    exact firstPlaceLastValue_ofList xs

/-! ## What the insertions give back -/

/-- Inserts entries one by one, and lists what each insertion gives back. -/
def exchangeAll (m : OrderedMap κ α) : List (κ × α) → List (Option α) × OrderedMap κ α
  | [] => ([], m)
  | (k, v) :: rest =>
    let (old, next) := m.exchange k v
    let (olds, last) := next.exchangeAll rest
    (old :: olds, last)

theorem exchangeAll_snd (m : OrderedMap κ α) (xs : List (κ × α)) :
    (m.exchangeAll xs).2 = m.insertAll xs := by
  induction xs generalizing m with
  | nil => rfl
  | cons x rest ih => exact ih (m.insert x.1 x.2)

/-- **Each insertion gives back what look-up finds just before it.** -/
theorem getElem?_exchangeAll (m : OrderedMap κ α) (before after : List (κ × α)) (k : κ) (v : α) :
    (m.exchangeAll (before ++ (k, v) :: after)).1[before.length]? =
      some ((m.insertAll before).get? k) := by
  induction before generalizing m with
  | nil => exact congrArg some (m.exchange_fst k v)
  | cons x before ih => exact ih (m.insert x.1 x.2)

end OrderedMap

/-! ## Documents -/

variable {H : HostTypes}

namespace HostDocument

/-- The host document to which some values are appended one by one. -/
def ofValues (xs : List (String × Value)) : HostDocument H :=
  xs.foldl (fun d entry => d.append entry.1 (.value entry.2)) []

/-- Entries that are appended one by one come after the others, in order. -/
theorem foldl_append_eq {α : Type} (entry : α → String × HostValue H) (d : HostDocument H)
    (xs : List α) :
    xs.foldl (fun d x => d.append (entry x).1 (entry x).2) d = d ++ xs.map entry := by
  induction xs generalizing d with
  | nil => exact (List.append_nil d).symm
  | cons x rest ih =>
    rw [List.foldl_cons, ih, append, List.append_assoc, List.map_cons, List.singleton_append]

theorem ofValues_eq_map (xs : List (String × Value)) :
    (ofValues xs : HostDocument H) = xs.map fun entry => (entry.1, .value entry.2) :=
  foldl_append_eq (fun entry : String × Value => (entry.1, .value entry.2)) [] xs

/-- Plain values need no encoder. -/
theorem encode_ofValues (R : Registry H) (xs : List (String × Value)) :
    (ofValues xs).encode R = .ok (OrderedMap.ofList xs) := by
  have hentries : HostValue.encodeEntries R (ofValues xs) = .ok xs := by
    rw [ofValues_eq_map]
    induction xs with
    | nil => rfl
    | cons x rest ih => rw [List.map_cons, HostValue.encodeEntries, HostValue.encode, ih]; rfl
  rw [encode, hentries]
  rfl

end HostDocument

namespace Document

/-- All that a document shows of its entries. -/
structure Shows (d : Document) (entries : List (String × Value)) : Prop where
  toList : d.toList = entries
  keys : d.keys = entries.map Prod.fst
  size : d.size = entries.length
  isEmpty : d.isEmpty = entries.isEmpty
  first? : d.first? = entries.head?
  get? : ∀ name, d.get? name = entries.lookup name
  getString? : ∀ name, d.getString? name = (entries.lookup name).bind Value.string?
  contains : ∀ name, d.contains name = (entries.lookup name).isSome

theorem shows_toList (d : Document) : d.Shows d.toList where
  toList := rfl
  keys := d.map_fst_toList.symm
  size := d.length_toList.symm
  isEmpty := by
    rw [OrderedMap.isEmpty, ← d.map_fst_toList, List.isEmpty_map]
  first? := rfl
  get? := d.get?_eq_lookup
  getString? name := by rw [getString?, d.get?_eq_lookup]
  contains name := by
    rw [← d.get?_eq_lookup, OrderedMap.contains, Bool.eq_iff_iff, decide_eq_true_iff,
      Option.isSome_iff_ne_none, ne_eq, OrderedMap.get?_eq_none_iff, Classical.not_not]

/-- **A document is what was inserted, with first places and last values.** Inserting entries one
by one, with or without what is given back, collecting them, and encoding them as plain values all
give the same document. Its names are distinct, its entries are the ones with first places and last
values, and these are all that it shows. Each insertion of a run gives back what look-up finds just
before, which is nothing if the name is new, and changes no place and no other entry. -/
theorem insertion_run (xs : List (String × Value)) :
    ((OrderedMap.empty.exchangeAll xs).2 = OrderedMap.ofList xs ∧
      xs.foldl (fun d entry => d.insert entry.1 entry.2) OrderedMap.empty = OrderedMap.ofList xs ∧
      ∀ (H : HostTypes) (R : Registry H),
        (HostDocument.ofValues xs).encode R = .ok (OrderedMap.ofList xs)) ∧
    ((OrderedMap.ofList xs).keys.Nodup ∧
      ∃ entries, Shows (OrderedMap.ofList xs) entries ∧
        ∀ entries', OrderedMap.FirstPlaceLastValue xs entries' ↔ entries' = entries) ∧
    ∀ before name v after, xs = before ++ (name, v) :: after →
      let d := OrderedMap.ofList before
      (OrderedMap.empty.exchangeAll xs).1[before.length]? = some (d.get? name) ∧
      (d.get? name = none ↔ name ∉ d.keys) ∧
      (OrderedMap.ofList (before ++ [(name, v)])).toList =
        if name ∈ d.keys then
          d.toList.map fun entry => if entry.1 = name then (name, v) else entry
        else d.toList ++ [(name, v)] := by
  refine ⟨⟨OrderedMap.exchangeAll_snd _ xs, rfl, fun H R => HostDocument.encode_ofValues R xs⟩,
    ⟨(OrderedMap.ofList xs).nodup, _, shows_toList _,
      fun _ => OrderedMap.firstPlaceLastValue_iff⟩, ?_⟩
  rintro before name v after rfl
  refine ⟨OrderedMap.getElem?_exchangeAll _ before after name v, OrderedMap.get?_eq_none_iff, ?_⟩
  rw [OrderedMap.ofList_concat, OrderedMap.toList_insert]

/-- Two fields, the first of which is inserted again. -/
def replacing : List (String × Value) := [("a", .int 1), ("b", .int 2), ("a", .string "replaced")]

/-- The field that is inserted again keeps its place, and its old value is given back. -/
theorem insertion_run_replacing :
    replacing = [("a", .int 1), ("b", .int 2)] ++ ("a", .string "replaced") :: [] ∧
      (OrderedMap.empty.exchangeAll replacing).1[2]? = some (some (.int 1)) ∧
      (OrderedMap.ofList replacing).toList = [("a", .string "replaced"), ("b", .int 2)] := by
  obtain ⟨hback, -, hentries⟩ :=
    (insertion_run replacing).2.2 [("a", .int 1), ("b", .int 2)] "a" (.string "replaced") [] rfl
  exact ⟨rfl, hback, hentries⟩

end Document

end DocumentQuery
