import DocumentQuery.Json.Basic

/-!
# JSON trees and what they hold

A JSON tree is a leaf, an array of trees or an object of trees. What is shown of leaves can be shown
of all trees, with arrays and objects from what is in them (`Json.induction`).

**Depth.** `j.Holds k` says that the tree `k` is `j` itself or stands somewhere in it, at any depth,
among the items of an array or the values of an object.

Main results: `Json.induction`, `holds_array` and `holds_object`.
-/

namespace DocumentQuery

namespace Json

/-- Neither an array nor an object. -/
def isLeaf : Json → Bool
  | .array _ => false
  | .object _ => false
  | _ => true

/-! ## Induction -/

variable {P : Json → Prop}

mutual

/-- **Induction over JSON trees**, through the items of arrays and the fields of objects. -/
theorem induction (leaf : ∀ j : Json, j.isLeaf → P j)
    (array : ∀ items, (∀ item ∈ items, P item) → P (.array items))
    (object : ∀ fields : OrderedMap String Json,
      (∀ entry ∈ fields.toList, P entry.2) → P (.object fields)) :
    ∀ j : Json, P j
  | .null => leaf .null rfl
  | .bool b => leaf (.bool b) rfl
  | .whole n => leaf (.whole n) rfl
  | .real d => leaf (.real d) rfl
  | .string s => leaf (.string s) rfl
  | .array items => array items (induction_items leaf array object items)
  | .object fields => object fields (induction_fields leaf array object fields.slots)

theorem induction_items (leaf : ∀ j : Json, j.isLeaf → P j)
    (array : ∀ items, (∀ item ∈ items, P item) → P (.array items))
    (object : ∀ fields : OrderedMap String Json,
      (∀ entry ∈ fields.toList, P entry.2) → P (.object fields)) :
    ∀ items : List Json, ∀ item ∈ items, P item
  | [] => fun _ h => nomatch h
  | first :: rest => by
    intro item h
    rcases List.mem_cons.1 h with h | h
    · rw [h]
      exact induction leaf array object first
    · exact induction_items leaf array object rest item h

theorem induction_fields (leaf : ∀ j : Json, j.isLeaf → P j)
    (array : ∀ items, (∀ item ∈ items, P item) → P (.array items))
    (object : ∀ fields : OrderedMap String Json,
      (∀ entry ∈ fields.toList, P entry.2) → P (.object fields))
    {names : List String} :
    ∀ fields : Slots String Json names, ∀ entry ∈ fields.toList, P entry.2
  | .nil => fun _ h => nomatch h
  | .cons name value rest => by
    intro entry h
    rcases List.mem_cons.1 h with h | h
    · rw [h]
      exact induction leaf array object value
    · exact induction_fields leaf array object rest entry h

end

/-! ## Depth -/

/-- `j.Holds k`: the tree `k` is `j` or stands somewhere in it. -/
inductive Holds : Json → Json → Prop
  | self (j : Json) : Holds j j
  | item {items : List Json} {j k : Json} (hj : j ∈ items) (h : Holds j k) :
    Holds (.array items) k
  | field {fields : OrderedMap String Json} {entry : String × Json} {k : Json}
    (hentry : entry ∈ fields.toList) (h : Holds entry.2 k) : Holds (.object fields) k

variable {j k : Json}

theorem holds_of_isLeaf (hj : j.isLeaf) : j.Holds k ↔ k = j := by
  constructor
  · intro h
    cases h with
    | self => rfl
    | item => exact nomatch hj
    | field => exact nomatch hj
  · rintro rfl
    exact .self _

theorem holds_array {items : List Json} :
    (array items).Holds k ↔ k = .array items ∨ ∃ item ∈ items, item.Holds k := by
  constructor
  · intro h
    cases h with
    | self => exact Or.inl rfl
    | item hj h => exact Or.inr ⟨_, hj, h⟩
  · rintro (rfl | ⟨item, hitem, h⟩)
    · exact .self _
    · exact .item hitem h

theorem holds_object {fields : OrderedMap String Json} :
    (object fields).Holds k ↔ k = .object fields ∨ ∃ entry ∈ fields.toList, entry.2.Holds k := by
  constructor
  · intro h
    cases h with
    | self => exact Or.inl rfl
    | field hentry h => exact Or.inr ⟨_, hentry, h⟩
  · rintro (rfl | ⟨entry, hentry, h⟩)
    · exact .self _
    · exact .field hentry h

/-- What is true of all leaves of an array is true of those of its items. -/
theorem forall_leaf_array {items : List Json} {Q : Json → Prop} :
    (∀ k, (array items).Holds k → k.isLeaf → Q k) ↔
      ∀ item ∈ items, ∀ k, item.Holds k → k.isLeaf → Q k := by
  constructor
  · intro h item hitem k hk
    exact h k (.item hitem hk)
  · intro h k hk hleaf
    rcases holds_array.1 hk with rfl | ⟨item, hitem, hk⟩
    · exact nomatch hleaf
    · exact h item hitem k hk hleaf

theorem forall_leaf_object {fields : OrderedMap String Json} {Q : Json → Prop} :
    (∀ k, (object fields).Holds k → k.isLeaf → Q k) ↔
      ∀ entry ∈ fields.toList, ∀ k, entry.2.Holds k → k.isLeaf → Q k := by
  constructor
  · intro h entry hentry k hk
    exact h k (.field hentry hk)
  · intro h k hk hleaf
    rcases holds_object.1 hk with rfl | ⟨entry, hentry, hk⟩
    · exact nomatch hleaf
    · exact h entry hentry k hk hleaf

end Json

end DocumentQuery
