import DocumentQuery.Value.ExtendedJson

/-!
# Values as trees of leaves

A value is a leaf, an array of values or a document of values. What is shown of all values can be
shown of leaves, and of arrays and documents from what is in them (`Value.induction`).

**Entries.** Functions that go through a document are seen here through its list of entries
(`OrderedMap.mapValues`), so that nothing depends on how its slots are kept.

**Leaves.** `mapLeaves` changes every leaf and keeps the arrays and documents around it.

**Depth.** `v.Holds w` says that the value `w` is `v` itself or stands somewhere in it, at any
depth, among the items of an array or the values of a document.

Main results: `Value.induction`, `Value.toJson_mapLeaves`, `Value.forall_leaf_array` and
`Value.forall_leaf_document`.
-/

namespace DocumentQuery

/-! ## Maps over the values of a map -/

def Slots.mapValues {κ α β : Type} (g : α → β) {ks : List κ} : Slots κ α ks → Slots κ β ks
  | .nil => .nil
  | .cons k v rest => .cons k (g v) (rest.mapValues g)

theorem Slots.toList_mapValues {κ α β : Type} (g : α → β) {ks : List κ} (s : Slots κ α ks) :
    (s.mapValues g).toList = s.toList.map fun entry => (entry.1, g entry.2) := by
  induction s with
  | nil => rfl
  | cons k v rest ih => rw [mapValues, toList, ih, toList, List.map_cons]

/-- Lists with the same images have the same images under whatever depends on these. -/
theorem map_eq_map_of {α β γ : Type} {f : α → β} {g : α → γ} {as bs : List α}
    (hfg : ∀ a ∈ as, ∀ b ∈ bs, g a = g b → f a = f b) (h : as.map g = bs.map g) :
    as.map f = bs.map f := by
  induction as generalizing bs with
  | nil =>
    rw [List.map_nil, List.nil_eq, List.map_eq_nil_iff] at h
    rw [h]
  | cons a as ih =>
    cases bs with
    | nil => exact nomatch h
    | cons b bs =>
      obtain ⟨hhead, htail⟩ := List.cons.inj h
      rw [List.map_cons, List.map_cons, hfg a List.mem_cons_self b List.mem_cons_self hhead,
        ih (fun a ha b hb => hfg a (List.mem_cons_of_mem _ ha) b (List.mem_cons_of_mem _ hb)) htail]

/-- A list is mapped to itself just when all of its members are. -/
theorem map_eq_self_iff {α : Type} {f : α → α} {as : List α} :
    as.map f = as ↔ ∀ a ∈ as, f a = a := by
  have h : as.map f = as.map id ↔ ∀ a ∈ as, f a = id a := List.map_inj_left
  rwa [List.map_id] at h

namespace OrderedMap

variable {κ α β γ : Type}

/-- The map with the same keys and other values. -/
def mapValues (g : α → β) (m : OrderedMap κ α) : OrderedMap κ β :=
  ⟨m.keys, m.slots.mapValues g, m.nodup⟩

theorem keys_mapValues (g : α → β) (m : OrderedMap κ α) : (m.mapValues g).keys = m.keys := rfl

theorem toList_mapValues (g : α → β) (m : OrderedMap κ α) :
    (m.mapValues g).toList = m.toList.map fun entry => (entry.1, g entry.2) :=
  m.slots.toList_mapValues g

theorem mapValues_eq_iff {g : α → β} {m n : OrderedMap κ α} :
    m.mapValues g = n.mapValues g ↔
      (m.toList.map fun entry => (entry.1, g entry.2)) =
        n.toList.map fun entry => (entry.1, g entry.2) := by
  rw [← toList_mapValues, ← toList_mapValues]
  exact ⟨fun h => h ▸ rfl, ext_toList⟩

theorem mapValues_congr {g h : α → β} {m : OrderedMap κ α}
    (hgh : ∀ entry ∈ m.toList, g entry.2 = h entry.2) : m.mapValues g = m.mapValues h := by
  apply ext_toList
  rw [toList_mapValues, toList_mapValues]
  exact List.map_congr_left fun entry hentry => Prod.ext rfl (hgh entry hentry)

theorem mapValues_mapValues (g : α → β) (h : β → γ) (m : OrderedMap κ α) :
    (m.mapValues g).mapValues h = m.mapValues fun a => h (g a) := by
  apply ext_toList
  simp [toList_mapValues, Function.comp_def]

theorem mapValues_eq_self_iff {g : α → α} {m : OrderedMap κ α} :
    m.mapValues g = m ↔ ∀ entry ∈ m.toList, g entry.2 = entry.2 := by
  have hlist : m.mapValues g = m ↔ (m.mapValues g).toList = m.toList :=
    ⟨fun h => by rw [h], ext_toList⟩
  rw [hlist, toList_mapValues, map_eq_self_iff]
  simp only [Prod.ext_iff, true_and]

end OrderedMap

namespace Value

/-! ## Induction -/

/-- Neither an array nor a document. -/
def isLeaf : Value → Bool
  | .array _ => false
  | .document _ => false
  | _ => true

variable {P : Value → Prop}

mutual

/-- **Induction over values**, through the items of arrays and the entries of documents. -/
theorem induction (leaf : ∀ v : Value, v.isLeaf → P v)
    (array : ∀ items, (∀ item ∈ items, P item) → P (.array items))
    (document : ∀ fields : Document, (∀ entry ∈ fields.toList, P entry.2) → P (.document fields)) :
    ∀ v : Value, P v
  | .bool b => leaf (.bool b) rfl
  | .int n => leaf (.int n) rfl
  | .long n => leaf (.long n) rfl
  | .double d => leaf (.double d) rfl
  | .decimal d => leaf (.decimal d) rfl
  | .date t => leaf (.date t) rfl
  | .string s => leaf (.string s) rfl
  | .null => leaf .null rfl
  | .array items => array items (induction_items leaf array document items)
  | .document fields => document fields (induction_fields leaf array document fields.slots)

theorem induction_items (leaf : ∀ v : Value, v.isLeaf → P v)
    (array : ∀ items, (∀ item ∈ items, P item) → P (.array items))
    (document : ∀ fields : Document, (∀ entry ∈ fields.toList, P entry.2) → P (.document fields)) :
    ∀ items : List Value, ∀ item ∈ items, P item
  | [] => fun _ h => nomatch h
  | first :: rest => by
    intro item h
    rcases List.mem_cons.1 h with h | h
    · rw [h]
      exact induction leaf array document first
    · exact induction_items leaf array document rest item h

theorem induction_fields (leaf : ∀ v : Value, v.isLeaf → P v)
    (array : ∀ items, (∀ item ∈ items, P item) → P (.array items))
    (document : ∀ fields : Document, (∀ entry ∈ fields.toList, P entry.2) → P (.document fields))
    {names : List String} :
    ∀ fields : Slots String Value names, ∀ entry ∈ fields.toList, P entry.2
  | .nil => fun _ h => nomatch h
  | .cons name value rest => by
    intro entry h
    rcases List.mem_cons.1 h with h | h
    · rw [h]
      exact induction leaf array document value
    · exact induction_fields leaf array document rest entry h

end

/-! ## Changing the leaves -/

mutual

/-- The value with its leaves changed. -/
def mapLeaves (f : Value → Value) : Value → Value
  | .array items => .array (mapLeavesItems f items)
  | .document fields => .document ⟨fields.keys, mapLeavesFields f fields.slots, fields.nodup⟩
  | leaf => f leaf

def mapLeavesItems (f : Value → Value) : List Value → List Value
  | [] => []
  | item :: rest => mapLeaves f item :: mapLeavesItems f rest

def mapLeavesFields (f : Value → Value) {names : List String} :
    Slots String Value names → Slots String Value names
  | .nil => .nil
  | .cons name value rest => .cons name (mapLeaves f value) (mapLeavesFields f rest)

end

variable {f : Value → Value} {dialect : Dialect}

theorem mapLeaves_of_isLeaf {v : Value} (h : v.isLeaf) : mapLeaves f v = f v := by
  cases v with
  | array items => exact nomatch h
  | document fields => exact nomatch h
  | _ => rfl

theorem mapLeavesItems_eq_map (items : List Value) :
    mapLeavesItems f items = items.map (mapLeaves f) := by
  induction items with
  | nil => rfl
  | cons item rest ih => rw [mapLeavesItems, ih, List.map_cons]

theorem mapLeavesFields_eq_mapValues {names : List String} (fields : Slots String Value names) :
    mapLeavesFields f fields = fields.mapValues (mapLeaves f) := by
  induction fields with
  | nil => rfl
  | cons name value rest ih => rw [mapLeavesFields, ih, Slots.mapValues]

theorem mapLeaves_array (items : List Value) :
    mapLeaves f (.array items) = .array (items.map (mapLeaves f)) := by
  rw [mapLeaves, mapLeavesItems_eq_map]

theorem mapLeaves_document (fields : Document) :
    mapLeaves f (.document fields) = .document (fields.mapValues (mapLeaves f)) := by
  rw [mapLeaves, mapLeavesFields_eq_mapValues]
  rfl

/-! ## Extended JSON of arrays and documents -/

theorem toJsonItems_eq_map (items : List Value) :
    toJsonItems dialect items = items.map (toJson dialect) := by
  induction items with
  | nil => rfl
  | cons item rest ih => rw [toJsonItems, ih, List.map_cons]

theorem toJsonFields_eq_mapValues {names : List String} (fields : Slots String Value names) :
    toJsonFields dialect fields = fields.mapValues (toJson dialect) := by
  induction fields with
  | nil => rfl
  | cons name value rest ih => rw [toJsonFields, ih, Slots.mapValues]

theorem toJson_array (items : List Value) :
    toJson dialect (.array items) = .array (items.map (toJson dialect)) := by
  rw [toJson, toJsonItems_eq_map]

theorem toJson_document (fields : Document) :
    toJson dialect (.document fields) = .object (fields.mapValues (toJson dialect)) := by
  rw [toJson, toJsonFields_eq_mapValues]
  rfl

/-- **What the leaves keep of their JSON, the whole value keeps.** -/
theorem toJson_mapLeaves (h : ∀ v : Value, v.isLeaf → (f v).toJson dialect = v.toJson dialect)
    (v : Value) : (mapLeaves f v).toJson dialect = v.toJson dialect := by
  induction v using Value.induction with
  | leaf v hv => rw [mapLeaves_of_isLeaf hv, h v hv]
  | array items ih =>
    rw [mapLeaves_array, toJson_array, toJson_array, List.map_map]
    exact congrArg Json.array (List.map_congr_left ih)
  | document fields ih =>
    rw [mapLeaves_document, toJson_document, toJson_document, OrderedMap.mapValues_mapValues]
    exact congrArg Json.object (OrderedMap.mapValues_congr ih)

/-! ## Depth -/

/-- `v.Holds w`: the value `w` is `v` or stands somewhere in it. -/
inductive Holds : Value → Value → Prop
  | self (v : Value) : Holds v v
  | item {items : List Value} {v w : Value} (hv : v ∈ items) (h : Holds v w) :
    Holds (.array items) w
  | field {fields : Document} {entry : String × Value} {w : Value}
    (hentry : entry ∈ fields.toList) (h : Holds entry.2 w) : Holds (.document fields) w

theorem holds_of_isLeaf {v w : Value} (hv : v.isLeaf) : v.Holds w ↔ w = v := by
  constructor
  · intro h
    cases h with
    | self => rfl
    | item => exact nomatch hv
    | field => exact nomatch hv
  · rintro rfl
    exact .self _

/-- What is true of all leaves of an array is true of those of its items. -/
theorem forall_leaf_array {items : List Value} {Q : Value → Prop} :
    (∀ w, (array items).Holds w → w.isLeaf → Q w) ↔
      ∀ item ∈ items, ∀ w, item.Holds w → w.isLeaf → Q w := by
  constructor
  · intro h item hitem w hw
    exact h w (.item hitem hw)
  · intro h w hw hleaf
    cases hw with
    | self => exact nomatch hleaf
    | item hitem hw => exact h _ hitem w hw hleaf

theorem forall_leaf_document {fields : Document} {Q : Value → Prop} :
    (∀ w, (document fields).Holds w → w.isLeaf → Q w) ↔
      ∀ entry ∈ fields.toList, ∀ w, entry.2.Holds w → w.isLeaf → Q w := by
  constructor
  · intro h entry hentry w hw
    exact h w (.field hentry hw)
  · intro h w hw hleaf
    cases hw with
    | self => exact nomatch hleaf
    | field hentry hw => exact h _ hentry w hw hleaf

end Value

end DocumentQuery
