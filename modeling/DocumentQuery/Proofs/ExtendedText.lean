import DocumentQuery.Proofs.JsonText
import DocumentQuery.Proofs.ScalarText
import DocumentQuery.Proofs.ValueTree
import DocumentQuery.Value.Equality

/-!
# What extended JSON keeps of a value

The canonical text of a value has only one value, and the relaxed text has one up to the width of
its integers. In both, all that is not a number has the same text.

**Wrappers.** A document with one field that has the name of a wrapper looks like that wrapper, so
values that hold such a document are left out (`holdsWrapper`).

**Kinds.** The kind of every other value can be read off its JSON (`kind_toJson`): leaves of
different kinds, arrays and documents never have the same. A relaxed integer reads as a 64-bit one.

**Leaves.** Two leaves of one kind with the same JSON are the same, by what is known of the texts
of integers, doubles, decimals and instants (`unifyNaN_eq_of_toJson_eq`). An induction over values
takes this to arrays and documents.

Main results: `text_canonical_eq_iff` and `text_relaxed_eq_iff`.
-/

namespace DocumentQuery

/-! ## Wrappers and kinds -/

/-- The names of wrappers, with the kinds of what is in them. -/
def wrappers : List (String × ElementType) :=
  [("$numberInt", .int), ("$numberLong", .long), ("$numberDouble", .double),
    ("$numberDecimal", .decimal), ("$date", .date)]

/-- The kind under the only one of these names, if it is that of a wrapper. -/
def wrapperKind? : List String → Option ElementType
  | [name] => wrappers.lookup name
  | _ => none

/-- The kind of the value that a tree shows. -/
def Json.kind : Json → ElementType
  | .null => .null
  | .bool _ => .bool
  | .whole _ => .long
  | .real _ => .double
  | .string _ => .string
  | .array _ => .array
  | .object fields => (wrapperKind? fields.keys).getD .document

namespace Json

theorem field_injective {name : String} {j k : Json} (h : field name j = field name k) : j = k := by
  have hentries := congrArg OrderedMap.toList (object.inj h)
  exact (Prod.mk.inj (List.cons.inj hentries).1).2

theorem wrapped_injective {name : String} {a b : List Char}
    (h : wrapped name a = wrapped name b) : a = b :=
  String.ofList_injective (string.inj (field_injective h))

end Json

namespace Value

mutual

/-- Some document in the value has one field, with the name of a wrapper. -/
def holdsWrapper : Value → Bool
  | .array items => holdsWrapperItems items
  | .document fields => (wrapperKind? fields.keys).isSome || holdsWrapperFields fields.slots
  | _ => false

def holdsWrapperItems : List Value → Bool
  | [] => false
  | item :: rest => holdsWrapper item || holdsWrapperItems rest

def holdsWrapperFields {names : List String} : Slots String Value names → Bool
  | .nil => false
  | .cons _ value rest => holdsWrapper value || holdsWrapperFields rest

end

theorem holdsWrapperItems_eq_any (items : List Value) :
    holdsWrapperItems items = items.any holdsWrapper := by
  induction items with
  | nil => rfl
  | cons item rest ih => rw [holdsWrapperItems, ih, List.any_cons]

theorem holdsWrapperFields_eq_any {names : List String} (fields : Slots String Value names) :
    holdsWrapperFields fields = fields.toList.any fun entry => entry.2.holdsWrapper := by
  induction fields with
  | nil => rfl
  | cons name value rest ih => rw [holdsWrapperFields, ih, Slots.toList, List.any_cons]

theorem not_holdsWrapper_of_isLeaf {v : Value} (hv : v.isLeaf) : ¬ v.holdsWrapper := by
  cases v with
  | array items => exact nomatch hv
  | document fields => exact nomatch hv
  | _ => exact Bool.false_ne_true

theorem not_holdsWrapper_array {items : List Value} :
    ¬ (array items).holdsWrapper ↔ ∀ item ∈ items, ¬ item.holdsWrapper := by
  simp [holdsWrapper, holdsWrapperItems_eq_any]

theorem not_holdsWrapper_document {fields : Document} :
    ¬ (document fields).holdsWrapper ↔
      wrapperKind? fields.keys = none ∧ ∀ entry ∈ fields.toList, ¬ entry.2.holdsWrapper := by
  simp [holdsWrapper, holdsWrapperFields_eq_any, OrderedMap.toList]

end Value

/-! ## What is lost -/

/-- All that is not a number becomes one and the same double. -/
def Double.unifyNaN (d : Double) : Double := if d.IsNaN then ⟨0x7ff8000000000000⟩ else d

theorem Double.unifyNaN_eq {a b : Double} (h : a = b ∨ a.IsNaN ∧ b.IsNaN) :
    a.unifyNaN = b.unifyNaN := by
  rcases h with rfl | ⟨ha, hb⟩
  · rfl
  · rw [unifyNaN, unifyNaN, if_pos ha, if_pos hb]

namespace Value

/-- A double that is not a number becomes one and the same. -/
def unifyNaN : Value → Value
  | .double d => .double d.unifyNaN
  | v => v

/-- A 32-bit integer becomes a 64-bit one. -/
def widenInt : Value → Value
  | .int n => .long n.toInt64
  | v => v

/-- The kind that the JSON of a value shows. -/
def shownKind (dialect : Dialect) (v : Value) : ElementType :=
  match dialect with
  | .canonical => v.elementType
  | .relaxed => v.widenInt.elementType

variable {dialect : Dialect} {v w : Value}

theorem isLeaf_iff_shownKind (dialect : Dialect) :
    v.isLeaf ↔ v.shownKind dialect ≠ .array ∧ v.shownKind dialect ≠ .document := by
  cases v <;> cases dialect <;> simp [isLeaf, shownKind, widenInt, elementType]

theorem isLeaf_widenInt (hv : v.isLeaf) : v.widenInt.isLeaf := by
  cases v with
  | int n => rfl
  | _ => exact hv

theorem toJson_widenInt (v : Value) : v.widenInt.toJson .relaxed = v.toJson .relaxed := by
  cases v with
  | int n =>
    show Json.whole (.ofInt64 n.toInt64) = Json.whole (.ofInt32 n)
    rw [Json.Whole.ofInt64, Json.Whole.ofInt32, Json.whole.injEq, Json.Whole.mk.injEq]
    exact Int32.toInt_toInt64 n
  | _ => rfl

theorem toJson_unifyNaN (v : Value) : v.unifyNaN.toJson dialect = v.toJson dialect := by
  cases v with
  | double d =>
    show d.unifyNaN.toJson dialect = d.toJson dialect
    by_cases hd : d.IsNaN
    · have hnan : d.unifyNaN.IsNaN := by
        rw [Double.unifyNaN, if_pos hd]
        decide
      have hwrapped : ∀ {e : Double}, e.IsNaN →
          e.toJson dialect = .wrapped "$numberDouble" "NaN".toList := by
        intro e he
        have hnot : ¬ (dialect = .relaxed ∧ e.IsFinite ∧ ¬ e.IsNegativeZero) :=
          fun h => Nat.lt_asymm he h.2.1
        rw [Double.toJson, dif_neg hnot, Double.write, if_pos he]
      rw [hwrapped hnan, hwrapped hd]
    · rw [Double.unifyNaN, if_neg hd]
  | _ => rfl

/-! ## The kind can be read off -/

/-- **The JSON of a value shows its kind**, with any integer as a 64-bit one where it is relaxed. -/
theorem kind_toJson (hv : ¬ v.holdsWrapper) : (v.toJson dialect).kind = v.shownKind dialect := by
  cases v with
  | double d =>
    show (d.toJson dialect).kind = _
    unfold Double.toJson
    split <;> cases dialect <;> rfl
  | date t =>
    show (t.toJson dialect).kind = _
    unfold Instant.toJson
    split <;> cases dialect <;> rfl
  | document fields =>
    obtain ⟨hnames, -⟩ := not_holdsWrapper_document.1 hv
    rw [toJson_document, Json.kind, OrderedMap.keys_mapValues, hnames]
    cases dialect <;> rfl
  | _ => cases dialect <;> rfl

/-! ## Leaves -/

theorem unifyNaN_eq_of_double {a b : Double} (h : a.toJson dialect = b.toJson dialect) :
    a.unifyNaN = b.unifyNaN := by
  unfold Double.toJson at h
  split at h <;> split at h
  · have hab : a = b := congrArg Json.Real.val (Json.real.inj h)
    rw [hab]
  · exact nomatch h
  · exact nomatch h
  · exact Double.unifyNaN_eq ((Double.write_eq_write_iff ⟨rfl, rfl⟩).1 (Json.wrapped_injective h))

theorem date_eq_of_toJson_eq {t u : Instant} (h : t.toJson dialect = u.toJson dialect) :
    t = u := by
  unfold Instant.toJson at h
  split at h <;> split at h
  · obtain ⟨hdate, htime⟩ := Instant.writeIso_injective (Json.wrapped_injective h)
    exact Instant.eq_of_date_eq hdate htime
  · exact nomatch Json.field_injective h
  · exact nomatch Json.field_injective h
  · have htext := Json.wrapped_injective (Json.field_injective h)
    exact Instant.eq_of_toInt_eq (Text.signed_injective htext)

theorem int_eq_of_toJson_eq {m n : Int32} (h : (int m).toJson dialect = (int n).toJson dialect) :
    m = n := by
  cases dialect with
  | canonical => exact Int32.toInt_inj.1 (Text.signed_injective (Json.wrapped_injective h))
  | relaxed => exact Int32.toInt_inj.1 (congrArg Json.Whole.val (Json.whole.inj h))

theorem long_eq_of_toJson_eq {m n : Int64} (h : (long m).toJson dialect = (long n).toJson dialect) :
    m = n := by
  cases dialect with
  | canonical => exact Int64.toInt_inj.1 (Text.signed_injective (Json.wrapped_injective h))
  | relaxed => exact Int64.toInt_inj.1 (congrArg Json.Whole.val (Json.whole.inj h))

/-- **Leaves of one kind with the same JSON are the same**, unless they are not numbers. -/
theorem unifyNaN_eq_of_toJson_eq (hv : v.isLeaf) (hkind : v.elementType = w.elementType)
    (h : v.toJson dialect = w.toJson dialect) : v.unifyNaN = w.unifyNaN := by
  cases v with
  | bool a => cases w with
    | bool b => exact congrArg bool (Json.bool.inj h)
    | _ => exact nomatch hkind
  | int m => cases w with
    | int n => exact congrArg int (int_eq_of_toJson_eq h)
    | _ => exact nomatch hkind
  | long m => cases w with
    | long n => exact congrArg long (long_eq_of_toJson_eq h)
    | _ => exact nomatch hkind
  | double a => cases w with
    | double b => exact congrArg double (unifyNaN_eq_of_double h)
    | _ => exact nomatch hkind
  | decimal a => cases w with
    | decimal b => exact congrArg decimal (Decimal.write_injective (Json.wrapped_injective h))
    | _ => exact nomatch hkind
  | date t => cases w with
    | date u => exact congrArg date (date_eq_of_toJson_eq h)
    | _ => exact nomatch hkind
  | string a => cases w with
    | string b => exact congrArg string (Json.string.inj h)
    | _ => exact nomatch hkind
  | null => cases w with
    | null => rfl
    | _ => exact nomatch hkind
  | array items => exact nomatch hv
  | document fields => exact nomatch hv

/-! ## Arrays and documents -/

/-- What JSON tells of leaves it tells of all values. -/
theorem mapLeaves_eq_of_toJson_eq {f : Value → Value}
    (hf : ∀ v w : Value, v.isLeaf → w.isLeaf → v.shownKind dialect = w.shownKind dialect →
      v.toJson dialect = w.toJson dialect → f v = f w) (v : Value) :
    ∀ w : Value, ¬ v.holdsWrapper → ¬ w.holdsWrapper → v.toJson dialect = w.toJson dialect →
      mapLeaves f v = mapLeaves f w := by
  induction v using Value.induction with
  | leaf v hv =>
    intro w hvw hww h
    have hkind : v.shownKind dialect = w.shownKind dialect := by
      rw [← kind_toJson hvw, h, kind_toJson hww]
    have hw : w.isLeaf := by
      rw [isLeaf_iff_shownKind dialect] at hv ⊢
      rwa [← hkind]
    rw [mapLeaves_of_isLeaf hv, mapLeaves_of_isLeaf hw, hf v w hv hw hkind h]
  | array as ih =>
    intro w hvw hww h
    have hkind := (kind_toJson hvw).symm.trans ((congrArg Json.kind h).trans (kind_toJson hww))
    cases w with
    | array bs =>
      rw [toJson_array, toJson_array, Json.array.injEq] at h
      rw [mapLeaves_array, mapLeaves_array]
      exact congrArg array (map_eq_map_of (fun a ha b hb => ih a ha b
        (not_holdsWrapper_array.1 hvw a ha) (not_holdsWrapper_array.1 hww b hb)) h)
    | _ => cases dialect <;> exact nomatch hkind
  | document as ih =>
    intro w hvw hww h
    have hkind := (kind_toJson hvw).symm.trans ((congrArg Json.kind h).trans (kind_toJson hww))
    cases w with
    | document bs =>
      rw [toJson_document, toJson_document, Json.object.injEq, OrderedMap.mapValues_eq_iff] at h
      rw [mapLeaves_document, mapLeaves_document, document.injEq, OrderedMap.mapValues_eq_iff]
      refine map_eq_map_of (fun a ha b hb hab => ?_) h
      obtain ⟨hname, hvalue⟩ := Prod.mk.inj hab
      exact Prod.ext hname (ih a ha b.2 ((not_holdsWrapper_document.1 hvw).2 a ha)
        ((not_holdsWrapper_document.1 hww).2 b hb) hvalue)
    | _ => cases dialect <;> exact nomatch hkind

theorem text_eq_text_iff {f : Value → Value}
    (hkeep : ∀ v : Value, v.isLeaf → (f v).toJson dialect = v.toJson dialect)
    (hf : ∀ v w : Value, v.isLeaf → w.isLeaf → v.shownKind dialect = w.shownKind dialect →
      v.toJson dialect = w.toJson dialect → f v = f w)
    (hv : ¬ v.holdsWrapper) (hw : ¬ w.holdsWrapper) :
    v.text dialect = w.text dialect ↔ beq (mapLeaves f v) (mapLeaves f w) := by
  rw [beq_iff_eq]
  constructor
  · intro h
    exact mapLeaves_eq_of_toJson_eq hf v w hv hw (Json.compact_injective h)
  · intro h
    rw [text, text, ← toJson_mapLeaves hkeep v, h, toJson_mapLeaves hkeep w]

/-- **Canonical text is that of one value only**, up to what is not a number. -/
theorem text_canonical_eq_iff (hv : ¬ v.holdsWrapper) (hw : ¬ w.holdsWrapper) :
    v.text .canonical = w.text .canonical ↔
      beq (v.mapLeaves unifyNaN) (w.mapLeaves unifyNaN) := by
  refine text_eq_text_iff ?_ ?_ hv hw
  · intro v _
    exact toJson_unifyNaN v
  · intro v w hv _ hkind h
    exact unifyNaN_eq_of_toJson_eq hv hkind h

/-- The payloads of doubles that are not numbers are lost, the widths of integers are not. -/
theorem text_canonical_array :
    (array [double ⟨0x7ff8000000000001⟩, document (.singleton "a" (int 1))]).text .canonical =
        (array [double ⟨0xfff8000000000000⟩, document (.singleton "a" (int 1))]).text .canonical ∧
      (array [document (.singleton "a" (int 1))]).text .canonical ≠
        (array [document (.singleton "a" (long 1))]).text .canonical := by
  constructor
  · exact (text_canonical_eq_iff (by decide) (by decide)).2 (by decide)
  · intro h
    exact absurd ((text_canonical_eq_iff (by decide) (by decide)).1 h) (by decide)

/-- **Relaxed text is that of one value only**, up to the width of integers and what is not a
number. Doubles do not look like integers, nor dates or decimals like one another. -/
theorem text_relaxed_eq_iff :
    (∀ v w : Value, ¬ v.holdsWrapper → ¬ w.holdsWrapper →
      (v.text .relaxed = w.text .relaxed ↔
        beq (v.mapLeaves fun leaf => leaf.widenInt.unifyNaN)
          (w.mapLeaves fun leaf => leaf.widenInt.unifyNaN))) ∧
      (∀ (d : Double) (n : Int32), (double d).text .relaxed ≠ (int n).text .relaxed) ∧
      (∀ (d : Double) (n : Int64), (double d).text .relaxed ≠ (long n).text .relaxed) ∧
      (∀ t u : Instant, (date t).text .relaxed = (date u).text .relaxed → t = u) ∧
      ∀ a b : Decimal, (decimal a).text .relaxed = (decimal b).text .relaxed → a = b := by
  have hmain : ∀ v w : Value, ¬ v.holdsWrapper → ¬ w.holdsWrapper →
      (v.text .relaxed = w.text .relaxed ↔
        beq (v.mapLeaves fun leaf => leaf.widenInt.unifyNaN)
          (w.mapLeaves fun leaf => leaf.widenInt.unifyNaN)) := by
    intro v w hv hw
    -- Once its integers are wide, a leaf has the kind that its JSON shows.
    refine text_eq_text_iff ?_ ?_ hv hw
    · intro v _
      rw [toJson_unifyNaN, toJson_widenInt]
    · intro v w hv _ hkind h
      have hwide : v.widenInt.toJson .relaxed = w.widenInt.toJson .relaxed := by
        rw [toJson_widenInt, toJson_widenInt, h]
      exact unifyNaN_eq_of_toJson_eq (isLeaf_widenInt hv) hkind hwide
  -- Leaves hold no document, so what is true of all values applies to them as it stands.
  have hleaf : ∀ {v w : Value}, v.isLeaf → w.isLeaf → v.text .relaxed = w.text .relaxed →
      v.widenInt.unifyNaN = w.widenInt.unifyNaN := by
    intro v w hv hw h
    have hequal := (hmain v w (not_holdsWrapper_of_isLeaf hv) (not_holdsWrapper_of_isLeaf hw)).1 h
    rwa [beq_iff_eq, mapLeaves_of_isLeaf hv, mapLeaves_of_isLeaf hw] at hequal
  refine ⟨hmain, ?_, ?_, ?_, ?_⟩
  · intro d n h
    exact nomatch hleaf rfl rfl h
  · intro d n h
    exact nomatch hleaf rfl rfl h
  · intro t u h
    exact date.inj (hleaf rfl rfl h)
  · intro a b h
    exact decimal.inj (hleaf rfl rfl h)

/-- The width of an integer is lost, the sign of a zero is not. -/
theorem text_relaxed_document :
    (document (.singleton "a" (int 1))).text .relaxed =
        (document (.singleton "a" (long 1))).text .relaxed ∧
      (document (.singleton "a" (double ⟨0⟩))).text .relaxed ≠
        (document (.singleton "a" (double ⟨0x8000000000000000⟩))).text .relaxed := by
  constructor
  · exact (text_relaxed_eq_iff.1 _ _ (by decide) (by decide)).2 (by decide)
  · intro h
    exact absurd ((text_relaxed_eq_iff.1 _ _ (by decide) (by decide)).1 h) (by decide)

end Value

end DocumentQuery
