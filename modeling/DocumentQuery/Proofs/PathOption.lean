import Mathlib.Data.List.Basic
import DocumentQuery.Error
import DocumentQuery.Proofs.JsonText
import DocumentQuery.Proofs.Lifting
import DocumentQuery.SearchPath.Compact
import DocumentQuery.Value.Equality

/-!
# The path option

The path option of a search determines the paths that it was made from, and so does its text.

**Values of texts.** A path option is made of texts, arrays and documents only (`Value.IsTextual`).
Such a value has the same JSON in both dialects, since these differ in numbers and dates, and it is
read back from its JSON by lifting. So its text is that of no other such value.

**Paths.** A plain field is a text, a field with an analyzer is a document with two entries, and a
pattern a document with another single entry. No two paths have the same compact form, and none is
an array.

**Lists.** A single path stands alone, several stand in an array of at least two items, and an empty
list is refused; so lists of different lengths are kept apart as well.

Main results: `text_eq_iff_of_isTextual`, `compact_injective` and `combine_determines`.
-/

namespace DocumentQuery

/-! ## Values of texts -/

namespace Value

/-- Texts, and arrays and documents of such values. -/
inductive IsTextual : Value → Prop
  | string (s : String) : IsTextual (.string s)
  | array {items : List Value} (h : ∀ item ∈ items, IsTextual item) : IsTextual (.array items)
  | document {fields : Document} (h : ∀ entry ∈ fields.toList, IsTextual entry.2) :
    IsTextual (.document fields)

variable {v w : Value}

/-- **Without numbers and dates there is only one dialect.** -/
theorem IsTextual.toJson_eq (hv : v.IsTextual) (d d' : Dialect) : v.toJson d = v.toJson d' := by
  induction hv with
  | string s => rfl
  | array _ ih =>
    rw [toJson_array, toJson_array]
    exact congrArg Json.array (List.map_congr_left ih)
  | document _ ih =>
    rw [toJson_document, toJson_document]
    exact congrArg Json.object (OrderedMap.mapValues_congr ih)

theorem IsTextual.ofJson_toJson (hv : v.IsTextual) (d : Dialect) : ofJson (v.toJson d) = v := by
  induction hv with
  | string s => rfl
  | array _ ih =>
    rw [toJson_array, ofJson_array, List.map_map]
    exact congrArg Value.array (map_eq_self_iff.2 ih)
  | document _ ih =>
    rw [toJson_document, ofJson_object, OrderedMap.mapValues_mapValues]
    exact congrArg Value.document (OrderedMap.mapValues_eq_self_iff.2 ih)

theorem text_eq_iff_of_isTextual (hv : v.IsTextual) (hw : w.IsTextual) (d d' : Dialect) :
    v.text d = w.text d' ↔ v = w := by
  refine ⟨fun h => ?_, fun h => ?_⟩
  · rw [← hv.ofJson_toJson d, ← hw.ofJson_toJson d', Json.compact_injective h]
  · rw [text, text, h, hw.toJson_eq d d']

end Value

/-! ## Compact forms -/

/-- The document of a field with an analyzer. -/
def analyzedField (path name : String) : Document :=
  .ofList [("value", .string path), ("multi", .string name)]

/-- The document of a pattern. -/
def patternField (pattern : String) : Document := .singleton "wildcard" (.string pattern)

theorem toList_analyzedField (path name : String) :
    (analyzedField path name).toList = [("value", .string path), ("multi", .string name)] := rfl

theorem toList_patternField (pattern : String) :
    (patternField pattern).toList = [("wildcard", .string pattern)] := rfl

theorem analyzedField_injective {path path' name name' : String}
    (h : analyzedField path name = analyzedField path' name') : path = path' ∧ name = name' := by
  simpa [toList_analyzedField] using congrArg OrderedMap.toList h

theorem analyzedField_ne_patternField (path name pattern : String) :
    analyzedField path name ≠ patternField pattern := by
  intro h
  simpa [toList_analyzedField, toList_patternField] using congrArg OrderedMap.toList h

theorem FieldPath.compact_eq (p : FieldPath) : p.compact = match p.analyzer with
    | none => .string p.path
    | some name => .document (analyzedField p.path name) := by
  rw [compact, render]
  cases p.analyzer <;> rfl

theorem WildcardPath.compact_eq (p : WildcardPath) :
    p.compact = .document (patternField p.pattern) := rfl

theorem FieldPath.compact_injective {p q : FieldPath} (h : p.compact = q.compact) : p = q := by
  rw [compact_eq, compact_eq] at h
  obtain ⟨path, analyzer, _, _, _⟩ := p
  obtain ⟨path', analyzer', _, _, _⟩ := q
  cases analyzer with
  | none =>
    cases analyzer' with
    | none => simpa using h
    | some name' => exact nomatch h
  | some name =>
    cases analyzer' with
    | none => exact nomatch h
    | some name' => simpa using analyzedField_injective (Value.document.inj h)

theorem FieldPath.compact_ne_wildcard (p : FieldPath) (q : WildcardPath) :
    p.compact ≠ q.compact := by
  rw [compact_eq, WildcardPath.compact_eq]
  cases p.analyzer with
  | none => simp
  | some name => simp [analyzedField_ne_patternField]

namespace SearchPath

/-- **No two paths have the same compact form.** -/
theorem compact_injective : Function.Injective compact := by
  intro p q h
  cases p with
  | field p =>
    cases q with
    | field q => rw [FieldPath.compact_injective h]
    | wildcard q => exact absurd h (p.compact_ne_wildcard q)
  | wildcard p =>
    cases q with
    | field q => exact absurd h.symm (q.compact_ne_wildcard p)
    | wildcard q =>
      have hdocuments : patternField p.pattern = patternField q.pattern := Value.document.inj h
      obtain ⟨pattern, _, _⟩ := p
      obtain ⟨pattern', _, _⟩ := q
      simpa [toList_patternField] using congrArg OrderedMap.toList hdocuments

theorem isTextual_compact (p : SearchPath) : p.compact.IsTextual := by
  cases p with
  | field p =>
    show p.compact.IsTextual
    rw [FieldPath.compact_eq]
    cases p.analyzer with
    | none => exact .string _
    | some name => exact .document (by simp [toList_analyzedField, Value.IsTextual.string])
  | wildcard p =>
    show p.compact.IsTextual
    rw [WildcardPath.compact_eq]
    exact .document (by simp [toList_patternField, Value.IsTextual.string])

end SearchPath

/-! ## Lists of paths -/

/-- The items of an array, and any other value alone. -/
def Value.spread : Value → List Value
  | .array items => items
  | v => [v]

namespace SearchPath

theorem spread_compact (p : SearchPath) : p.compact.spread = [p.compact] := by
  cases p with
  | field p =>
    show p.compact.spread = [p.compact]
    rw [FieldPath.compact_eq]
    cases p.analyzer <;> rfl
  | wildcard p => rfl

/-- **The path option holds the compact forms of the paths**, in order, and is refused only where
there are none. -/
theorem exists_combine {ps : List SearchPath} (h : ps ≠ []) :
    ∃ v, combine ps = .ok v ∧ v.spread = ps.map compact ∧ v.IsTextual := by
  match ps, h with
  | [p], _ => exact ⟨p.compact, rfl, p.spread_compact, p.isTextual_compact⟩
  | p :: q :: rest, _ =>
    refine ⟨.array ((p :: q :: rest).map compact), rfl, rfl, .array fun item hitem => ?_⟩
    obtain ⟨r, -, rfl⟩ := List.mem_map.1 hitem
    exact r.isTextual_compact

theorem combine_eq_error_iff {ps : List SearchPath} {err : SearchPathError} :
    combine ps = .error err ↔ ps = [] ∧ err = .noPaths := by
  by_cases hps : ps = []
  · subst hps
    simp [combine, eq_comm]
  · obtain ⟨v, hv, -, -⟩ := exists_combine hps
    simp [hv, hps]

/-- **The path option determines the paths.** Only an empty list is refused, as an invalid argument.
The options of two other lists are equal if and only if the lists are, with the same paths of the
same kinds and analyzers in the same order. An option has the same text in both dialects, and so two
texts are equal, in whatever dialects, if and only if the lists are. -/
theorem combine_determines :
    (∀ ps err, combine ps = .error err ↔ ps = [] ∧ err = .noPaths) ∧
    QueryError.isInvalidArgument (.searchPath .noPaths) ∧
    ∀ ps qs, ps ≠ [] → qs ≠ [] → ∃ v w, combine ps = .ok v ∧ combine qs = .ok w ∧
      (Value.beq v w ↔ ps = qs) ∧ v.text .relaxed = v.text .canonical ∧
      ∀ d d', v.text d = w.text d' ↔ ps = qs := by
  refine ⟨fun ps err => combine_eq_error_iff, rfl, ?_⟩
  intro ps qs hps hqs
  obtain ⟨v, hv, hvs, hvt⟩ := exists_combine hps
  obtain ⟨w, hw, hws, hwt⟩ := exists_combine hqs
  have hlists : v = w ↔ ps = qs := by
    refine ⟨fun h => ?_, fun h => ?_⟩
    · rw [h, hws] at hvs
      exact (List.map_injective_iff.2 compact_injective hvs).symm
    · rw [h, hw] at hv
      exact (Except.ok.inj hv).symm
  refine ⟨v, w, hv, hw, ?_, ?_, ?_⟩
  · rw [Value.beq_iff_eq, hlists]
  · rw [Value.text_eq_iff_of_isTextual hvt hvt]
  · intro d d'
    rw [Value.text_eq_iff_of_isTextual hvt hwt, hlists]

/-- A field with an analyzer. -/
def titleField : SearchPath := .field ⟨"title", some "english", by decide, by decide, by decide⟩

/-- A pattern. -/
def tagFields : SearchPath := .wildcard ⟨"tags.*", by decide, by decide⟩

/-- A field and a pattern, in one order and in the other. -/
theorem combine_titleAndTags :
    ∃ v w, combine [titleField, tagFields] = .ok v ∧ combine [tagFields, titleField] = .ok w ∧
      ¬ Value.beq v w ∧ v.text .relaxed ≠ w.text .canonical := by
  obtain ⟨v, w, hv, hw, hvalues, -, htexts⟩ :=
    combine_determines.2.2 [titleField, tagFields] [tagFields, titleField] (by simp) (by simp)
  refine ⟨v, w, hv, hw, ?_, ?_⟩
  · rw [hvalues]
    decide
  · rw [Ne, htexts]
    decide

end SearchPath

end DocumentQuery
