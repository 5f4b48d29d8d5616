import DocumentQuery.SearchPath.Compact
import DocumentQuery.Value.Equality

/-!
# Compaction loses nothing

The compact form of a document is a text only if that text, under `path`, is all that the document
holds. So the document can be told from its compact form.

**Taking apart.** Compaction may take a document apart into its only entry, and where that entry is
not a text under `path`, the document that is built from the entry again is the one that was taken
apart (`compact_eq_rebuilt`).

**Expanding.** A text is the compact form of the document with that text under `path`, and a
document of itself, unless it is such a document. Expanding undoes compaction
(`expand?_compact`), and what is undone loses nothing.

Main results: `compact_eq_string_iff`, `expand?_compact` and `compaction_lossless`.
-/

namespace DocumentQuery

namespace OrderedMap

variable {κ α : Type} {m : OrderedMap κ α} {k : κ} {v : α}

theorem toList_eq_singleton_iff : m.toList = [(k, v)] ↔ m = .singleton k v := by
  refine ⟨fun h => ext_toList h, ?_⟩
  rintro rfl
  rfl

/-- **A map with one entry is that entry inserted into the empty map.** -/
theorem empty_insert [DecidableEq κ] (k : κ) (v : α) : empty.insert k v = singleton k v :=
  ext_toList (toList_insert_of_notMem List.not_mem_nil v)

end OrderedMap

/-- The document of which the value is the compact form. -/
def Value.expand? : Value → Option Document
  | .string s => some (.singleton "path" (.string s))
  | .document d => some d
  | _ => none

namespace Document

variable {d e : Document} {s : String}

/-- The document holds a text under `path` and nothing else. -/
def IsPathText (d : Document) : Prop := ∃ s, d.toList = [("path", .string s)]

theorem single?_eq_pathText_iff :
    d.single? = some ("path", .string s) ↔ d.toList = [("path", .string s)] := by
  rw [OrderedMap.single?_eq_some_iff, OrderedMap.toList_eq_singleton_iff]

/-! ## The two forms -/

theorem compact_of_toList (h : d.toList = [("path", .string s)]) : d.compact = .string s := by
  rw [compact, single?_eq_pathText_iff.2 h]
  rfl

theorem compact_of_not_isPathText (h : ¬ d.IsPathText) : d.compact = .document d := by
  unfold compact
  split
  next s hsingle => exact absurd ⟨s, single?_eq_pathText_iff.1 hsingle⟩ h
  next => rfl

/-- **The compact form is a text only for that text under `path`.** -/
theorem compact_eq_string_iff : d.compact = .string s ↔ d.toList = [("path", .string s)] := by
  refine ⟨fun h => ?_, compact_of_toList⟩
  by_cases hpath : d.IsPathText
  · obtain ⟨s', hs'⟩ := hpath
    rw [compact_of_toList hs'] at h
    rw [hs', Value.string.inj h]
  · rw [compact_of_not_isPathText hpath] at h
    exact nomatch h

theorem compact_eq_document_iff : d.compact = .document e ↔ d = e ∧ ¬ d.IsPathText := by
  by_cases hpath : d.IsPathText
  · refine iff_of_false (fun h => ?_) fun h => h.2 hpath
    obtain ⟨s, hs⟩ := hpath
    rw [compact_of_toList hs] at h
    exact nomatch h
  · rw [compact_of_not_isPathText hpath, Value.document.injEq, and_iff_left hpath]

/-- The ways not to be a text under `path`: no entry, several, another name or another kind. -/
theorem not_isPathText_iff :
    ¬ d.IsPathText ↔ d.size = 0 ∨ 2 ≤ d.size ∨
      (∃ name v, d.toList = [(name, v)] ∧ name ≠ "path") ∨
      ∃ v, d.toList = [("path", v)] ∧ v.elementType ≠ .string := by
  rw [← d.length_toList, IsPathText]
  match hd : d.toList with
  | [] => simp
  | _ :: _ :: _ => simp
  | [(name, v)] =>
    by_cases hname : name = "path"
    · cases v <;> simp [hname, Value.elementType]
    · simp [hname]

/-! ## Taking apart and expanding -/

/-- **Compaction may take a document apart**: building it again from its only entry changes
nothing. -/
theorem compact_eq_rebuilt (d : Document) :
    d.compact = match d.single? with
      | some ("path", .string s) => .string s
      | some (name, v) => .document (OrderedMap.empty.insert name v)
      | none => .document d := by
  by_cases hpath : d.IsPathText
  · obtain ⟨s, hs⟩ := hpath
    rw [compact_of_toList hs, single?_eq_pathText_iff.2 hs]
    rfl
  · rw [compact_of_not_isPathText hpath]
    split
    next s hsingle => exact absurd ⟨s, single?_eq_pathText_iff.1 hsingle⟩ hpath
    next name v _ hsingle =>
      rw [OrderedMap.empty_insert, ← OrderedMap.single?_eq_some_iff.1 hsingle]
    next => rfl

/-- **Expanding undoes compaction.** -/
theorem expand?_compact (d : Document) : d.compact.expand? = some d := by
  by_cases hpath : d.IsPathText
  · obtain ⟨s, hs⟩ := hpath
    rw [compact_of_toList hs, OrderedMap.toList_eq_singleton_iff.1 hs]
    rfl
  · rw [compact_of_not_isPathText hpath]
    rfl

theorem compact_injective : Function.Injective compact := by
  intro d e h
  have hsame : some d = some e := by
    rw [← d.expand?_compact, h, e.expand?_compact]
  exact Option.some.inj hsame

theorem exists_compact_eq_iff {v : Value} :
    (∃ d : Document, d.compact = v) ↔
      (∃ s, v = .string s) ∨ ∃ d : Document, v = .document d ∧ ¬ d.IsPathText := by
  constructor
  · rintro ⟨d, rfl⟩
    by_cases hpath : d.IsPathText
    · exact Or.inl (hpath.imp fun s hs => compact_of_toList hs)
    · exact Or.inr ⟨d, compact_of_not_isPathText hpath, hpath⟩
  · rintro (⟨s, rfl⟩ | ⟨d, rfl, hpath⟩)
    · exact ⟨.singleton "path" (.string s), compact_of_toList rfl⟩
    · exact ⟨d, compact_of_not_isPathText hpath⟩

/-- **Compaction loses nothing.** The compact form of a document is a text if and only if the
document holds that text under `path` and nothing else. Every other document is its own compact
form, whether it is empty, has several entries, another name or another kind of value, and also if
it is taken apart and built again. Compact forms are equal only for equal documents, and they are
the texts and the documents other than texts under `path`. -/
theorem compaction_lossless :
    (∀ (d : Document) (s : String),
      d.compact = .string s ↔ d.toList = [("path", .string s)]) ∧
    (∀ d : Document, (d.compact = .document d ↔ ¬ ∃ s, d.toList = [("path", .string s)]) ∧
      (d.compact = .document d ↔ d.size = 0 ∨ 2 ≤ d.size ∨
        (∃ name v, d.toList = [(name, v)] ∧ name ≠ "path") ∨
        ∃ v, d.toList = [("path", v)] ∧ v.elementType ≠ .string)) ∧
    (∀ d : Document, d.compact = match d.single? with
      | some ("path", .string s) => .string s
      | some (name, v) => .document (OrderedMap.empty.insert name v)
      | none => .document d) ∧
    (∀ d e : Document, d.compact.beq e.compact = true ↔ d = e) ∧
    ∀ v : Value, (∃ d : Document, d.compact = v) ↔
      (∃ s, v = .string s) ∨
        ∃ d : Document, v = .document d ∧ ¬ ∃ s, d.toList = [("path", .string s)] := by
  have hdocument : ∀ d : Document, d.compact = .document d ↔ ¬ d.IsPathText := fun d =>
    compact_eq_document_iff.trans (and_iff_right rfl)
  refine ⟨fun d s => compact_eq_string_iff,
    fun d => ⟨hdocument d, (hdocument d).trans not_isPathText_iff⟩, compact_eq_rebuilt,
    fun d e => ?_, fun v => exists_compact_eq_iff⟩
  rw [Value.beq_iff_eq]
  exact compact_injective.eq_iff

end Document

end DocumentQuery
