import DocumentQuery.Proofs.PathOption

/-!
# Which texts are paths

A text names a field, or matches several, or is refused: the texts of field paths and the patterns
have no member in common, and what is in neither of them is empty or has two stars side by side.

**Stars.** The check for two stars goes through a pattern from the left. It finds them just when
they are adjacent somewhere (`hasDoubledStar_iff`), so single stars may come as often as they like.

**Analyzers.** Setting an analyzer keeps the path and forgets the analyzer set before
(`withAnalyzer_eq_ok_iff`). So a run of analyzers is accepted just when each of them has a name, and
it leaves the last one (`withAnalyzers_eq_ok_iff`).

**Rendering.** A field without an analyzer is rendered under one name, which the compact form takes
away. A field with an analyzer and a pattern keep their documents.

Main results: `hasDoubledStar_iff`, `withAnalyzers_eq_ok_iff` and `path_grammar`.
-/

namespace DocumentQuery

/-- **Two stars are found wherever they are adjacent.** -/
theorem hasDoubledStar_iff {cs : List Char} : hasDoubledStar cs = true ↔ ['*', '*'] <:+: cs := by
  fun_induction hasDoubledStar cs with
  | case1 rest => exact iff_of_true rfl ⟨[], rest, rfl⟩
  | case2 c rest hstars ih =>
    -- The two stars are not the first two characters, so they are further on.
    have hhead : ¬ ['*', '*'] <+: c :: rest := by
      rintro ⟨after, h⟩
      obtain ⟨hc, hrest⟩ := List.cons.inj h
      exact hstars after hc.symm hrest.symm
    rw [ih, List.infix_cons_iff, or_iff_right hhead]
  | case3 => exact iff_of_false Bool.false_ne_true (by simp)

theorem star_mem_of_doubled {cs : List Char} (h : ['*', '*'] <:+: cs) : '*' ∈ cs :=
  h.subset List.mem_cons_self

variable {s name : String} {err : SearchPathError}

/-! ## Fields -/

namespace FieldPath

variable {p q : FieldPath} {names : List String}

theorem eq_iff : p = q ↔ p.path = q.path ∧ p.analyzer = q.analyzer := by
  cases p
  cases q
  rw [mk.injEq]

theorem ofString_eq_ok_iff : ofString s = .ok p ↔ p.path = s ∧ p.analyzer = none := by
  constructor
  · intro h
    unfold ofString at h
    split at h
    · cases h
    · split at h
      · cases h
      · obtain rfl := Except.ok.inj h
        exact ⟨rfl, rfl⟩
  · rintro ⟨rfl, hanalyzer⟩
    rw [ofString, dif_neg p.path_ne, dif_neg p.star_notMem, Except.ok.injEq, eq_iff]
    exact ⟨rfl, hanalyzer.symm⟩

/-- **A field path is a text that is not empty and has no star.** -/
theorem exists_ofString_iff : (∃ p, ofString s = .ok p) ↔ s ≠ "" ∧ '*' ∉ s.toList := by
  constructor
  · rintro ⟨p, hp⟩
    obtain ⟨rfl, -⟩ := ofString_eq_ok_iff.1 hp
    exact ⟨p.path_ne, p.star_notMem⟩
  · rintro ⟨hempty, hstar⟩
    exact ⟨⟨s, none, hempty, hstar, by simp⟩, ofString_eq_ok_iff.2 ⟨rfl, rfl⟩⟩

theorem exists_ofString_error_iff :
    (∃ err, ofString s = .error err) ↔ s = "" ∨ '*' ∈ s.toList := by
  rw [← not_iff_not, not_or, ← ne_eq, ← exists_ofString_iff]
  cases ofString s <;> simp

/-! ## Analyzers -/

/-- **An analyzer with a name takes the place of the one before.** -/
theorem withAnalyzer_eq_ok_iff :
    p.withAnalyzer name = .ok q ↔ name ≠ "" ∧ q.path = p.path ∧ q.analyzer = some name := by
  unfold withAnalyzer
  split
  next hname =>
    refine iff_of_false (fun h => ?_) fun h => h.1 hname
    cases h
  next hname => rw [Except.ok.injEq, eq_comm, eq_iff, and_iff_right hname]

theorem withAnalyzers_cons (p : FieldPath) (name : String) (names : List String) :
    p.withAnalyzers (name :: names) = (p.withAnalyzer name).bind (·.withAnalyzers names) :=
  List.foldlM_cons

/-- **A run of analyzers leaves the last one**, and is accepted when all of them have names. -/
theorem withAnalyzers_eq_ok_iff :
    p.withAnalyzers names = .ok q ↔
      (∀ name ∈ names, name ≠ "") ∧ q.path = p.path ∧
        q.analyzer = names.getLast?.or p.analyzer := by
  induction names generalizing p with
  | nil =>
    have hnil : p.withAnalyzers [] = .ok p := rfl
    rw [hnil, Except.ok.injEq, eq_comm, eq_iff]
    simp
  | cons name names ih =>
    have hlast : (name :: names).getLast?.or p.analyzer = names.getLast?.or (some name) := by
      rw [List.getLast?_cons, Option.or_some, Option.some_or]
    rw [withAnalyzers_cons, List.forall_mem_cons, hlast]
    by_cases hname : name = ""
    · have hrefused : p.withAnalyzer name = .error .emptyAnalyzer := dif_pos hname
      rw [hrefused]
      exact iff_of_false (fun h => nomatch h) fun h => h.1.1 hname
    · -- The rest of the run starts from the same path with this analyzer.
      cases hp : p.withAnalyzer name with
      | error err =>
        rw [withAnalyzer, dif_neg hname] at hp
        cases hp
      | ok p' =>
        obtain ⟨-, hpath, hanalyzer⟩ := withAnalyzer_eq_ok_iff.1 hp
        rw [Except.bind, ih, hpath, hanalyzer, and_iff_right hname]

theorem exists_withAnalyzers_iff :
    (∃ q, p.withAnalyzers names = .ok q) ↔ ∀ name ∈ names, name ≠ "" := by
  refine ⟨fun ⟨q, hq⟩ => (withAnalyzers_eq_ok_iff.1 hq).1, fun h => ?_⟩
  have hanalyzer : names.getLast?.or p.analyzer ≠ some "" := by
    cases hlast : names.getLast? with
    | none => exact p.analyzer_ne
    | some last =>
      intro heq
      exact h last (List.mem_of_getLast? hlast) (Option.some.inj heq)
  exact ⟨⟨p.path, names.getLast?.or p.analyzer, p.path_ne, p.star_notMem, hanalyzer⟩,
    withAnalyzers_eq_ok_iff.2 ⟨h, rfl, rfl⟩⟩

/-! ## Rendering -/

/-- The entries that a field is rendered to. -/
theorem toList_render (p : FieldPath) :
    p.render.toList = match p.analyzer with
      | none => [("path", .string p.path)]
      | some name => [("value", .string p.path), ("multi", .string name)] := by
  rw [render]
  cases p.analyzer <;> rfl

theorem compact_eq_string_iff : p.compact = .string p.path ↔ p.analyzer = none := by
  rw [compact_eq]
  cases p.analyzer with
  | none => exact iff_of_true rfl rfl
  | some name => exact iff_of_false (fun h => nomatch h) (fun h => nomatch h)

end FieldPath

/-! ## Patterns -/

namespace WildcardPath

variable {w : WildcardPath}

theorem ofString_eq_ok_iff : ofString s = .ok w ↔ w.pattern = s := by
  constructor
  · intro h
    unfold ofString at h
    split at h
    · cases h
    · split at h
      · cases h
      · split at h
        · obtain rfl := Except.ok.inj h
          rfl
        · cases h
  · rintro rfl
    have hempty : w.pattern ≠ "" := by
      intro h
      have hstar := w.star_mem
      rw [h] at hstar
      cases hstar
    rw [ofString, if_neg hempty, dif_neg (Bool.eq_false_iff.1 w.stars_apart), dif_pos w.star_mem]

/-- **A pattern is a text with a star, but no two adjacent ones.** -/
theorem exists_ofString_iff :
    (∃ w, ofString s = .ok w) ↔ '*' ∈ s.toList ∧ ¬ ['*', '*'] <:+: s.toList := by
  rw [← hasDoubledStar_iff, Bool.not_eq_true]
  constructor
  · rintro ⟨w, hw⟩
    obtain rfl := ofString_eq_ok_iff.1 hw
    exact ⟨w.star_mem, w.stars_apart⟩
  · rintro ⟨hstar, hapart⟩
    exact ⟨⟨s, hstar, hapart⟩, ofString_eq_ok_iff.2 rfl⟩

theorem exists_ofString_error_iff :
    (∃ err, ofString s = .error err) ↔ '*' ∉ s.toList ∨ ['*', '*'] <:+: s.toList := by
  rw [← not_iff_not, not_or, not_not, ← exists_ofString_iff]
  cases ofString s <;> simp

end WildcardPath

/-! ## Both kinds -/

/-- **The grammar of paths.** A text is a field path if and only if it is not empty and has no star,
and a pattern if and only if it has stars, no two of them adjacent. No text is both, and neither of
them is accepted just when the text is empty or has two adjacent stars. A run of analyzers on a
field path is accepted if and only if all of them have names. It leaves the path with the last
analyzer, and the field is rendered to its text, under one name, if there is none, and else to two
entries. Only without analyzers is the compact form the text. A pattern is rendered to its text
under one name, and its compact form is that document. -/
theorem SearchPath.path_grammar :
    (∀ s : String,
      ((∃ p, FieldPath.ofString s = .ok p) ↔ s ≠ "" ∧ '*' ∉ s.toList) ∧
      ((∃ w, WildcardPath.ofString s = .ok w) ↔
        '*' ∈ s.toList ∧ ¬ ['*', '*'] <:+: s.toList) ∧
      ¬ ((∃ p, FieldPath.ofString s = .ok p) ∧ ∃ w, WildcardPath.ofString s = .ok w) ∧
      ((∃ err, FieldPath.ofString s = .error err) ∧ (∃ err, WildcardPath.ofString s = .error err) ↔
        s = "" ∨ ['*', '*'] <:+: s.toList)) ∧
    (∀ (s : String) (p : FieldPath) (names : List String), FieldPath.ofString s = .ok p →
      ((∃ q, p.withAnalyzers names = .ok q) ↔ ∀ name ∈ names, name ≠ "") ∧
      ∀ q, p.withAnalyzers names = .ok q →
        (SearchPath.field q).raw = s ∧ q.analyzer = names.getLast? ∧
        (q.render.toList = match names.getLast? with
          | none => [("path", .string s)]
          | some name => [("value", .string s), ("multi", .string name)]) ∧
        (q.compact = .string s ↔ names = [])) ∧
    ∀ (s : String) (w : WildcardPath), WildcardPath.ofString s = .ok w →
      (SearchPath.wildcard w).raw = s ∧ w.render.toList = [("wildcard", .string s)] ∧
        w.compact = .document w.render := by
  refine ⟨fun s => ⟨FieldPath.exists_ofString_iff, WildcardPath.exists_ofString_iff, ?_, ?_⟩,
    fun s p names hp => ⟨FieldPath.exists_withAnalyzers_iff, fun q hq => ?_⟩, fun s w hw => ?_⟩
  · rw [FieldPath.exists_ofString_iff, WildcardPath.exists_ofString_iff]
    rintro ⟨⟨-, hnone⟩, hstar, -⟩
    exact hnone hstar
  · rw [FieldPath.exists_ofString_error_iff, WildcardPath.exists_ofString_error_iff]
    constructor
    · rintro ⟨rfl | hstar, hnone | hdoubled⟩
      · exact Or.inl rfl
      · exact Or.inl rfl
      · exact absurd hstar hnone
      · exact Or.inr hdoubled
    · rintro (rfl | hdoubled)
      · exact ⟨Or.inl rfl, Or.inl List.not_mem_nil⟩
      · exact ⟨Or.inr (star_mem_of_doubled hdoubled), Or.inr hdoubled⟩
  · obtain ⟨rfl, hnone⟩ := FieldPath.ofString_eq_ok_iff.1 hp
    obtain ⟨-, hpath, hlast⟩ := FieldPath.withAnalyzers_eq_ok_iff.1 hq
    rw [hnone, Option.or_none] at hlast
    refine ⟨hpath, hlast, ?_, ?_⟩
    · rw [FieldPath.toList_render, hpath, hlast]
    · rw [← hpath, FieldPath.compact_eq_string_iff, hlast, List.getLast?_eq_none_iff]
  · obtain rfl := WildcardPath.ofString_eq_ok_iff.1 hw
    exact ⟨rfl, rfl, rfl⟩

/-- The second analyzer takes the place of the first, and stars at both ends are apart. -/
theorem SearchPath.path_grammar_name :
    ∃ p, FieldPath.ofString "name.völlig" = .ok p ∧
      (∃ q, p.withAnalyzers ["english", "german"] = .ok q ∧
        q.render.toList = [("value", .string "name.völlig"), ("multi", .string "german")] ∧
        q.compact ≠ .string "name.völlig") ∧
      (¬ ∃ q, p.withAnalyzers ["english", "", "german"] = .ok q) ∧
      ∃ w, WildcardPath.ofString "*.völlig.*" = .ok w ∧ w.compact = .document w.render := by
  obtain ⟨haccepted, hfields, hpatterns⟩ := path_grammar
  obtain ⟨p, hp⟩ := (haccepted "name.völlig").1.2 ⟨by decide, by decide⟩
  have hapart : ¬ ['*', '*'] <:+: "*.völlig.*".toList := by
    rw [← hasDoubledStar_iff]
    decide
  obtain ⟨w, hw⟩ := (haccepted "*.völlig.*").2.1.2 ⟨by decide, hapart⟩
  obtain ⟨hnamed, hrun⟩ := hfields _ p ["english", "german"] hp
  obtain ⟨q, hq⟩ := hnamed.2 (by decide)
  obtain ⟨-, -, hrender, hcompact⟩ := hrun q hq
  have hunnamed : ¬ ∃ q, p.withAnalyzers ["english", "", "german"] = .ok q := by
    rw [(hfields _ p ["english", "", "german"] hp).1]
    decide
  exact ⟨p, hp, ⟨q, hq, hrender, mt hcompact.1 (by decide)⟩, hunnamed, w, hw,
    (hpatterns _ w hw).2.2⟩

end DocumentQuery
