import DocumentQuery.Expression.Evaluation
import Mathlib.Data.List.Forall2

/-!
# Expressions as trees

An expression is a scalar, null, a document or an array of expressions. What is shown of the first
three can be shown of all expressions, with the array from its items (`Expression.induction`).

**Arrays.** The value of an array goes with the array item by item (`evaluateItems_eq_ok_iff`), so a
relation between expressions and values is carried from the items to the array.

Main results: `Expression.induction` and `evaluateItems_eq_ok_iff`.
-/

namespace DocumentQuery

/-! ## Lists related item by item -/

section Forall₂

variable {α β : Type} {R S : α → β → Prop} {as : List α} {bs : List β}

theorem forall₂_imp_of_mem (hRS : ∀ a ∈ as, ∀ b, R a b → S a b) (h : List.Forall₂ R as bs) :
    List.Forall₂ S as bs := by
  have hboth := (List.forall₂_and_left as bs).2 ⟨hRS, h⟩
  apply hboth.imp
  intro a b hab
  exact hab.1 b hab.2

theorem exists_forall₂ (h : ∀ a ∈ as, ∃ b, R a b) : ∃ bs, List.Forall₂ R as bs := by
  induction as with
  | nil => exact ⟨[], .nil⟩
  | cons a as ih =>
    obtain ⟨b, hb⟩ := h a List.mem_cons_self
    obtain ⟨bs, hbs⟩ := ih fun a' ha' => h a' (List.mem_cons_of_mem a ha')
    exact ⟨b :: bs, .cons hb hbs⟩

theorem exists_eq_map_some {as : List (Option α)} (h : none ∉ as) :
    ∃ bs : List α, as = bs.map some := by
  have hsome : ∀ a ∈ as, ∃ b, a = some b := fun a ha =>
    Option.ne_none_iff_exists'.1 (ne_of_mem_of_not_mem ha h)
  obtain ⟨bs, hbs⟩ := exists_forall₂ hsome
  rw [← List.forall₂_map_right_iff, List.forall₂_eq_eq_eq] at hbs
  exact ⟨bs, hbs⟩

theorem exists_of_forall₂_right (h : List.Forall₂ R as bs) {b : β} (hb : b ∈ bs) :
    ∃ a ∈ as, R a b := by
  induction h with
  | nil => exact nomatch hb
  | @cons a b' as bs hab _ ih =>
    rcases List.mem_cons.1 hb with rfl | hb
    · exact ⟨a, List.mem_cons_self, hab⟩
    · obtain ⟨a', ha', hR⟩ := ih hb
      exact ⟨a', List.mem_cons_of_mem a ha', hR⟩

end Forall₂

variable {H : HostTypes}

namespace Expression

/-! ## Induction -/

variable {P : Expression H → Prop}

mutual

/-- **Induction over expressions**, through the items of arrays. -/
theorem induction (literal : ∀ s, P (.literal s))
    (array : ∀ items, (∀ item ∈ items, P item) → P (.array items))
    (document : ∀ source, P (.document source)) (null : P .null) : ∀ e : Expression H, P e
  | .literal s => literal s
  | .array items => array items (induction_items literal array document null items)
  | .document source => document source
  | .null => null

theorem induction_items (literal : ∀ s, P (.literal s))
    (array : ∀ items, (∀ item ∈ items, P item) → P (.array items))
    (document : ∀ source, P (.document source)) (null : P .null) :
    ∀ items : List (Expression H), ∀ item ∈ items, P item
  | [] => fun _ h => nomatch h
  | first :: rest => by
    intro item h
    rcases List.mem_cons.1 h with h | h
    · rw [h]
      exact induction literal array document null first
    · exact induction_items literal array document null rest item h

end

/-! ## Expressions that have a value -/

variable {R : Registry H} {v : Value}

/-- **Arrays are evaluated item by item.** -/
theorem evaluateItems_eq_ok_iff {items : List (Expression H)} {vs : List Value} :
    evaluateItems R items = .ok vs ↔
      List.Forall₂ (fun item v => item.evaluate R = .ok v) items vs := by
  induction items generalizing vs with
  | nil => simp [evaluateItems, eq_comm]
  | cons item rest ih =>
    rw [evaluateItems, List.forall₂_cons_left_iff]
    cases hitem : item.evaluate R with
    | error e => simp [bind, Except.bind]
    | ok w =>
      cases hrest : evaluateItems R rest with
      | error e => simp [bind, Except.bind, ← ih, hrest]
      | ok ws =>
        simp only [bind, Except.bind, pure, Except.pure, ← ih, hrest, Except.ok.injEq,
          exists_and_left, exists_eq_left']
        exact eq_comm

theorem evaluate_array_eq_ok_iff {items : List (Expression H)} :
    (array items).evaluate R = .ok v ↔
      ∃ vs, List.Forall₂ (fun item v => item.evaluate R = .ok v) items vs ∧ v = .array vs := by
  rw [evaluate]
  cases hitems : evaluateItems R items with
  | error e => simp [Except.map, ← evaluateItems_eq_ok_iff, hitems]
  | ok vs =>
    simp only [Except.map, ← evaluateItems_eq_ok_iff, hitems, Except.ok.injEq, exists_eq_left']
    exact eq_comm

theorem evaluate_document_eq_ok_iff {source : DocumentSource H} :
    (document source).evaluate R = .ok v ↔
      ∃ d, source.encode R = .ok d ∧ v = .document (.singleton literalName (.document d)) := by
  rw [evaluate]
  cases source.encode R <;> simp [eq_comm]

end Expression

end DocumentQuery
