/-!
# Slots

One value for each key of a list: the contents of an ordered map, whose list of keys is known by
the type.

Being an inductive family rather than a list of pairs, `Slots` may occur inside the type of its
own values: a type whose values hold maps of that same type is an ordinary nested inductive type,
and functions on it recurse through the slots.
-/

namespace DocumentQuery

/-- One value for each key of a list. -/
inductive Slots (κ α : Type) : List κ → Type
  | nil : Slots κ α []
  | cons {ks : List κ} (k : κ) (v : α) (rest : Slots κ α ks) : Slots κ α (k :: ks)

namespace Slots

variable {κ α : Type} {ks : List κ}

def toList {ks : List κ} : Slots κ α ks → List (κ × α)
  | .nil => []
  | .cons k v rest => (k, v) :: rest.toList

/-- The slots with one more at the end. -/
def snoc {ks : List κ} (k : κ) (v : α) : Slots κ α ks → Slots κ α (ks ++ [k])
  | .nil => .cons k v .nil
  | .cons k' v' rest => .cons k' v' (rest.snoc k v)

/-! ## Entries -/

theorem toList_injective {s t : Slots κ α ks} (h : s.toList = t.toList) : s = t := by
  induction s with
  | nil => cases t; rfl
  | cons k v rest ih =>
    cases t with
    | cons k' v' rest' =>
      simp only [toList, List.cons.injEq, Prod.mk.injEq, true_and] at h
      rw [h.1, ih h.2]

@[simp] theorem map_fst_toList (s : Slots κ α ks) : s.toList.map Prod.fst = ks := by
  induction s with
  | nil => rfl
  | cons k v rest ih => simp [toList, ih]

@[simp] theorem toList_snoc (s : Slots κ α ks) (k : κ) (v : α) :
    (s.snoc k v).toList = s.toList ++ [(k, v)] := by
  induction s with
  | nil => rfl
  | cons k' v' rest ih => simp [snoc, toList, ih]

/-! ## Look-up and replacement -/

variable [DecidableEq κ]

def get? {ks : List κ} (k : κ) : Slots κ α ks → Option α
  | .nil => none
  | .cons k' v rest => if k' = k then some v else rest.get? k

/-- Puts a value into the slot of a key, and returns the one that was there. -/
def swap {ks : List κ} (k : κ) (v : α) : (s : Slots κ α ks) → k ∈ ks → α × Slots κ α ks
  | .cons k' old rest, h =>
    if hk : k' = k then (old, .cons k' v rest)
    else
      let (found, rest) := rest.swap k v ((List.mem_cons.1 h).resolve_left (Ne.symm hk))
      (found, .cons k' old rest)

theorem get?_eq_none_iff {s : Slots κ α ks} {k : κ} : s.get? k = none ↔ k ∉ ks := by
  induction s with
  | nil => simp [get?]
  | cons k' v rest ih =>
    by_cases h : k' = k
    · simp [get?, h]
    · simp [get?, h, ih, Ne.symm h]

theorem get?_snoc (s : Slots κ α ks) {k : κ} (h : k ∉ ks) (k' : κ) (v : α) :
    (s.snoc k v).get? k' = if k = k' then some v else s.get? k' := by
  induction s with
  | nil => simp [snoc, get?]
  | cons k₀ v₀ rest ih =>
    simp only [List.mem_cons, not_or] at h
    simp only [snoc, get?, ih h.2]
    by_cases h₀ : k₀ = k'
    · simp [h₀, show k ≠ k' from h₀ ▸ h.1]
    · simp [h₀]

theorem get?_swap (s : Slots κ α ks) {k : κ} (h : k ∈ ks) (k' : κ) (v : α) :
    (s.swap k v h).2.get? k' = if k = k' then some v else s.get? k' := by
  induction s with
  | nil => exact absurd h (by simp)
  | cons k₀ v₀ rest ih =>
    unfold swap
    by_cases hk : k₀ = k
    · subst hk; simp only [dif_pos, get?]; split <;> rfl
    · simp only [dif_neg hk, get?, ih]
      by_cases h₀ : k₀ = k'
      · simp [h₀, show k ≠ k' from h₀ ▸ Ne.symm hk]
      · simp [h₀]

theorem get?_eq_lookup (s : Slots κ α ks) (k : κ) : s.get? k = s.toList.lookup k := by
  induction s with
  | nil => rfl
  | cons k' v rest ih =>
    rw [get?, toList, List.lookup_cons, ih]
    by_cases h : k' = k
    · simp [h]
    · simp [h, beq_false_of_ne (Ne.symm h)]

theorem get?_eq_some_iff {s : Slots κ α ks} (hnodup : ks.Nodup) {k : κ} {v : α} :
    s.get? k = some v ↔ (k, v) ∈ s.toList := by
  induction s with
  | nil => simp [get?, toList]
  | @cons ks k' v' rest ih =>
    obtain ⟨hfresh, hnodup⟩ := List.nodup_cons.1 hnodup
    rw [get?, toList, List.mem_cons]
    by_cases h : k' = k
    · have hrest : (k, v) ∉ rest.toList := by
        intro hmem
        have hkey : k ∈ rest.toList.map Prod.fst := List.mem_map_of_mem hmem
        rw [map_fst_toList, ← h] at hkey
        exact hfresh hkey
      simp [h, hrest, eq_comm]
    · simp [h, Ne.symm h, ih hnodup]

theorem toList_swap (s : Slots κ α ks) (hnodup : ks.Nodup) {k : κ} (h : k ∈ ks) (v : α) :
    (s.swap k v h).2.toList = s.toList.map fun entry => if entry.1 = k then (k, v) else entry := by
  induction s with
  | nil => exact absurd h (by simp)
  | cons k' old rest ih =>
    obtain ⟨hfresh, hnodup⟩ := List.nodup_cons.1 hnodup
    unfold swap
    by_cases hk : k' = k
    · subst hk
      -- The key does not come again, so the other entries stay.
      have hrest : rest.toList.map (fun entry => if entry.1 = k' then (k', v) else entry) =
          rest.toList.map id := by
        apply List.map_congr_left
        intro entry hentry
        have hmem : entry.1 ∈ rest.toList.map Prod.fst := List.mem_map_of_mem hentry
        rw [map_fst_toList] at hmem
        exact if_neg fun heq : entry.1 = k' => hfresh (heq ▸ hmem)
      rw [dif_pos rfl, toList, toList, List.map_cons, if_pos rfl, hrest, List.map_id]
    · rw [dif_neg hk, toList, toList, List.map_cons, if_neg hk]
      exact congrArg _ (ih hnodup _)

theorem some_swap_fst (s : Slots κ α ks) {k : κ} (h : k ∈ ks) (v : α) :
    some (s.swap k v h).1 = s.get? k := by
  induction s with
  | nil => exact absurd h (by simp)
  | cons k₀ v₀ rest ih =>
    unfold swap
    by_cases hk : k₀ = k
    · simp [hk, get?]
    · simp [hk, get?, ih]

end Slots

end DocumentQuery
