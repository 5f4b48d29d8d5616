import DocumentQuery.Text.Digits
import DocumentQuery.Text.Quoted

/-!
# Cutting texts apart

Texts are written one after the other without any mark of their length. They can be told apart
again because what follows a text never looks like a continuation of it.

**Runs.** A run of characters of one kind ends where a character of another kind follows
(`Stops`), so it can be cut off from the rest in one way only.

**Numerals.** The digits of a number, padded or not, are such a run.

**Quoted texts.** `unescape?` reads one character between quotes back. It needs no more than the
spelling of that character, and stops at the closing quote.

Main results: `append_inj_of_stops`, `padded_append_inj` and `escapeAll_append_inj`.
-/

namespace DocumentQuery.Text

-- Powers of natural numbers are those of the core library, also beside a library with others.
attribute [local instance (2000)] instPowNat

/-! ## Runs -/

/-- The text is empty or starts with a character outside the class. -/
def Stops (p : Char → Bool) (r : List Char) : Prop := ∀ c ∈ r.head?, p c = false

theorem stops_nil (p : Char → Bool) : Stops p [] := fun _ h => nomatch h

theorem stops_cons {p : Char → Bool} {c : Char} (h : p c = false) (r : List Char) :
    Stops p (c :: r) := by
  intro d hd
  rw [List.head?_cons, Option.mem_some_iff] at hd
  exact hd ▸ h

theorem takeWhile_of_stops {p : Char → Bool} {r : List Char} (h : Stops p r) :
    r.takeWhile p = [] := by
  cases r with
  | nil => rfl
  | cons c r => exact List.takeWhile_cons_of_neg (by simp [h c rfl])

theorem dropWhile_of_stops {p : Char → Bool} {r : List Char} (h : Stops p r) :
    r.dropWhile p = r := by
  cases r with
  | nil => rfl
  | cons c r => exact List.dropWhile_cons_of_neg (by simp [h c rfl])

theorem takeWhile_append_stops {p : Char → Bool} {xs r : List Char} (hx : ∀ c ∈ xs, p c = true)
    (hr : Stops p r) : (xs ++ r).takeWhile p = xs := by
  rw [List.takeWhile_append_of_pos hx, takeWhile_of_stops hr, List.append_nil]

theorem dropWhile_append_stops {p : Char → Bool} {xs r : List Char} (hx : ∀ c ∈ xs, p c = true)
    (hr : Stops p r) : (xs ++ r).dropWhile p = r := by
  rw [List.dropWhile_append_of_pos hx, dropWhile_of_stops hr]

/-- **A run is cut off from what follows in one way only.** -/
theorem append_inj_of_stops {p : Char → Bool} {xs ys r s : List Char}
    (hx : ∀ c ∈ xs, p c = true) (hy : ∀ c ∈ ys, p c = true) (hr : Stops p r) (hs : Stops p s)
    (h : xs ++ r = ys ++ s) : xs = ys ∧ r = s := by
  have hxs : xs = ys := by
    rw [← takeWhile_append_stops hx hr, h, takeWhile_append_stops hy hs]
  rw [hxs] at h
  exact ⟨hxs, List.append_cancel_left h⟩

/-! ## Numerals -/

theorem value_append_replicate_zero (ds : List Char) (k : Nat) :
    value (ds ++ List.replicate k '0') = value ds * 10 ^ k := by
  rw [value, Nat.ofDigitChars_append, Nat.ofDigitChars_replicate_zero, Nat.mul_comm]
  rfl

theorem value_replicate_zero_append (ds : List Char) (k : Nat) :
    value (List.replicate k '0' ++ ds) = value ds := by
  rw [value, Nat.ofDigitChars_append, Nat.ofDigitChars_replicate_zero, Nat.mul_zero]
  rfl

theorem value_zero_cons (ds : List Char) : value ('0' :: ds) = value ds :=
  value_replicate_zero_append ds 1

theorem value_cons (c : Char) (cs : List Char) :
    value (c :: cs) = (c.toNat - 48) * 10 ^ cs.length + value cs := by
  rw [value, Nat.ofDigitChars_cons, Nat.ofDigitChars_eq_ofDigitChars_zero, Nat.mul_zero,
    Nat.zero_add, Nat.mul_comm]
  rfl

/-- The number of a digit. -/
theorem toNat_of_isDigit {c : Char} (h : c.isDigit) : 48 ≤ c.toNat ∧ c.toNat ≤ 57 := by
  rw [Char.isDigit, Bool.and_eq_true, decide_eq_true_iff, decide_eq_true_iff] at h
  exact h

theorem value_lt_pow {cs : List Char} (h : ∀ c ∈ cs, c.isDigit) : value cs < 10 ^ cs.length := by
  induction cs with
  | nil => exact Nat.one_pos
  | cons c cs ih =>
    obtain ⟨hc, hcs⟩ := List.forall_mem_cons.1 h
    have hdigit := (toNat_of_isDigit hc).2
    have hrest := ih hcs
    have hstep : (c.toNat - 48) * 10 ^ cs.length ≤ 9 * 10 ^ cs.length :=
      Nat.mul_le_mul_right _ (by omega)
    rw [value_cons, List.length_cons, Nat.pow_succ]
    omega

theorem digits_append_inj {m n : Nat} {r s : List Char} (hr : Stops Char.isDigit r)
    (hs : Stops Char.isDigit s) (h : digits m ++ r = digits n ++ s) : m = n ∧ r = s := by
  obtain ⟨hd, hrs⟩ := append_inj_of_stops (fun _ => isDigit_of_mem_digits)
    (fun _ => isDigit_of_mem_digits) hr hs h
  exact ⟨digits_injective hd, hrs⟩

theorem padded_append_inj {w m n : Nat} {r s : List Char} (hr : Stops Char.isDigit r)
    (hs : Stops Char.isDigit s) (h : padded w m ++ r = padded w n ++ s) : m = n ∧ r = s := by
  obtain ⟨hd, hrs⟩ := append_inj_of_stops (fun _ => isDigit_of_mem_padded)
    (fun _ => isDigit_of_mem_padded) hr hs h
  refine ⟨?_, hrs⟩
  rw [← value_padded w m, hd, value_padded]

theorem length_padded {w n : Nat} (hw : 0 < w) (h : n < 10 ^ w) : (padded w n).length = w := by
  have hlen : (digits n).length ≤ w := (Nat.length_toDigits_le_iff (by decide) hw).2 h
  rw [padded, List.length_append, List.length_replicate]
  omega

theorem padded_ne_nil (w n : Nat) : padded w n ≠ [] := fun h =>
  digits_ne_nil n (List.append_eq_nil_iff.1 h).2

/-! ## Quoted texts -/

/-- The number that a hexadecimal digit in lower case stands for. -/
def hexValue (c : Char) : Nat := if c.isDigit then c.toNat - 48 else c.toNat - 87

/-- The first character of a quoted text, read back from its spelling, and what follows. There is
none at the closing quote. -/
def unescape? : List Char → Option (Char × List Char)
  | '\\' :: 'u' :: '0' :: '0' :: high :: low :: rest =>
    some (Char.ofNat (16 * hexValue high + hexValue low), rest)
  | '\\' :: 'b' :: rest => some ('\x08', rest)
  | '\\' :: 'f' :: rest => some ('\x0c', rest)
  | '\\' :: 'n' :: rest => some ('\n', rest)
  | '\\' :: 'r' :: rest => some ('\r', rest)
  | '\\' :: 't' :: rest => some ('\t', rest)
  | '\\' :: c :: rest => some (c, rest)
  | '"' :: _ => none
  | c :: rest => some (c, rest)
  | [] => none

theorem hexValue_digitChar : ∀ n < 16, hexValue (Nat.digitChar n) = n := by decide

theorem unescape?_quote (r : List Char) : unescape? ('"' :: r) = none := rfl

/-- **The spelling of a character reads back**, whatever follows. -/
theorem unescape?_escape (c : Char) (r : List Char) : unescape? (escape c ++ r) = some (c, r) := by
  unfold escape
  split
  · next h => rw [h]; rfl
  split
  · next h => rw [h]; rfl
  split
  · next h => rw [h]; rfl
  split
  · next h => rw [h]; rfl
  split
  · next h => rw [h]; rfl
  split
  · next h => rw [h]; rfl
  split
  · next h => rw [h]; rfl
  split
  · next h =>
    show some (Char.ofNat _, r) = some (c, r)
    rw [hexValue_digitChar _ (by omega), hexValue_digitChar _ (by omega), Nat.div_add_mod,
      Char.ofNat_toNat]
  · next hquote hbackslash _ _ _ _ _ _ =>
    rw [List.singleton_append, unescape?.eq_def]
    split <;> simp_all

/-- **A quoted text ends at its closing quote**, and only one text has its spelling. -/
theorem escapeAll_append_inj {cs ds r s : List Char}
    (h : escapeAll cs ++ '"' :: r = escapeAll ds ++ '"' :: s) : cs = ds ∧ r = s := by
  induction cs generalizing ds with
  | nil =>
    cases ds with
    | nil => exact ⟨rfl, (List.cons.inj h).2⟩
    | cons d ds =>
      have hread := congrArg unescape? h
      rw [escapeAll_cons, List.append_assoc, unescape?_escape] at hread
      exact nomatch (unescape?_quote r).symm.trans hread
  | cons c cs ih =>
    have hread := congrArg unescape? h
    rw [escapeAll_cons, List.append_assoc, unescape?_escape] at hread
    cases ds with
    | nil => exact nomatch hread.trans (unescape?_quote s)
    | cons d ds =>
      rw [escapeAll_cons, List.append_assoc, unescape?_escape, Option.some.injEq,
        Prod.mk.injEq] at hread
      obtain ⟨rfl, hrest⟩ := hread
      obtain ⟨rfl, hrs⟩ := ih hrest
      exact ⟨rfl, hrs⟩

theorem quoted_append_inj {a b : String} {r s : List Char} (h : quoted a ++ r = quoted b ++ s) :
    a = b ∧ r = s := by
  have hbody : escapeAll a.toList ++ '"' :: r = escapeAll b.toList ++ '"' :: s := by
    simpa [quoted] using h
  obtain ⟨hlist, hrs⟩ := escapeAll_append_inj hbody
  exact ⟨String.toList_inj.1 hlist, hrs⟩

end DocumentQuery.Text
