/-!
# Decimal digits

Numbers are written in base ten, most significant digit first, as lists of characters.

**Numerals.** `digits` writes a natural number without leading zeros (zero itself is one `0`),
`padded` brings it up to a least width with zeros, and `signed` puts a minus sign in front of a
negative integer. `value` reads a list of digits back.

Main results: `value_digits`, `value_padded`, `digits_injective` and `signed_injective`.
-/

namespace DocumentQuery.Text

/-- The decimal digits of a natural number. -/
def digits (n : Nat) : List Char := Nat.toDigits 10 n

/-- The number that a list of decimal digits denotes. -/
def value (ds : List Char) : Nat := Nat.ofDigitChars 10 ds 0

/-- The decimal digits of `n`, with zeros in front where there are fewer than `width`. -/
def padded (width n : Nat) : List Char :=
  List.replicate (width - (digits n).length) '0' ++ digits n

/-- The decimal digits of an integer, after a minus sign if it is negative. -/
def signed (z : Int) : List Char :=
  if z < 0 then '-' :: digits z.natAbs else digits z.natAbs

/-! ## Reading digits back -/

theorem value_digits (n : Nat) : value (digits n) = n := by
  simp [value, digits, Nat.ofDigitChars_toDigits]

theorem value_padded (width n : Nat) : value (padded width n) = n := by
  simp only [value, padded, Nat.ofDigitChars_append, Nat.ofDigitChars_replicate_zero, Nat.mul_zero]
  exact value_digits n

theorem digits_injective {m n : Nat} (h : digits m = digits n) : m = n := by
  rw [← value_digits m, h, value_digits]

theorem isDigit_of_mem_digits {c : Char} {n : Nat} (h : c ∈ digits n) : c.isDigit :=
  Nat.isDigit_of_mem_toDigits (by decide) (by decide) h

theorem digits_ne_nil (n : Nat) : digits n ≠ [] := Nat.toDigits_ne_nil

theorem isDigit_of_mem_padded {c : Char} {width n : Nat} (h : c ∈ padded width n) : c.isDigit := by
  rcases List.mem_append.1 h with h | h
  · rw [List.eq_of_mem_replicate h]; rfl
  · exact isDigit_of_mem_digits h

theorem head_digits_ne_minus {n : Nat} {ds : List Char} : digits n ≠ '-' :: ds := fun h =>
  absurd (isDigit_of_mem_digits (h ▸ List.mem_cons_self : '-' ∈ digits n)) (by decide)

theorem signed_injective {a b : Int} (h : signed a = signed b) : a = b := by
  unfold signed at h
  split at h <;> split at h
  · have := digits_injective (List.cons.inj h).2; omega
  · exact absurd h.symm head_digits_ne_minus
  · exact absurd h head_digits_ne_minus
  · have := digits_injective h; omega

end DocumentQuery.Text
