import DocumentQuery.Json.Compact
import DocumentQuery.Proofs.DoubleText
import DocumentQuery.Proofs.JsonTree

/-!
# Compact JSON texts have one tree

The compact text of a JSON tree is read from left to right without looking ahead: where a tree ends
is clear from its own text, except for a number, which ends where no numeral follows. Commas and
closing brackets are no numerals, so that is enough inside arrays and objects.

**Openings.** The first character of a text says the kind of the tree, but does not tell whole
numbers from real ones (`head_write`). Those are told apart by their other characters.

**Lists.** Items and fields are lists of texts with commas between them and a bracket at the end.
One lemma (`commaSeparated_append_inj`) takes both apart.

Main results: `write_append_inj` and `compact_injective`.
-/

namespace DocumentQuery

namespace Json

open Text

/-! ## Numbers -/

/-- Whole numbers have neither a point nor an exponent. -/
theorem eq_minus_or_isDigit_of_mem_signed {z : Int} {c : Char} (h : c ∈ signed z) :
    c = '-' ∨ c.isDigit := by
  rw [signed] at h
  split at h
  · rcases List.mem_cons.1 h with rfl | h
    · exact Or.inl rfl
    · exact Or.inr (isDigit_of_mem_digits h)
  · exact Or.inr (isDigit_of_mem_digits h)

theorem isNumeral_of_mem_signed {z : Int} {c : Char} (h : c ∈ signed z) : isNumeral c := by
  rcases eq_minus_or_isDigit_of_mem_signed h with rfl | hdigit
  · rfl
  · exact isNumeral_of_isDigit hdigit

/-- The text of a finite double is its sign and the text of its magnitude. -/
theorem write_real (d : Json.Real) : write (.real d) =
    (if d.val.IsNegative then ['-'] else []) ++ Double.writeMagnitude .plain d.val.magnitude := by
  have hnan : ¬ d.val.IsNaN := Nat.lt_asymm d.finite
  have hinf : ¬ d.val.IsInfinite := Nat.ne_of_lt d.finite
  rw [write, Double.write, if_neg hnan, if_neg hinf]

theorem isNumeral_of_mem_real {d : Json.Real} {c : Char} (h : c ∈ write (.real d)) :
    isNumeral c := by
  rw [write_real] at h
  rcases List.mem_append.1 h with h | h
  · split at h
    · rw [List.mem_singleton.1 h]; rfl
    · exact nomatch h
  · exact Double.isNumeral_of_mem_writeMagnitude rfl h

theorem write_real_ne_whole (d : Json.Real) (n : Whole) : write (.real d) ≠ write (.whole n) := by
  intro h
  obtain ⟨c, hc, hmark⟩ := Double.exists_mem_writeMagnitude (m := d.val.magnitude)
    (l := .plain) rfl rfl
  have hmem : c ∈ signed n.val := by
    rw [show signed n.val = write (.whole n) from rfl, ← h, write_real]
    exact List.mem_append_right _ hc
  rcases eq_minus_or_isDigit_of_mem_signed hmem with rfl | hdigit
  · exact absurd hmark (by decide)
  · rcases hmark with rfl | hmarker
    · exact absurd hdigit (by decide)
    · exact absurd hmarker (by simpa using not_isMarker_of_isDigit hdigit)

theorem whole_injective {m n : Whole} (h : write (.whole m) = write (.whole n)) : m = n := by
  cases m
  cases n
  rw [Whole.mk.injEq]
  exact signed_injective h

theorem real_injective {a b : Json.Real} (h : write (.real a) = write (.real b)) : a = b := by
  have hval : a.val = b.val := by
    rcases (Double.write_eq_write_iff (l := .plain) ⟨rfl, rfl⟩).1 h with h | h
    · exact h
    · exact absurd a.finite (Nat.lt_asymm h.1)
  cases a
  cases b
  rw [Json.Real.mk.injEq]
  exact hval

/-! ## The first character -/

/-- What the first character of a text can say of its tree. -/
inductive Opening where
  | null
  | bool (b : Bool)
  | number
  | string
  | array
  | object

/-- What the text of a tree starts as. -/
def opening : Json → Opening
  | .null => .null
  | .bool b => .bool b
  | .whole _ => .number
  | .real _ => .number
  | .string _ => .string
  | .array _ => .array
  | .object _ => .object

/-- What a first character says, if a text can start with it. -/
def opening? (c : Char) : Option Opening :=
  if isNumeral c then some .number
  else if c = 'n' then some .null
  else if c = 't' then some (.bool true)
  else if c = 'f' then some (.bool false)
  else if c = '"' then some .string
  else if c = '[' then some .array
  else if c = '\x7b' then some .object
  else none

theorem head_number {cs : List Char} (hne : cs ≠ []) (h : ∀ c ∈ cs, isNumeral c) :
    ∃ c rest, cs = c :: rest ∧ opening? c = some .number := by
  obtain ⟨c, rest, hcs⟩ := List.exists_cons_of_ne_nil hne
  exact ⟨c, rest, hcs, if_pos (h c (hcs ▸ List.mem_cons_self))⟩

theorem head_write (j : Json) : ∃ c rest, write j = c :: rest ∧ opening? c = some (opening j) := by
  cases j with
  | null => exact ⟨'n', _, rfl, rfl⟩
  | bool b =>
    cases b with
    | false => exact ⟨'f', _, rfl, rfl⟩
    | true => exact ⟨'t', _, rfl, rfl⟩
  | whole n =>
    refine head_number ?_ fun c => isNumeral_of_mem_signed
    rw [write, signed]
    split
    · exact List.cons_ne_nil _ _
    · exact digits_ne_nil _
  | real d =>
    refine head_number ?_ fun c => isNumeral_of_mem_real
    obtain ⟨c, hc, -⟩ := Double.exists_mem_writeMagnitude (m := d.val.magnitude)
      (l := .plain) rfl rfl
    rw [write_real]
    exact List.ne_nil_of_mem (List.mem_append_right _ hc)
  | string s => exact ⟨'"', _, rfl, rfl⟩
  | array items => exact ⟨'[', _, rfl, rfl⟩
  | object fields => exact ⟨'\x7b', _, rfl, rfl⟩

/-- Trees whose texts start with the same character have the same opening. -/
theorem opening_eq {j k : Json} {r s : List Char} (h : write j ++ r = write k ++ s) :
    opening j = opening k := by
  obtain ⟨c, cs, hj, hc⟩ := head_write j
  obtain ⟨d, ds, hk, hd⟩ := head_write k
  rw [hj, hk] at h
  rw [(List.cons.inj h).1, hd] at hc
  exact (Option.some.inj hc).symm

theorem write_append_ne {c : Char} (hc : opening? c = none) (j : Json) (r s : List Char) :
    write j ++ r ≠ c :: s := by
  obtain ⟨d, ds, hj, hd⟩ := head_write j
  intro h
  rw [hj] at h
  rw [← (List.cons.inj h).1, hd] at hc
  exact nomatch hc

/-! ## Lists with commas -/

section Lists

variable {α : Type} {f : α → List Char}

/-- The text of `a`, before anything but a numeral, is that of nothing else. -/
def Determined (f : α → List Char) (a : α) : Prop :=
  ∀ b r s, Stops isNumeral r → Stops isNumeral s → f a ++ r = f b ++ s → a = b ∧ r = s

theorem commaSeparated_cons (t : List Char) (ts : List (List Char)) :
    commaSeparated (t :: ts) = t ++ ts.flatMap (',' :: ·) := by
  unfold commaSeparated
  induction ts generalizing t with
  | nil => simp
  | cons u ts ih =>
    rw [List.intercalate_cons_cons, ih u, List.append_assoc]
    rfl

/-- What follows an item is a comma or the closing bracket. -/
theorem stops_rest {close : Char} (hclose : isNumeral close = false) (ts : List (List Char))
    (r : List Char) : Stops isNumeral (ts.flatMap (',' :: ·) ++ close :: r) := by
  cases ts with
  | nil => exact stops_cons hclose r
  | cons t ts => exact stops_cons rfl _

theorem rest_append_inj {close : Char} (hclose : isNumeral close = false) (hcomma : close ≠ ',')
    {as bs : List α} (has : ∀ a ∈ as, Determined f a) {r s : List Char}
    (h : (as.map f).flatMap (',' :: ·) ++ close :: r =
      (bs.map f).flatMap (',' :: ·) ++ close :: s) : as = bs ∧ r = s := by
  induction as generalizing bs with
  | nil =>
    cases bs with
    | nil => exact ⟨rfl, (List.cons.inj h).2⟩
    | cons b bs => exact absurd (List.cons.inj h).1 hcomma
  | cons a as ih =>
    cases bs with
    | nil => exact absurd (List.cons.inj h).1.symm hcomma
    | cons b bs =>
      have hitems : f a ++ ((as.map f).flatMap (',' :: ·) ++ close :: r) =
          f b ++ ((bs.map f).flatMap (',' :: ·) ++ close :: s) := by
        simpa using h
      obtain ⟨rfl, hrest⟩ := has a List.mem_cons_self b _ _ (stops_rest hclose _ r)
        (stops_rest hclose _ s) hitems
      obtain ⟨rfl, hrs⟩ := ih (fun a ha => has a (List.mem_cons_of_mem _ ha)) hrest
      exact ⟨rfl, hrs⟩

/-- **Texts between commas are taken apart**, up to a closing bracket with which none of them
starts. -/
theorem commaSeparated_append_inj {close : Char} (hclose : isNumeral close = false)
    (hcomma : close ≠ ',') (hhead : ∀ a r s, f a ++ r ≠ close :: s) {as bs : List α}
    (has : ∀ a ∈ as, Determined f a) {r s : List Char}
    (h : commaSeparated (as.map f) ++ close :: r = commaSeparated (bs.map f) ++ close :: s) :
    as = bs ∧ r = s := by
  cases as with
  | nil =>
    cases bs with
    | nil => exact ⟨rfl, (List.cons.inj h).2⟩
    | cons b bs =>
      rw [List.map_cons, commaSeparated_cons, List.append_assoc] at h
      exact absurd h.symm (hhead b _ _)
  | cons a as =>
    cases bs with
    | nil =>
      rw [List.map_cons, commaSeparated_cons, List.append_assoc] at h
      exact absurd h (hhead a _ _)
    | cons b bs =>
      rw [List.map_cons, List.map_cons, commaSeparated_cons, commaSeparated_cons,
        List.append_assoc, List.append_assoc] at h
      obtain ⟨rfl, hrest⟩ := has a List.mem_cons_self b _ _ (stops_rest hclose _ r)
        (stops_rest hclose _ s) h
      obtain ⟨rfl, hrs⟩ := rest_append_inj hclose hcomma
        (fun a ha => has a (List.mem_cons_of_mem _ ha)) hrest
      exact ⟨rfl, hrs⟩

end Lists

/-! ## Trees -/

/-- The text of one field. -/
def writeField (entry : String × Json) : List Char := quoted entry.1 ++ ':' :: write entry.2

theorem writeItems_eq_map (items : List Json) : writeItems items = items.map write := by
  induction items with
  | nil => rfl
  | cons item rest ih => rw [writeItems, ih, List.map_cons]

theorem writeFields_eq_map {names : List String} (fields : Slots String Json names) :
    writeFields fields = fields.toList.map writeField := by
  induction fields with
  | nil => rfl
  | cons name value rest ih => rw [writeFields, ih, Slots.toList, List.map_cons, writeField]

theorem writeField_determined {entry : String × Json} (h : Determined write entry.2) :
    Determined writeField entry := by
  intro other r s hr hs hwrite
  rw [writeField, writeField, List.append_assoc, List.append_assoc] at hwrite
  obtain ⟨hname, hrest⟩ := quoted_append_inj hwrite
  obtain ⟨hvalue, hrs⟩ := h other.2 r s hr hs (List.cons.inj hrest).2
  exact ⟨Prod.ext hname hvalue, hrs⟩

/-! ## Trees before more text -/

theorem determined_whole (m : Whole) : Determined write (.whole m) := by
  intro k r s hr hs h
  have hopen := opening_eq h
  cases k with
  | whole n =>
    obtain ⟨hwrite, hrs⟩ := append_inj_of_stops (fun _ => isNumeral_of_mem_signed)
      (fun _ => isNumeral_of_mem_signed) hr hs h
    exact ⟨congrArg Json.whole (whole_injective hwrite), hrs⟩
  | real d =>
    obtain ⟨hwrite, -⟩ := append_inj_of_stops (fun _ => isNumeral_of_mem_signed)
      (fun _ => isNumeral_of_mem_real) hr hs h
    exact absurd hwrite.symm (write_real_ne_whole d m)
  | _ => cases hopen

theorem determined_real (a : Real) : Determined write (.real a) := by
  intro k r s hr hs h
  have hopen := opening_eq h
  cases k with
  | whole n =>
    obtain ⟨hwrite, -⟩ := append_inj_of_stops (fun _ => isNumeral_of_mem_real)
      (fun _ => isNumeral_of_mem_signed) hr hs h
    exact absurd hwrite (write_real_ne_whole a n)
  | real b =>
    obtain ⟨hwrite, hrs⟩ := append_inj_of_stops (fun _ => isNumeral_of_mem_real)
      (fun _ => isNumeral_of_mem_real) hr hs h
    exact ⟨congrArg Json.real (real_injective hwrite), hrs⟩
  | _ => cases hopen

theorem determined_of_isLeaf {j : Json} (hj : j.isLeaf) : Determined write j := by
  cases j with
  | null =>
    intro k r s _ _ h
    have hopen := opening_eq h
    cases k with
    | null => exact ⟨rfl, List.append_cancel_left h⟩
    | _ => cases hopen
  | bool a =>
    intro k r s _ _ h
    have hopen := opening_eq h
    cases k with
    | bool b =>
      obtain rfl := Opening.bool.inj hopen
      exact ⟨rfl, List.append_cancel_left h⟩
    | _ => cases hopen
  | whole m => exact determined_whole m
  | real a => exact determined_real a
  | string a =>
    intro k r s _ _ h
    have hopen := opening_eq h
    cases k with
    | string b =>
      obtain ⟨hab, hrs⟩ := quoted_append_inj h
      exact ⟨congrArg Json.string hab, hrs⟩
    | _ => cases hopen
  | array as => exact nomatch hj
  | object as => exact nomatch hj

theorem determined_array {as : List Json} (has : ∀ item ∈ as, Determined write item) :
    Determined write (.array as) := by
  intro k r s _ _ h
  have hopen := opening_eq h
  cases k with
  | array bs =>
    have hitems : commaSeparated (as.map write) ++ ']' :: r =
        commaSeparated (bs.map write) ++ ']' :: s := by
      simpa [write, writeItems_eq_map] using h
    obtain ⟨rfl, hrs⟩ :=
      commaSeparated_append_inj rfl (by decide) (write_append_ne rfl) has hitems
    exact ⟨rfl, hrs⟩
  | _ => cases hopen

theorem determined_object {as : OrderedMap String Json}
    (has : ∀ entry ∈ as.toList, Determined write entry.2) : Determined write (.object as) := by
  intro k r s _ _ h
  have hopen := opening_eq h
  cases k with
  | object bs =>
    have hfields : commaSeparated (as.toList.map writeField) ++ '\x7d' :: r =
        commaSeparated (bs.toList.map writeField) ++ '\x7d' :: s := by
      simpa [write, writeFields_eq_map, OrderedMap.toList] using h
    have hhead : ∀ (entry : String × Json) r s, writeField entry ++ r ≠ '\x7d' :: s :=
      fun entry r s h => absurd (List.cons.inj h).1 (by decide)
    obtain ⟨hentries, hrs⟩ := commaSeparated_append_inj rfl (by decide) hhead
      (fun entry hentry => writeField_determined (has entry hentry)) hfields
    exact ⟨congrArg Json.object (OrderedMap.ext_toList hentries), hrs⟩
  | _ => cases hopen

/-- **The text of a tree is that of no other tree**, also with more text behind it. -/
theorem write_append_inj (j : Json) : Determined write j := by
  induction j using Json.induction with
  | leaf j hj => exact determined_of_isLeaf hj
  | array items ih => exact determined_array ih
  | object fields ih => exact determined_object ih

/-- **A compact text has one tree.** -/
theorem compact_injective {j k : Json} (h : j.compact = k.compact) : j = k := by
  have hwrite : write j = write k := String.ofList_injective h
  exact (write_append_inj j k [] [] (stops_nil _) (stops_nil _)
    (congrArg (· ++ []) hwrite)).1

end Json

end DocumentQuery
