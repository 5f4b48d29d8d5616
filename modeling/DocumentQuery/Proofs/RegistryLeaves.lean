import DocumentQuery.Proofs.Agreement
import DocumentQuery.Sample.Encoders

/-!
# A chain is the list of its leaves

However deep chains are nested in a chain, it answers as one flat chain of the leaves below it, read
from left to right.

**Answers in sequence.** `orNext` is one step of a chain: an answer stands unless it says that no
encoder is known. The operation is associative, so it does not matter how a chain is bracketed.

**Misses.** A leaf may say that no encoder is known for some other type. A chain never repeats
such an answer: it passes on, and in the end names the type that it was asked for itself. So a
registry and its leaves agree only where another answer follows (`orNext_lookupFirst_leaves`), which
inside a chain is always the case.

Main results: `lookupFirst_leavesOf`, `lookupFirst_cases` and `chain_eq_leaves`.
-/

namespace DocumentQuery

variable {H : HostTypes}

namespace Registry

/-- The registry knows no encoder for the type. -/
def Misses (R : Registry H) (c : H.Code) : Prop := ∃ type, R.lookup c = .error (.noEncoder type)

/-! ## Answers in sequence -/

/-- The first answer, or the second where the first knows no encoder. -/
def orNext : LookupResult H → LookupResult H → LookupResult H
  | .error (.noEncoder _), next => next
  | answer, _ => answer

theorem orNext_assoc (a b d : LookupResult H) : orNext (orNext a b) d = orNext a (orNext b d) := by
  cases a with
  | ok encoder => rfl
  | error e => cases e <;> rfl

theorem orNext_of_not_misses {R : Registry H} {c : H.Code} (h : ¬ R.Misses c)
    (next : LookupResult H) : orNext (R.lookup c) next = R.lookup c := by
  cases hR : R.lookup c with
  | ok encoder => rfl
  | error e =>
    cases e with
    | noEncoder type => exact absurd ⟨type, hR⟩ h
    | typeMismatch expected actual => rfl
    | refused type reason => rfl

theorem lookupFirst_cons (c : H.Code) (R : Registry H) (rest : List (Registry H)) :
    lookupFirst c (R :: rest) = orNext (R.lookup c) (lookupFirst c rest) := by
  rw [lookupFirst]
  cases R.lookup c with
  | ok encoder => rfl
  | error e => cases e <;> rfl

theorem lookupFirst_cons_of_misses {c : H.Code} {R : Registry H} (h : R.Misses c)
    (rest : List (Registry H)) : lookupFirst c (R :: rest) = lookupFirst c rest := by
  obtain ⟨type, htype⟩ := h
  rw [lookupFirst_cons, htype]
  rfl

theorem lookupFirst_append (c : H.Code) (rs ss : List (Registry H)) :
    lookupFirst c (rs ++ ss) = orNext (lookupFirst c rs) (lookupFirst c ss) := by
  induction rs with
  | nil => rfl
  | cons R rest ih => rw [List.cons_append, lookupFirst_cons, lookupFirst_cons, ih, orNext_assoc]

/-! ## Leaves -/

mutual

theorem isLeaf_of_mem_leaves : ∀ (R : Registry H) {l : Registry H}, l ∈ R.leaves →
    ∃ name answer, l = .leaf name answer
  | .leaf name answer, _, h => ⟨name, answer, List.mem_singleton.1 h⟩
  | .chain members, _, h => isLeaf_of_mem_leavesOf members h

theorem isLeaf_of_mem_leavesOf : ∀ (rs : List (Registry H)) {l : Registry H}, l ∈ leavesOf rs →
    ∃ name answer, l = .leaf name answer
  | [], _, h => absurd h List.not_mem_nil
  | R :: rest, l, h => by
    rw [leavesOf, List.mem_append] at h
    rcases h with h | h
    · exact isLeaf_of_mem_leaves R h
    · exact isLeaf_of_mem_leavesOf rest h

end

mutual

theorem orNext_lookupFirst_leaves (c : H.Code) (next : LookupResult H) : ∀ R : Registry H,
    orNext (lookupFirst c R.leaves) next = orNext (R.lookup c) next
  | .leaf name answer => by
    rw [leaves, lookupFirst_cons, orNext_assoc]
    rfl
  | .chain members => by
    rw [leaves, lookupFirst_leavesOf c members, lookup]

/-- **A chain gives the answer of the flat chain of its leaves.** -/
theorem lookupFirst_leavesOf (c : H.Code) : ∀ rs : List (Registry H),
    lookupFirst c (leavesOf rs) = lookupFirst c rs
  | [] => rfl
  | R :: rest => by
    rw [leavesOf, lookupFirst_append, orNext_lookupFirst_leaves c _ R, lookupFirst_leavesOf c rest,
      lookupFirst_cons]

end

theorem leavesOf_append (rs ss : List (Registry H)) :
    leavesOf (rs ++ ss) = leavesOf rs ++ leavesOf ss := by
  induction rs with
  | nil => rfl
  | cons R rest ih => rw [List.cons_append, leavesOf, leavesOf, ih, List.append_assoc]

theorem leaves_push_chain (members : List (Registry H)) (S : Registry H) :
    ((chain members).push S).leaves = leavesOf members ++ S.leaves := by
  rw [push, leaves, leavesOf_append, leavesOf, leavesOf, List.append_nil]

/-! ## The first answer of a list -/

theorem lookupFirst_cases (c : H.Code) (rs : List (Registry H)) :
    (∃ before R after, rs = before ++ R :: after ∧ (∀ b ∈ before, b.Misses c) ∧ ¬ R.Misses c ∧
      lookupFirst c rs = R.lookup c) ∨
    ((∀ R ∈ rs, R.Misses c) ∧ lookupFirst c rs = .error (.noEncoder (H.name c))) := by
  induction rs with
  | nil => exact Or.inr ⟨fun R hR => absurd hR List.not_mem_nil, rfl⟩
  | cons S rest ih =>
    by_cases hS : S.Misses c
    · have hskip := lookupFirst_cons_of_misses hS rest
      rcases ih with ⟨before, R, after, hsplit, hbefore, hR, hanswer⟩ | ⟨hall, hanswer⟩
      · refine Or.inl ⟨S :: before, R, after, by rw [hsplit, List.cons_append], ?_, hR, ?_⟩
        · intro b hb
          rcases List.mem_cons.1 hb with rfl | hb
          · exact hS
          · exact hbefore b hb
        · rw [hskip, hanswer]
      · refine Or.inr ⟨fun R hR => ?_, by rw [hskip, hanswer]⟩
        rcases List.mem_cons.1 hR with rfl | hR
        · exact hS
        · exact hall R hR
    · refine Or.inl ⟨[], S, rest, rfl, fun b hb => absurd hb List.not_mem_nil, hS, ?_⟩
      rw [lookupFirst_cons, orNext_of_not_misses hS]

/-- At most one member is the first that does not miss. -/
theorem first_unique {c : H.Code} {rs before before' after after' : List (Registry H)}
    {R R' : Registry H} (h : rs = before ++ R :: after) (hbefore : ∀ b ∈ before, b.Misses c)
    (hR : ¬ R.Misses c) (h' : rs = before' ++ R' :: after')
    (hbefore' : ∀ b ∈ before', b.Misses c) (hR' : ¬ R'.Misses c) : R = R' := by
  classical
  have hfind : rs.find? (fun S => decide (¬ S.Misses c)) = some R :=
    List.find?_eq_some_iff_append.2 ⟨by simpa using hR, before, after, h, by simpa using hbefore⟩
  have hfind' : rs.find? (fun S => decide (¬ S.Misses c)) = some R' :=
    List.find?_eq_some_iff_append.2 ⟨by simpa using hR', before', after', h',
      by simpa using hbefore'⟩
  exact Option.some.inj (hfind.symm.trans hfind')

/-! ## Flat chains -/

theorem lookup_flatten (members : List (Registry H)) (c : H.Code) :
    (chain members).lookup c = (chain (leavesOf members)).lookup c := by
  rw [lookup, lookup, lookupFirst_leavesOf]

theorem encode_flatten (members : List (Registry H)) (o : HostObject H) :
    (chain members).encode o = (chain (leavesOf members)).encode o :=
  encode_congr (lookup_flatten members) o

/-- **A chain means the list of its leaves.** Each leaf has a look-up of its own. The answer of the
chain for a type is that of the first leaf, from left to right, that does not miss; when all miss,
it is that no encoder is known for the type asked for. A pushed registry adds its leaves at the end.
And objects, host values, host documents and expressions have the same outcome as under the flat
chain of the leaves, where the parts of objects are again encoded through the whole chain. -/
theorem chain_eq_leaves (members : List (Registry H)) :
    (∀ l ∈ leavesOf members, ∃ name answer, l = .leaf name answer ∧ ∀ c, l.lookup c = answer c) ∧
    (∀ c, (∃ before name answer after, leavesOf members = before ++ .leaf name answer :: after ∧
        (∀ b ∈ before, b.Misses c) ∧ ¬ (leaf name answer).Misses c ∧
        (chain members).lookup c = answer c) ∨
      ((∀ l ∈ leavesOf members, l.Misses c) ∧
        (chain members).lookup c = .error (.noEncoder (H.name c)))) ∧
    (∀ S, ((chain members).push S).leaves = leavesOf members ++ S.leaves) ∧
    (∀ o, (chain members).encode o = (chain (leavesOf members)).encode o) ∧
    (∀ x : HostValue H, x.encode (chain members) = x.encode (chain (leavesOf members))) ∧
    (∀ d : HostDocument H, d.encode (chain members) = d.encode (chain (leavesOf members))) ∧
    ∀ e : Expression H, e.evaluate (chain members) = e.evaluate (chain (leavesOf members)) ∧
      ∀ name, e.toField name (chain members) = e.toField name (chain (leavesOf members)) := by
  have hencode := encode_flatten members
  refine ⟨?_, ?_, leaves_push_chain members, hencode, ?_, ?_, ?_⟩
  · intro l hl
    obtain ⟨name, answer, rfl⟩ := isLeaf_of_mem_leavesOf members hl
    exact ⟨name, answer, rfl, fun c => rfl⟩
  · intro c
    rw [lookup, ← lookupFirst_leavesOf]
    refine (lookupFirst_cases c (leavesOf members)).imp_left ?_
    rintro ⟨before, l, after, hsplit, hbefore, hl, hanswer⟩
    obtain ⟨name, answer, rfl⟩ := isLeaf_of_mem_leavesOf members (l := l) (by simp [hsplit])
    exact ⟨before, name, answer, after, hsplit, hbefore, hl, hanswer⟩
  · intro x
    exact x.encode_congr fun o _ => hencode o
  · intro d
    exact d.encode_congr fun o _ => hencode o
  · intro e
    exact ⟨e.evaluate_congr fun o _ => hencode o, Expression.toField_congr fun o _ => hencode o⟩

/-- The table of one encoder. -/
def tableOf (e : Encoder (Sample.hostTypes fun _ => "sample")) :
    Registry (Sample.hostTypes fun _ => "sample") :=
  (EncoderTable.empty.register e).toRegistry

/-- Is out of order, whatever it is asked for. -/
def brokenTable : Registry (Sample.hostTypes fun _ => "sample") := failing "shop" "out of order"

/-- Two chains of chains. A broken table stands between those of bytes and of texts. -/
def nestedTables : List (Registry (Sample.hostTypes fun _ => "sample")) :=
  [.chain [.chain [], tableOf Sample.moneyText],
    .chain [tableOf Sample.byteNumber, .chain [brokenTable, tableOf Sample.textString]]]

/-- For a byte the first leaf misses and the second one answers. For a text both miss, and the third
leaf ends the search with its error, although the fourth one knows texts. The first chain alone
misses bytes. -/
theorem lookup_nestedTables :
    (chain nestedTables).lookup Sample.Kind.byte = .ok Sample.byteNumber ∧
    (chain nestedTables).lookup Sample.Kind.text = .error (.refused "sample" "out of order") ∧
    (chain (nestedTables.take 1)).lookup Sample.Kind.byte = .error (.noEncoder "sample") ∧
    (chain nestedTables).encode (Sample.byteObject 7) = .ok (.int 7) := by
  obtain ⟨-, hlookup, -, hencode, -⟩ := chain_eq_leaves nestedTables
  have hfirst : ∀ c before l after, leavesOf nestedTables = before ++ l :: after →
      (∀ b ∈ before, b.Misses c) → ¬ l.Misses c →
      (chain nestedTables).lookup c = l.lookup c := by
    intro c before l after hleaves hbefore hl
    rcases hlookup c with
      ⟨before', name, answer, after', hsplit, hbefore', hleaf, hanswer⟩ | ⟨hall, -⟩
    · rw [first_unique hleaves hbefore hl hsplit hbefore' hleaf]
      exact hanswer
    · exact absurd (hall l (by simp [hleaves])) hl
  have hmoney : ∀ c, c ≠ Sample.Kind.money → (tableOf Sample.moneyText).Misses c := by
    intro c hc
    cases c with
    | money => exact absurd rfl hc
    | _ => exact ⟨_, rfl⟩
  refine ⟨?_, ?_, ?_, ?_⟩
  · have hbyte : ¬ (tableOf Sample.byteNumber).Misses Sample.Kind.byte := fun ⟨_, h⟩ => by cases h
    exact hfirst _ [tableOf Sample.moneyText] (tableOf Sample.byteNumber)
      [brokenTable, tableOf Sample.textString] rfl (by simp [hmoney]) hbyte
  · have hbyte : (tableOf Sample.byteNumber).Misses Sample.Kind.text := ⟨_, rfl⟩
    have hbroken : ¬ brokenTable.Misses Sample.Kind.text := fun ⟨_, h⟩ => by cases h
    exact hfirst _ [tableOf Sample.moneyText, tableOf Sample.byteNumber] brokenTable
      [tableOf Sample.textString] rfl (by simp [hmoney, hbyte]) hbroken
  · have hleaves : leavesOf (nestedTables.take 1) = [tableOf Sample.moneyText] := rfl
    rcases (chain_eq_leaves (nestedTables.take 1)).2.1 Sample.Kind.byte with
      ⟨before, name, answer, after, hsplit, -, hleaf, -⟩ | ⟨-, hanswer⟩
    · have hmem : leaf name answer ∈ [tableOf Sample.moneyText] := by rw [← hleaves, hsplit]; simp
      rw [List.mem_singleton.1 hmem] at hleaf
      exact absurd (hmoney _ (by decide)) hleaf
    · exact hanswer
  · rw [hencode, Registry.encode_eq]
    rfl

end Registry

end DocumentQuery
