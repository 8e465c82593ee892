import TagEventor.Reader.Manager

/-!
# Decoding the reader list

The walk of `readersEnumerate` over the multi-string ends (`walks_multiString`) and inverts the
encoding: `extractNames` points the names of the first `names.length` slots at the strings of the
list and touches nothing else (`extractNames_multiString`), and reading through such a pointer gives
the name back (`cstrAt_nameOffset`).
-/

namespace TagEventor

/-- The offset of the `i`-th name in the multi-string of a list of names. -/
def nameOffset (names : List ReaderName) (i : Nat) : Nat :=
  ((names.take i).flatMap fun s => s.val ++ ['\x00']).length

/-- The first name is at the beginning. -/
@[simp] lemma nameOffset_zero {names} : nameOffset names 0 = 0 := by simp [nameOffset]

/-- Offsets advance by the length of the name and its terminator. -/
lemma nameOffset_append {done : List ReaderName} {s rest} :
    nameOffset (done ++ s :: rest) (done.length + 1) =
      nameOffset (done ++ s :: rest) done.length + s.val.length + 1 := by
  have h1 : (done ++ s :: rest).take (done.length + 1) = done ++ [s] := by
    simp [List.take_append, List.take_of_length_le]
  have h2 : (done ++ s :: rest).take done.length = done := by simp
  rw [nameOffset, nameOffset, h1, h2]
  simp only [List.flatMap_append, List.flatMap_cons, List.flatMap_nil, List.length_append,
    List.length_cons, List.length_nil]
  omega

/-- From the offset of a name on there are that name and the others behind it. -/
lemma drop_multiString {done rest : List ReaderName} :
    (multiString (done ++ rest)).drop (nameOffset (done ++ rest) done.length) =
      multiString rest := by
  simp [multiString, nameOffset]

/-- A name ends where its terminator is. -/
lemma takeWhile_multiString {s : ReaderName} {rest} :
    (multiString (s :: rest)).takeWhile (· ≠ '\x00') = s.val := by
  have h : ∀ c ∈ s.val, decide (c ≠ '\x00') = true := by
    intro c hc
    simp only [decide_eq_true_eq]
    exact fun e => s.property.2 (e ▸ hc)
  rw [multiString, List.flatMap_cons, List.append_assoc, List.append_assoc,
    List.takeWhile_append_of_pos h]
  simp

/-- The pointers the walk assigns designate the names of the list. -/
lemma cstrAt_nameOffset {names : List ReaderName} {i} (hi : i < names.length) :
    cstrAt (multiString names) (nameOffset names i) = names[i].val := by
  obtain ⟨done, s, rest, rfl, rfl⟩ :
      ∃ done s rest, names = done ++ s :: rest ∧ i = done.length :=
    ⟨names.take i, names[i], names.drop (i + 1), by simp, by simp; omega⟩
  rw [cstrAt, drop_multiString, takeWhile_multiString]
  simp

/-- There are more bytes than names. -/
lemma length_lt_multiString {names : List ReaderName} :
    names.length < (multiString names).length := by
  induction names with
  | nil => simp [multiString]
  | cons s rest ih =>
    simp only [multiString, List.flatMap_cons, List.length_append, List.length_cons,
      List.length_nil] at ih ⊢
    omega

/-- A run of the loop `while (*ptr != '\0') { ...; ptr += strlen(ptr)+1; }` that ends: the places at
which its rounds start. Both loops of `readersEnumerate` are of this form. -/
inductive Walks (chars : List Char) : Nat → List Nat → Prop where
  | stop {ptr} :
    (chars.drop ptr).head? = some '\x00' →
    Walks chars ptr []
  | round {ptr c starts} :
    (chars.drop ptr).head? = some c →
    c ≠ '\x00' →
    '\x00' ∈ chars.drop ptr →
    Walks chars (ptr + strlen (chars.drop ptr) + 1) starts →
    Walks chars ptr (ptr :: starts)

/-- Where the walk ends, the names are pointed to the starts of its rounds. -/
lemma extractNames_walks {msz : Multistring} {ptr starts} (walk : Walks msz.chars ptr starts) :
    ∀ {fuel m}, starts.length ≤ fuel → extractNames msz fuel ptr m =
      starts.foldl (fun m start => m.addName ⟨msz.block, start⟩) m := by
  induction walk with
  | stop nul =>
    intro fuel m _
    cases fuel with
    | zero => rfl
    | succ fuel =>
      rw [extractNames, if_pos (.inl nul)]
      rfl
  | @round ptr c starts head char _ _ ih =>
    intro fuel m enough
    cases fuel with
    | zero => cases enough
    | succ fuel =>
      rw [extractNames, if_neg, ih (Nat.le_of_succ_le_succ enough)]
      · rfl
      · rintro (nul | nil)
        · exact char (Option.some.inj (head.symm.trans nul))
        · rw [nil] at head
          cases head

/-- The walk over the rest of a multi-string. -/
lemma walks_rest {done rest : List ReaderName} :
    Walks (multiString (done ++ rest)) (nameOffset (done ++ rest) done.length)
      ((List.range' done.length rest.length).map (nameOffset (done ++ rest))) := by
  induction rest generalizing done with
  | nil =>
    apply Walks.stop
    rw [drop_multiString]
    rfl
  | cons s rest ih =>
    obtain ⟨hs, h0⟩ := s.property
    obtain ⟨c, cs, e⟩ := List.exists_cons_of_ne_nil hs
    have hlen : strlen (multiString (s :: rest)) = s.val.length := by
      rw [strlen, takeWhile_multiString]
    rw [List.length_cons, List.range'_succ, List.map_cons]
    refine .round (c := c) ?_ ?_ ?_ ?_
    · rw [drop_multiString]
      simp [multiString, e]
    · rintro rfl
      exact h0 (e ▸ List.mem_cons_self)
    · rw [drop_multiString]
      simp [multiString]
    · rw [drop_multiString, hlen, ← nameOffset_append]
      have ih := @ih (done ++ [s])
      rw [List.append_assoc, List.length_append] at ih
      exact ih

/-- The walk over a multi-string ends, after one round for each name. -/
lemma walks_multiString {names : List ReaderName} :
    Walks (multiString names) 0 ((List.range names.length).map (nameOffset names)) := by
  have walk := @walks_rest [] names
  rw [List.nil_append, List.length_nil, nameOffset_zero, ← List.range_eq_range'] at walk
  exact walk

/-- The manager after the walk has named the slots from `nbReaders` on. -/
def tReaderManager.named (m : tReaderManager) (block : Nat) (names : List ReaderName)
    (from_ : Nat) : tReaderManager :=
  { m with
    nbReaders := m.nbReaders + (names.length - from_)
    readers := fun j =>
      if m.nbReaders ≤ j ∧ j < m.nbReaders + (names.length - from_) then
        { m.readers j with name := some ⟨block, nameOffset names (from_ + (j - m.nbReaders))⟩ }
      else m.readers j }

/-- Pointing the names of the next slots to the starts `f a`, `f (a + 1)`, .. of strings. -/
lemma foldl_addName {block : Nat} {f : Nat → Nat} {k a} {m : tReaderManager} :
    ((List.range' a k).map f).foldl (fun m start => m.addName ⟨block, start⟩) m =
      { m with
        nbReaders := m.nbReaders + k
        readers := fun j =>
          if m.nbReaders ≤ j ∧ j < m.nbReaders + k then
            { m.readers j with name := some ⟨block, f (a + (j - m.nbReaders))⟩ }
          else m.readers j } := by
  induction k generalizing a m with
  | zero =>
    have none : ∀ j, ¬ (m.nbReaders ≤ j ∧ j < m.nbReaders + 0) := fun j => by omega
    simp only [none, if_false]
    rfl
  | succ k ih =>
    rw [List.range'_succ, List.map_cons, List.foldl_cons, ih]
    unfold tReaderManager.addName
    dsimp only
    congr 1
    · omega
    · funext j
      by_cases hj : j = m.nbReaders
      · have here : m.nbReaders ≤ j ∧ j < m.nbReaders + (k + 1) := by omega
        have before : ¬ (m.nbReaders + 1 ≤ j ∧ j < m.nbReaders + 1 + k) := by omega
        rw [if_neg before, if_pos here, hj, Function.update_self, Nat.sub_self, Nat.add_zero]
      · rw [Function.update_of_ne hj]
        by_cases h : m.nbReaders + 1 ≤ j ∧ j < m.nbReaders + 1 + k
        · have next : a + 1 + (j - (m.nbReaders + 1)) = a + (j - m.nbReaders) := by omega
          have here : m.nbReaders ≤ j ∧ j < m.nbReaders + (k + 1) := by omega
          rw [if_pos h, if_pos here, next]
        · have beyond : ¬ (m.nbReaders ≤ j ∧ j < m.nbReaders + (k + 1)) := by omega
          rw [if_neg h, if_neg beyond]

/-- The walk over the multi-string names a slot for each of its strings. -/
lemma extractNames_multiString {msz : Multistring} {names : List ReaderName}
    (hc : msz.chars = multiString names) {fuel} (hf : names.length ≤ fuel) {m : tReaderManager} :
    extractNames msz fuel 0 m = m.named msz.block names 0 := by
  have walk := @walks_multiString names
  rw [← hc] at walk
  rw [extractNames_walks walk (by rwa [List.length_map, List.length_range]),
    List.range_eq_range', foldl_addName]
  rfl

end TagEventor
