import TagEventor.Reader.Attempts

/-!
# Enumerating a list of readers

What `readersEnumerate` makes of a list that pcscd reports twice alike. Its loops over the
multi-string end (`walks_multiString`), the listed names are found in the first slots, the slots of
lost readers are reset, and all else in `readers[]` stays as it was (`enumerated`).
-/

namespace TagEventor

/-- What an enumeration leaves that reads the list `names`. -/
structure Enumerated (env : Env) (w w' : World) (names : List ReaderName) : Prop where
  ends : ∃ msz ∈ w'.readerManager.mszReaders, ∃ starts, msz.chars = multiString names ∧
    Walks msz.chars 0 starts ∧ starts.length = names.length
  nbReaders : w'.readerManager.nbReaders = names.length
  listed : ∀ i < names.length, w'.nameText env i = names[i]?.map Subtype.val
  fields : ∀ i < names.length, w'.reader i = { w.reader i with name := (w'.reader i).name }
  lost : ∀ i, names.length ≤ i → i < w.readerManager.nbReaders → w'.reader i = .reset
  others : ∀ i, names.length ≤ i → w.readerManager.nbReaders ≤ i → w'.reader i = w.reader i

/-- If pcscd answers twice with the same list, the list is taken over. -/
lemma readersEnumerate_relisted {env : Env} {w : World} {names}
    (first : env.SCardListReaders w.log = (SCARD_S_SUCCESS, names))
    (second : namesListed env w = (SCARD_S_SUCCESS, names)) :
    readersEnumerate env w = (SCARD_S_SUCCESS,
      (w.record (.SCardListReaders none SCARD_S_SUCCESS names)).relisted
        (multiString names).length names) := by
  rw [namesListed, firstCall, first] at second
  have fits : ¬ (multiString names).length < (multiString names).length := Nat.lt_irrefl _
  have log : (World.mallocMszReaders (World.freeMszReaders
      (w.record (.SCardListReaders none SCARD_S_SUCCESS names)))).log =
        w.log ++ [.SCardListReaders none SCARD_S_SUCCESS names] := rfl
  unfold readersEnumerate SCardListReaders
  simp only [first, log, second, Option.any_none, Option.any_some, fits, decide_false, false_and,
    Bool.false_eq_true, if_false, ne_eq, not_true_eq_false]
  rfl

/-- What taking over a list leaves of the slots. -/
lemma relisted_enumerated {env : Env} {w : World} {size names} :
    Enumerated env w (w.relisted size names) names where
  ends := by
    refine ⟨_, by rw [relisted_eq]; rfl, _, rfl, walks_multiString, ?_⟩
    rw [List.length_map, List.length_range]
  nbReaders := by rw [relisted_eq]
  listed := fun i hi => by
    rw [nameText_of_named (relisted_named hi).1, List.getElem?_eq_getElem hi]
    rfl
  fields := fun i hi => by
    rw [relisted_eq]
    simp only [World.reader, if_pos hi]
  lost := fun i hi lost => by
    rw [relisted_eq]
    exact (if_neg (Nat.not_lt.2 hi)).trans (if_pos lost)
  others := fun i hi other => by
    rw [relisted_eq]
    exact (if_neg (Nat.not_lt.2 hi)).trans (if_neg (Nat.not_lt.2 other))

/-- After an enumeration every listed name is in its slot, the lost readers are reset, and nothing
else in the table has changed. -/
theorem enumerated {env : Env} {w : World} {names : List ReaderName}
    (fits : names.length ≤ MAX_NUM_READERS) (before : w.readerManager.nbReaders ≤ MAX_NUM_READERS)
    (first : env.SCardListReaders w.log = (SCARD_S_SUCCESS, names))
    (second : namesListed env w = (SCARD_S_SUCCESS, names)) :
    (readersEnumerate env w).1 = SCARD_S_SUCCESS ∧
      Enumerated env w (readersEnumerate env w).2 names ∧
      ∀ i ≥ MAX_NUM_READERS, (readersEnumerate env w).2.reader i = w.reader i := by
  rw [readersEnumerate_relisted first second]
  have e := @relisted_enumerated env (w.record (.SCardListReaders none SCARD_S_SUCCESS names))
    (multiString names).length names
  refine ⟨rfl, { e with }, fun i hi => ?_⟩
  exact e.others i (Nat.le_trans fits hi) (Nat.le_trans before hi)

/-- An outside with two readers. -/
def twoListed : Env := plain [acr0, acr1] fun _ _ => none

/-- Two readers are listed where there was none before. -/
theorem enumerated_two :
    (readersEnumerate twoListed (.init READER_BIT_AUTO)).1 = SCARD_S_SUCCESS ∧
      Enumerated twoListed (.init READER_BIT_AUTO)
        (readersEnumerate twoListed (.init READER_BIT_AUTO)).2 [acr0, acr1] ∧
      ∀ i ≥ MAX_NUM_READERS, (readersEnumerate twoListed (.init READER_BIT_AUTO)).2.reader i =
        World.reader (.init READER_BIT_AUTO) i :=
  enumerated (by decide) (by decide) rfl rfl

end TagEventor
