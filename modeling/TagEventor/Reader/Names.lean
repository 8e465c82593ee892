import TagEventor.Reader.Runs

/-!
# Names and handles

What the names in `readers[]` are worth: whether a name still points into the buffer of names
(`Conn.NamesLive`), and whether the handle in a slot is a handle of the reader the slot names
(`Conn.Paired`). The library maintains neither under all circumstances; `Conn.KeepsNames` and
`Conn.KeepsPairs` are the conditions on the answers of pcscd under which it does.
-/

namespace TagEventor
open Machine

namespace Conn

/-- Every name is the name of a listed reader, and points into the buffer, which is not freed. -/
def NamesLive (s : Conn) : Prop :=
  ∀ i p, (s.slots i).name = some p → i < s.nbReaders ∧
    ∃ msz ∈ s.mszReaders, msz.block = p.block ∧ p.offset < msz.chars.length ∧
      msz.block ∈ Ledger.outstanding s.mszHeap

/-- The buffer of names goes away only while no slot has a name. -/
def KeepsNames (s : Conn) : Call → Prop
  | .SCardListReaders none rv _ =>
    rv = SCARD_E_NO_READERS_AVAILABLE → ∀ i, (s.slots i).name = none
  | .SCardListReaders (some _) rv _ => rv ≠ SCARD_S_SUCCESS → ∀ i, (s.slots i).name = none
  | .SCardReleaseContext _ => ∀ i, (s.slots i).name = none
  | _ => True

/-- Where no slot has a name, no name can dangle. -/
lemma namesLive_of_none {s : Conn} (h : ∀ i, (s.slots i).name = none) : s.NamesLive :=
  fun i p hp => by rw [h i] at hp; cases hp

/-- A name is taken away or stays. -/
lemma NamesLive.setSlot {s : Conn} {i r} (h : s.NamesLive)
    (hr : r.name = none ∨ r.name = (s.slots i).name) : (s.setSlot i r).NamesLive := by
  intro j p hp
  by_cases hj : j = i
  · subst hj
    simp only [Conn.setSlot, Function.update_self] at hp
    rcases hr with e | e
    · rw [e] at hp; cases hp
    · exact h j p (e ▸ hp)
  · simp only [Conn.setSlot, Function.update_of_ne hj] at hp
    exact h j p hp

/-- A name begins inside of the buffer. -/
lemma nameOffset_lt {names : List ReaderName} {i} (hi : i < names.length) :
    nameOffset names i < (multiString names).length := by
  have h := cstrAt_nameOffset hi
  by_contra hle
  rw [cstrAt, List.drop_eq_nil_of_le (Nat.le_of_not_lt hle)] at h
  exact names[i].property.1 h.symm

/-- The buffer that replaces another one is not freed. -/
lemma renewMszReaders_outstanding {s : Conn} :
    (s.renewMszReaders).mszReaders = some ⟨s.freeMszReaders.mszHeap.length, []⟩ ∧
      s.freeMszReaders.mszHeap.length ∈ Ledger.outstanding s.renewMszReaders.mszHeap :=
  ⟨rfl, by simp [renewMszReaders]⟩

/-- Taking over a list points all names into the new buffer. -/
lemma relist_namesLive {s : Conn} {names} (h : ∀ i, (s.slots i).name ≠ none → i < s.nbReaders) :
    (s.renewMszReaders.relist names).NamesLive := by
  intro i p hp
  obtain ⟨hm, ho⟩ := renewMszReaders_outstanding (s := s)
  simp only [relist, hm] at hp ⊢
  split_ifs at hp with hi hl
  · cases hp
    exact ⟨hi, _, rfl, rfl, nameOffset_lt hi, ho⟩
  · cases hp
  · exact absurd (h i (by rw [show (s.slots i).name = some p from hp]; simp)) hl

/-- A step of the library keeps the names alive unless it takes the buffer from under them. -/
lemma NamesLive.next {s : Conn} {c} (h : s.NamesLive) (legal : s.Legal c) (keeps : s.KeepsNames c) :
    (s.next c).NamesLive := by
  have hr : (s.record c).NamesLive := h
  have step := step_next legal
  generalize s.next c = s' at step ⊢
  cases step with
  | logged => exact hr
  | reset i => exact hr.setSlot (.inl rfl)
  | opened hCard => exact hr.setSlot (.inr rfl)
  | checked driver => exact hr.setSlot (.inr rfl)
  | emptied => exact namesLive_of_none (keeps rfl)
  | renewed error => exact namesLive_of_none (keeps error)
  | released => exact namesLive_of_none keeps
  | relisted =>
    refine relist_namesLive fun i hi => ?_
    obtain ⟨p, hp⟩ := Option.ne_none_iff_exists'.1 hi
    exact (h i p hp).1

/-- The name stored in slot `i`, read through a pointer that is not dangling, is `name`. -/
def Named (s : Conn) (i : Nat) (name : CString) : Prop :=
  ∃ p ∈ (s.slots i).name, s.Designates p name

instance (s : Conn) (i : Nat) (name : CString) : Decidable (s.Named i name) :=
  inferInstanceAs (Decidable (∃ p ∈ (s.slots i).name, _))

/-- The handle in a listed slot is a handle of the reader the slot names. -/
def Paired (s : Conn) : Prop :=
  ∀ i < s.nbReaders, ∀ h ∈ (s.slots i).hCard, s.Named i h.reader

instance (s : Conn) : Decidable s.Paired :=
  inferInstanceAs (Decidable (∀ i < s.nbReaders, ∀ h ∈ (s.slots i).hCard, _))

/-- A new list has every connected reader in its place, the buffer of names goes away only while no
listed reader is connected, and a reader is connected by a name that does not dangle. -/
def KeepsPairs (s : Conn) : Call → Prop
  | .SCardListReaders (some _) rv names =>
    if rv = SCARD_S_SUCCESS then
      ∀ i, ∀ hi : i < names.length, ∀ h ∈ (s.slots i).hCard, names[i].val = h.reader
    else ∀ i < s.nbReaders, (s.slots i).hCard = none
  | .SCardReleaseContext _ => ∀ i < s.nbReaders, (s.slots i).hCard = none
  | .SCardConnect i _ _ (some _) => ∃ p ∈ (s.slots i).name, s.Live p
  | _ => True

instance (s : Conn) : ∀ c, Decidable (s.KeepsPairs c)
  | .SCardListReaders (some _) _ _ => inferInstanceAs (Decidable (ite ..))
  | .SCardReleaseContext _ => inferInstanceAs (Decidable (∀ i < s.nbReaders, _))
  | .SCardConnect i _ _ (some _) => inferInstanceAs (Decidable (∃ p ∈ (s.slots i).name, _))
  | .SCardListReaders none _ _ | .SCardConnect _ _ _ none | .SCardEstablishContext .. |
    .SCardDisconnect .. | .SCardStatus .. | .SCardTransmit .. | .readerCheck .. |
    .getTagList .. => .isTrue trivial

/-- Where no handle is held, there is none of another reader. -/
lemma paired_of_none {s : Conn} (h : ∀ i < s.nbReaders, (s.slots i).hCard = none) : s.Paired :=
  fun i hi hCard hc => by rw [h i hi] at hc; cases hc

/-- Writing to a slot keeps the pairs if the slot is paired then. -/
lemma Paired.setSlot {s : Conn} {i r} (h : s.Paired)
    (hr : ∀ hCard, r.hCard = some hCard → (s.setSlot i r).Named i hCard.reader) :
    (s.setSlot i r).Paired := by
  intro j hj hCard hc
  by_cases hji : j = i
  · subst hji
    simp only [Conn.setSlot, Function.update_self] at hc
    exact hr hCard hc
  · simp only [Conn.setSlot, Function.update_of_ne hji] at hc
    obtain ⟨p, hp, hd⟩ := h j hj hCard hc
    exact ⟨p, by simpa [Conn.setSlot, Function.update_of_ne hji] using hp, hd⟩

/-- An empty slot holds no handle. -/
lemma Paired.reset {s : Conn} {i} (h : s.Paired) : (s.setSlot i .reset).Paired :=
  h.setSlot nofun

/-- A list with every connected reader in its place keeps the pairs. -/
lemma relist_paired {s : Conn} {names : List ReaderName}
    (h : ∀ i, ∀ hi : i < names.length, ∀ hCard ∈ (s.slots i).hCard,
      names[i].val = hCard.reader) : (s.renewMszReaders.relist names).Paired := by
  obtain ⟨hm, _⟩ := renewMszReaders_outstanding (s := s)
  intro i hi hCard hc
  simp only [relist, hm] at hi hc
  rw [if_pos hi] at hc
  refine ⟨⟨s.freeMszReaders.mszHeap.length, nameOffset names i⟩, ?_, ?_⟩
  · simp only [relist, hm, if_pos hi]
    rfl
  · refine ⟨⟨s.freeMszReaders.mszHeap.length, multiString names⟩, ?_, rfl, ?_⟩
    · simp only [relist, hm]
      rfl
    · rw [cstrAt_nameOffset hi]
      exact h i hi hCard hc

/-- A step of the library keeps the pairs under the condition. -/
lemma Paired.next {s : Conn} {c} (h : s.Paired) (legal : s.Legal c) (keeps : s.KeepsPairs c) :
    (s.next c).Paired := by
  have hr : (s.record c).Paired := h
  have step := step_next legal
  generalize s.next c = s' at step ⊢
  cases step with
  | logged => exact hr
  | reset i => exact hr.reset
  | @opened i rv hCard legal =>
    obtain ⟨_, _, _, _, _, _, p, hp, hd⟩ := legal
    obtain ⟨q, hq, live⟩ := keeps
    rw [hp] at hq
    cases hq
    refine hr.setSlot fun hCard' e => ⟨p, ?_, ?_⟩
    · simp only [Conn.setSlot, Function.update_self]
      exact hp
    · cases e
      exact hd live
  | @checked c i driver listed =>
    refine hr.setSlot fun hCard hc => ?_
    obtain ⟨p, hp, hd⟩ := h i listed hCard hc
    exact ⟨p, by simpa [Conn.setSlot] using hp, hd⟩
  | emptied => exact fun i hi => absurd hi (Nat.not_lt_zero i)
  | renewed error =>
    simp only [KeepsPairs, if_neg error] at keeps
    exact paired_of_none keeps
  | relisted => exact relist_paired keeps
  | released => exact paired_of_none keeps

end Conn

/-- Names never dangle in a run that frees the buffer of names only while there are none. -/
theorem names_live_of_run {env : Env} {setting ops}
    (h : Meets Conn.next Conn.KeepsNames .init (run env setting ops).log) :
    (run env setting ops).conn.NamesLive :=
  run_inv (Conn.namesLive_of_none fun _ => rfl) (fun _ _ => Conn.NamesLive.next) h

/-- The buffer of names stays: lists are read with success, and the context is kept. -/
def Call.keepsBuffer : Call → Bool
  | .SCardListReaders _ rv _ => rv = SCARD_S_SUCCESS
  | .SCardReleaseContext _ => false
  | _ => true

/-- A call that leaves the buffer of names alone keeps the names. -/
lemma Conn.keepsNames_of {s : Conn} {c : Call} (h : c.keepsBuffer = true) : s.KeepsNames c := by
  cases c with
  | SCardListReaders buffer rv names =>
    have hrv : rv = SCARD_S_SUCCESS := by simpa [Call.keepsBuffer] using h
    cases buffer with
    | none => exact fun e => absurd (hrv ▸ e) (by decide)
    | some size => exact fun e => absurd hrv e
  | SCardReleaseContext rv => cases h
  | _ => trivial

/-- A reader is connected while nothing fails. -/
theorem names_live_plain :
    (run (plain [acr0] fun _ _ => none) READER_BIT_AUTO
      [.readersManagerConnect, .readersConnect]).conn.NamesLive := by
  refine names_live_of_run (Meets.of_forall fun c hc s => Conn.keepsNames_of ?_)
  revert c
  decide +kernel

/-- pcscd lists a reader the first time it is asked, and none afterwards. -/
def unplugged : Env :=
  { plain [acr0] fun _ _ => none with
    SCardListReaders := fun log =>
      if enumerations log = 0 then (SCARD_S_SUCCESS, [acr0])
      else (SCARD_E_NO_READERS_AVAILABLE, []) }

/-- Once its only reader is unplugged, `readers[0].name` points into the freed buffer. -/
theorem names_dangle_unplugged :
    ¬ (run unplugged READER_BIT_AUTO [.readersManagerConnect, .readersConnect]).conn.NamesLive := by
  intro h
  have hname : ((run unplugged READER_BIT_AUTO
      [.readersManagerConnect, .readersConnect]).conn.slots 0).name = some ⟨0, 0⟩ := by
    decide +kernel
  have hnone : (run unplugged READER_BIT_AUTO
      [.readersManagerConnect, .readersConnect]).conn.mszReaders = none := by
    decide +kernel
  obtain ⟨_, msz, hm, _⟩ := h 0 _ hname
  rw [hnone] at hm
  cases hm

/-- Handle and name stay together in a run in which every new list has the connected readers in
their places, and the names that are used do not dangle. -/
theorem handles_named_of_run {env : Env} {setting ops}
    (h : Meets Conn.next Conn.KeepsPairs .init (run env setting ops).log) :
    (run env setting ops).conn.Paired :=
  run_inv (Conn.paired_of_none fun _ _ => rfl) (fun _ _ => Conn.Paired.next) h

/-- Two readers are connected, and enumerated again. -/
theorem handles_named_plain :
    (run (plain [acr0, acr1] fun _ _ => none) READER_BIT_AUTO
      [.readersManagerConnect, .readersConnect, .readersConnect]).conn.Paired :=
  handles_named_of_run (by decide +kernel)

/-- pcscd lists two readers, and after the second time it lists them in the other order. -/
def moved : Env :=
  { plain [acr0, acr1] fun _ _ => none with
    SCardListReaders := fun log =>
      (SCARD_S_SUCCESS, if enumerations log < 2 then [acr0, acr1] else [acr1, acr0]) }

/-- Once the readers have moved in the list, the handle in slot 0 is not the one of the reader that
slot 0 names. -/
theorem handles_misnamed_moved :
    ¬ (run moved READER_BIT_AUTO
      [.readersManagerConnect, .readersConnect, .readersConnect]).conn.Paired := by
  decide +kernel

end TagEventor
