import TagEventor.Reader.Runs

/-!
# Card handles

The handles that `SCardConnect` returned and `SCardDisconnect` was not called for, as a ledger over
the log, against the handles in `readers[]` (`Conn.NoLeak`). `RESET_READER` clears a handle without
closing it in three places: a connected reader that is not listed any more, a failed driver check
and a failed read; `Conn.Closes` excludes them.
-/

namespace TagEventor
open Machine

/-- The opening or the closing of a card handle. -/
def Call.handleEntry : Call → Option (Ledger.Entry tCardHandle)
  | .SCardConnect _ _ _ hCard => hCard.map .acquire
  | .SCardDisconnect _ hCard _ => hCard.map .release
  | _ => none

namespace Conn

/-- The handles that were returned and not disconnected since. -/
def openHandles (s : Conn) : List tCardHandle :=
  Ledger.outstanding (s.log.filterMap Call.handleEntry)

/-- The open handles are the handles in `readers[]`, each in one slot. -/
structure NoLeak (s : Conn) : Prop where
  held : ∀ h, h ∈ s.openHandles ↔ ∃ i, (s.slots i).hCard = some h
  once : ∀ i j h, (s.slots i).hCard = some h → (s.slots j).hCard = some h → i = j

/-- Whether a call closes the handle that the step on it takes from a slot. -/
def ClosesFirst (s : Conn) (c : Call) : Prop :=
  ∀ i, ∀ h ∈ (s.slots i).hCard, ((s.next c).slots i).hCard = some h ∨
    ∃ rv, c = .SCardDisconnect i (some h) rv

/-- A new list has room for every connected reader, and no driver answers with an error. -/
def Closes (s : Conn) : Call → Prop
  | .SCardListReaders (some _) rv names => rv = SCARD_S_SUCCESS →
    ∀ i < s.nbReaders, names.length ≤ i → (s.slots i).hCard = none
  | .readerCheck _ rv _ => rv = SCARD_S_SUCCESS
  | .getTagList _ rv _ => rv = SCARD_S_SUCCESS
  | _ => True

instance (s : Conn) : ∀ c, Decidable (s.Closes c)
  | .SCardListReaders (some _) rv _ => inferInstanceAs (Decidable (rv = SCARD_S_SUCCESS → _))
  | .readerCheck _ rv _ | .getTagList _ rv _ => inferInstanceAs (Decidable (rv = SCARD_S_SUCCESS))
  | .SCardListReaders none _ _ | .SCardConnect .. | .SCardEstablishContext .. |
    .SCardDisconnect .. | .SCardStatus .. | .SCardTransmit .. | .SCardReleaseContext .. =>
    .isTrue trivial

/-- A handle is held by the slot it was opened for. -/
def InSlot (s : Conn) : Prop := ∀ i h, (s.slots i).hCard = some h → h.slot = i

/-- The new handle of a slot was opened for it. -/
lemma InSlot.setSlot {s : Conn} {i r} (h : s.InSlot)
    (hr : ∀ hCard, r.hCard = some hCard → hCard.slot = i) : (s.setSlot i r).InSlot := by
  intro j x hx
  by_cases hj : j = i
  · subst hj
    simp only [Conn.setSlot, Function.update_self] at hx
    exact hr x hx
  · simp only [Conn.setSlot, Function.update_of_ne hj] at hx
    exact h j x hx

/-- A new list moves no handle. -/
lemma InSlot.relist {s : Conn} {names} (h : s.InSlot) : (s.relist names).InSlot := by
  unfold Conn.relist
  split
  · exact h
  intro i x hx
  dsimp only at hx
  split_ifs at hx
  · exact h i x hx
  · cases hx
  · exact h i x hx

/-- Every step of the library leaves the handles in their slots. -/
lemma InSlot.next {s : Conn} {c} (h : s.InSlot) (legal : s.Legal c) : (s.next c).InSlot := by
  have hr : (s.record c).InSlot := h
  have step := step_next legal
  generalize s.next c = s' at step ⊢
  cases step with
  | logged => exact h
  | reset i => exact hr.setSlot nofun
  | opened hCard legal => exact hr.setSlot fun x hx => Option.some.inj hx ▸ legal.2.2.2.1
  | checked driver => exact hr.setSlot fun x hx => h _ x hx
  | emptied => exact h
  | renewed => exact h
  | relisted => exact InSlot.relist h
  | released => exact h

/-- The open handles are those in the slots, each in the slot it was opened for. -/
structure HandleInv (s : Conn) : Prop where
  held : ∀ h, h ∈ s.openHandles ↔ ∃ i, (s.slots i).hCard = some h
  nodup : s.openHandles.Nodup
  inSlot : s.InSlot

/-- What the invariant says, without the slots for which handles were opened. -/
lemma HandleInv.noLeak {s : Conn} (h : s.HandleInv) : s.NoLeak where
  held := h.held
  once := fun i j x hi hj => (h.inSlot i x hi).symm.trans (h.inSlot j x hj)

/-- At first no handle is open. -/
lemma handleInv_init : HandleInv .init where
  held := fun h => by simp [openHandles, init, Slot.reset]
  nodup := List.nodup_nil
  inSlot := nofun

/-- Other calls open and close nothing. -/
lemma openHandles_next {s : Conn} {c : Call} (h : c.handleEntry = none) :
    (s.next c).openHandles = s.openHandles := by
  simp [openHandles, h]

/-- `SCardConnect` returns a handle that is not open, for a slot that has none. -/
lemma HandleInv.opens {s : Conn} {i name rv hCard} (h : s.HandleInv)
    (legal : s.Legal (.SCardConnect i name rv (some hCard))) :
    (s.next (.SCardConnect i name rv (some hCard))).HandleInv := by
  have free : (s.slots i).hCard = none := legal.2.1
  have opened : (s.next (.SCardConnect i name rv (some hCard))).openHandles =
      hCard :: s.openHandles := by
    simp [openHandles, Call.handleEntry]
  have self : ((s.next (.SCardConnect i name rv (some hCard))).slots i).hCard = some hCard := by
    simp [Conn.next, setSlot]
  have other : ∀ j, j ≠ i →
      ((s.next (.SCardConnect i name rv (some hCard))).slots j).hCard = (s.slots j).hCard :=
    fun j hj => by simp [Conn.next, setSlot, hj]
  have fresh : hCard ∉ s.openHandles := fun hmem => by
    obtain ⟨j, hj⟩ := (h.held hCard).1 hmem
    rw [← h.inSlot j hCard hj, legal.2.2.2.1, free] at hj
    cases hj
  have inSlot := h.inSlot.next legal
  generalize s.next (.SCardConnect i name rv (some hCard)) = s' at opened self other inSlot
  refine ⟨fun x => ?_, by rw [opened]; exact List.nodup_cons.2 ⟨fresh, h.nodup⟩, inSlot⟩
  rw [opened, List.mem_cons, h.held x]
  constructor
  · rintro (rfl | ⟨j, hj⟩)
    · exact ⟨i, self⟩
    · have hji : j ≠ i := by rintro rfl; rw [free] at hj; cases hj
      exact ⟨j, (other j hji).trans hj⟩
  · rintro ⟨j, hj⟩
    by_cases hji : j = i
    · subst hji
      rw [self] at hj
      exact .inl (Option.some.inj hj).symm
    · exact .inr ⟨j, (other j hji).symm.trans hj⟩

/-- `SCardDisconnect` closes the handle of its slot, which is cleared. -/
lemma HandleInv.closes {s : Conn} {i rv hCard} (h : s.HandleInv)
    (legal : s.Legal (.SCardDisconnect i (some hCard) rv)) :
    (s.next (.SCardDisconnect i (some hCard) rv)).HandleInv := by
  have held : (s.slots i).hCard = some hCard := legal.2.1.symm
  have opened : (s.next (.SCardDisconnect i (some hCard) rv)).openHandles =
      s.openHandles.erase hCard := by
    simp [openHandles, Call.handleEntry]
  have self : ((s.next (.SCardDisconnect i (some hCard) rv)).slots i).hCard = none := by
    simp [Conn.next, setSlot, Slot.reset]
  have other : ∀ j, j ≠ i →
      ((s.next (.SCardDisconnect i (some hCard) rv)).slots j).hCard = (s.slots j).hCard :=
    fun j hj => by simp [Conn.next, setSlot, hj]
  have inSlot := h.inSlot.next legal
  generalize s.next (.SCardDisconnect i (some hCard) rv) = s' at opened self other inSlot
  refine ⟨fun x => ?_, by rw [opened]; exact h.nodup.erase _, inSlot⟩
  rw [opened, h.nodup.mem_erase_iff, h.held x]
  constructor
  · rintro ⟨hne, j, hj⟩
    have hji : j ≠ i := by rintro rfl; rw [held] at hj; exact hne (Option.some.inj hj).symm
    exact ⟨j, (other j hji).trans hj⟩
  · rintro ⟨j, hj⟩
    have hji : j ≠ i := by rintro rfl; rw [self] at hj; cases hj
    rw [other j hji] at hj
    refine ⟨?_, j, hj⟩
    rintro rfl
    exact hji ((h.inSlot j x hj).symm.trans (h.inSlot i x held))

/-- A slot that keeps its handle. -/
lemma hCard_setSlot {s : Conn} {i r} (h : r.hCard = (s.slots i).hCard) (j) :
    ((s.setSlot i r).slots j).hCard = (s.slots j).hCard := by
  by_cases hj : j = i
  · subst hj; simp [setSlot, h]
  · simp [setSlot, hj]

/-- A new list that has room for every connected reader keeps the handles. -/
lemma hCard_relist {s : Conn} {names : List ReaderName}
    (h : ∀ i < s.nbReaders, names.length ≤ i → (s.slots i).hCard = none) (j) :
    ((s.relist names).slots j).hCard = (s.slots j).hCard := by
  unfold relist
  split
  · rfl
  dsimp only
  split_ifs with hj hl
  · rfl
  · exact (h j hl (Nat.le_of_not_lt hj)).symm
  · rfl

/-- Under the condition only `SCardConnect` and `SCardDisconnect` concern the handles. -/
lemma hCard_next {s : Conn} {c : Call} (legal : s.Legal c) (closes : s.Closes c)
    (h : c.handleEntry = none) (j) : ((s.next c).slots j).hCard = (s.slots j).hCard := by
  cases c with
  | SCardListReaders buffer rv names =>
    cases buffer with
    | none => simp only [Conn.next]; split <;> rfl
    | some size =>
      simp only [Conn.next]
      split
      next hrv => exact hCard_relist (s := (s.record _).renewMszReaders) (closes hrv) j
      next => rfl
  | SCardConnect i name rv hCard =>
    cases hCard with
    | none => exact hCard_setSlot (s := s.record _) legal.2.symm j
    | some hCard => cases h
  | SCardDisconnect i hCard rv =>
    obtain ⟨hCard, rfl⟩ := Option.ne_none_iff_exists'.1 legal.2.2
    cases h
  | readerCheck i rv supported =>
    simp only [Conn.next, if_pos (show rv = SCARD_S_SUCCESS from closes)]
    exact hCard_setSlot (s := s.record (.readerCheck i rv supported))
      (r := { s.slots i with pDriver := if supported then some .acr122U else none }) rfl j
  | getTagList i rv tags =>
    simp only [Conn.next, if_pos (show rv = SCARD_S_SUCCESS from closes), record_slots]
  | _ => rfl

/-- Handles are opened and closed by two calls only. -/
lemma handleEntry_ne_none {c : Call} (h : c.handleEntry ≠ none) :
    (∃ i name rv hCard, c = .SCardConnect i name rv (some hCard)) ∨
      ∃ i hCard rv, c = .SCardDisconnect i (some hCard) rv := by
  cases c with
  | SCardConnect i name rv hCard =>
    cases hCard with
    | none => cases h rfl
    | some hCard => exact .inl ⟨i, name, rv, hCard, rfl⟩
  | SCardDisconnect i hCard rv =>
    cases hCard with
    | none => cases h rfl
    | some hCard => exact .inr ⟨i, hCard, rv, rfl⟩
  | _ => cases h rfl

/-- Every step that closes what it drops keeps the invariant. -/
lemma HandleInv.next {s : Conn} {c} (h : s.HandleInv) (legal : s.Legal c) (closes : s.Closes c) :
    (s.next c).HandleInv := by
  by_cases he : c.handleEntry = none
  · refine ⟨fun x => ?_, by rw [openHandles_next he]; exact h.nodup, h.inSlot.next legal⟩
    simp only [openHandles_next he, hCard_next legal closes he]
    exact h.held x
  obtain ⟨i, name, rv, hCard, rfl⟩ | ⟨i, hCard, rv, rfl⟩ := handleEntry_ne_none he
  · exact h.opens legal
  · exact h.closes legal

/-- Under the condition a handle leaves its slot only when it is closed. -/
lemma closesFirst_of {s : Conn} {c} (legal : s.Legal c) (closes : s.Closes c) :
    s.ClosesFirst c := by
  intro j h hc
  by_cases he : c.handleEntry = none
  · exact .inl ((hCard_next legal closes he j).trans hc)
  obtain ⟨i, name, rv, hCard, rfl⟩ | ⟨i, hCard, rv, rfl⟩ := handleEntry_ne_none he
  · have hji : j ≠ i := by rintro rfl; rw [legal.2.1] at hc; cases hc
    exact .inl (by simpa [Conn.next, setSlot, hji] using hc)
  · by_cases hji : j = i
    · subst hji
      rw [legal.2.1, show (s.slots j).hCard = some h from hc]
      exact .inr ⟨rv, rfl⟩
    · exact .inl (by simpa [Conn.next, setSlot, hji] using hc)

end Conn

/-- In every run a handle is held by the slot it was opened for, if it is held at all. -/
lemma inSlot_of_run {env : Env} {setting ops} : (run env setting ops).conn.InSlot :=
  run_inv (P := fun _ _ => True) nofun (fun _ _ h legal _ => h.next legal)
    (Meets.of_forall fun _ _ _ => trivial)

/-- No handle is leaked in a run in which no connected reader drops out of the list and no driver
answers with an error: the open handles are those in `readers[]`, each in one slot, and none has
left its slot without being closed. -/
theorem no_leak_of_run {env : Env} {setting ops}
    (h : Meets Conn.next Conn.Closes .init (run env setting ops).log) :
    (run env setting ops).conn.NoLeak ∧
      Meets Conn.next Conn.ClosesFirst .init (run env setting ops).log :=
  ⟨(run_inv Conn.handleInv_init (fun _ _ => Conn.HandleInv.next) h).noLeak,
    (run_conn.replay.2.and h).imp fun _ _ hc => Conn.closesFirst_of hc.1 hc.2⟩

/-- A reader is connected, read, and disconnected. -/
theorem no_leak_plain :
    let w := run (plain [acr0] fun _ _ => none) READER_BIT_AUTO
      [.readersManagerConnect, .readersGetTagList, .readersDisconnect]
    w.conn.NoLeak ∧ Meets Conn.next Conn.ClosesFirst .init w.log :=
  no_leak_of_run (by decide +kernel)

/-- A reader whose check fails: it does not answer the request for its firmware. -/
def mute : Env :=
  { plain [acr0] fun _ _ => none with SCardTransmit := fun _ _ _ => (SCARD_F_COMM_ERROR, []) }

/-- The handle of a reader whose check fails stays open, and no slot holds it any more. -/
theorem leak_mute :
    ¬ (run mute READER_BIT_AUTO [.readersManagerConnect, .readersConnect]).conn.NoLeak := by
  intro h
  have hopen : ⟨0, 0, acr0.val⟩ ∈ (run mute READER_BIT_AUTO
      [.readersManagerConnect, .readersConnect]).conn.openHandles := by
    decide +kernel
  obtain ⟨i, hi⟩ := (h.held _).1 hopen
  have hzero : 0 = i := inSlot_of_run i _ hi
  rw [← hzero] at hi
  revert hi
  decide +kernel

end TagEventor
