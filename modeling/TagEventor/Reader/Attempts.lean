import TagEventor.Reader.Names

/-!
# Attempts to connect

Which calls the connection phase makes. A round of the loop of `readersConnect` calls `SCardConnect`
for its reader if the reader is wanted and not connected, touches nothing but its own slot, and
ends the loop exactly if the check of a driver refuses the reader (`connectReader_log`). So a
reader is left out only behind one that is refused (`readersConnect_attempts`).
-/

namespace TagEventor
open Loop

/-- The slot of `readers[]` a call is made for. -/
def Call.slot : Call → Option Nat
  | .SCardConnect i _ _ _ => some i
  | .SCardDisconnect i _ _ => some i
  | .SCardStatus i _ _ _ => some i
  | .SCardTransmit i _ _ _ _ => some i
  | .readerCheck i _ _ => some i
  | .getTagList i _ _ => some i
  | _ => none

/-- A check by which a driver refuses the reader in a slot: it fails, or the reader is of another
kind. -/
def Call.refuses (i : Nat) : Call → Bool
  | .readerCheck j rv supported => j = i ∧ (rv ≠ SCARD_S_SUCCESS ∨ supported = false)
  | _ => false

/-- An attempt to connect to a name, for a slot. -/
def Call.attempts (i : Nat) (name : Option CString) : Call → Bool
  | .SCardConnect j n _ _ => j = i ∧ n = name
  | _ => false

/-- A call of PC/SC that failed. -/
def Call.failed : Call → Bool
  | .SCardEstablishContext rv => rv ≠ SCARD_S_SUCCESS
  | .SCardReleaseContext rv => rv ≠ SCARD_S_SUCCESS
  | .SCardListReaders _ rv _ => rv ≠ SCARD_S_SUCCESS
  | .SCardConnect _ _ rv _ => rv ≠ SCARD_S_SUCCESS
  | .SCardDisconnect _ _ rv => rv ≠ SCARD_S_SUCCESS
  | .SCardStatus _ _ rv _ => rv ≠ SCARD_S_SUCCESS
  | .SCardTransmit _ _ _ rv _ => rv ≠ SCARD_S_SUCCESS
  | .readerCheck .. => false
  | .getTagList .. => false

/-- An exchange with the card of a slot is made for it. -/
lemma OnCard.slot {i c} (h : OnCard i c) : c.slot = some i := by
  cases c <;> first | exact congrArg some h | cases h

/-- An exchange with a card is no refusal. -/
lemma OnCard.not_refuses {i j c} (h : OnCard i c) : c.refuses j = false := by
  cases c <;> first | rfl | cases h

/-- The calls of a round of the loop of `readersConnect`. -/
structure RoundLog (env : Env) (i : Nat) (w : World) (ret : Option LONG) (w' : World)
    (l : List Call) : Prop where
  log : w'.log = w.log ++ l
  slot : ∀ c ∈ l, c.slot = some i
  others : ∀ j, j ≠ i → w'.reader j = w.reader j
  attempts : (w.reader i).hCard = none → w.readerManager.wanted i = true →
    ∃ c ∈ l, c.attempts i (w.nameText env i) = true
  refuses : ret ≠ none ↔ ∃ c ∈ l, c.refuses i = true

/-- The calls of a round in which the driver is asked. -/
lemma Checks.roundLog {env : Env} {i} {w w' : World} {r rv supported} (h : Checks env i w w' r)
    {ret w''} (log : w''.log = w'.log ++ [.readerCheck i rv supported])
    (others : ∀ j, j ≠ i → w''.reader j = w'.reader j)
    (refuses : ret ≠ none ↔ (Call.readerCheck i rv supported).refuses i = true) :
    ∃ l, RoundLog env i w ret w'' l := by
  obtain ⟨hCard, l, hn, hl, hlog⟩ := h.log
  refine ⟨.SCardConnect i (some hCard.reader) SCARD_S_SUCCESS (some hCard) :: l ++
    [.readerCheck i rv supported], ?_, fun c hc => ?_, fun j hj => ?_, fun _ _ => ?_, ?_⟩
  · rw [log, hlog]
    simp
  · simp only [List.cons_append, List.mem_cons, List.mem_append, List.not_mem_nil, or_false] at hc
    rcases hc with rfl | hc | rfl
    · rfl
    · exact (hl c hc).slot
    · rfl
  · rw [others j hj, h.others j hj]
  · exact ⟨_, List.mem_cons_self, by simp [Call.attempts, hn]⟩
  · rw [refuses]
    constructor
    · exact fun hr => ⟨.readerCheck i rv supported, by simp, hr⟩
    · rintro ⟨c, hc, hr⟩
      simp only [List.cons_append, List.mem_cons, List.mem_append, List.not_mem_nil,
        or_false] at hc
      rcases hc with rfl | hc | rfl
      · cases hr
      · rw [(hl c hc).not_refuses] at hr
        cases hr
      · exact hr

/-- What a round of the loop of `readersConnect` calls. -/
lemma connectReader_log {env : Env} {i} {w : World} :
    ∃ l, RoundLog env i w (connectReader env i w).1 (connectReader env i w).2 l := by
  have outcome := @connectReader_outcome env i w
  generalize connectReader env i w = x at outcome ⊢
  cases outcome with
  | skipped unwanted =>
    exact ⟨[], by simp, nofun, fun _ _ => rfl, fun h h' => absurd ⟨h, h'⟩ unwanted, by simp⟩
  | @unconnected rv =>
    refine ⟨[.SCardConnect i (w.nameText env i) rv none], rfl, by simp [Call.slot],
      fun j hj => reader_setReader_ne hj, fun _ _ => by simp [Call.attempts],
      by simp [Call.refuses]⟩
  | failed checks error =>
    exact checks.roundLog rfl (fun j hj => reader_setReader_ne hj) (by simp [Call.refuses, error])
  | unsupported checks =>
    exact checks.roundLog rfl (fun j hj => reader_setReader_ne hj) (by simp [Call.refuses])
  | accepted checks =>
    exact checks.roundLog rfl (fun j hj => reader_setReader_ne hj) (by simp [Call.refuses])

/-- An enumeration asks for lists of readers, and makes no other calls. -/
lemma readersEnumerate_log {env : Env} {w : World} :
    ∃ l, (readersEnumerate env w).2.log = w.log ++ l ∧
      ∀ c ∈ l, ∃ buffer rv names, c = .SCardListReaders buffer rv names := by
  have outcome := @readersEnumerate_outcome env w
  generalize readersEnumerate env w = x at outcome ⊢
  cases outcome with
  | failed => exact ⟨_, rfl, by simp⟩
  | noReaders => exact ⟨_, rfl, by simp⟩
  | renewed => exact ⟨_, List.append_assoc .., by simp⟩
  | relisted =>
    rw [relisted_eq]
    exact ⟨_, List.append_assoc .., by simp⟩

/-- An enumeration meets a failed call, or takes over the names that pcscd lists. -/
lemma readersEnumerate_cases {env : Env} {w : World} :
    ((readersEnumerate env w).1 ≠ SCARD_S_SUCCESS ∧
      ∃ l, (readersEnumerate env w).2.log = w.log ++ l ∧ ∃ c ∈ l, c.failed = true) ∨
    (namesListed env w).1 = SCARD_S_SUCCESS ∧ ∃ names size, readersEnumerate env w =
      (SCARD_S_SUCCESS, (w.record (.SCardListReaders none SCARD_S_SUCCESS names)).relisted size
        (namesListed env w).2) := by
  have outcome := @readersEnumerate_outcome env w
  generalize readersEnumerate env w = x at outcome ⊢
  cases outcome with
  | failed error =>
    refine .inl ⟨error, _, rfl, _, List.mem_singleton_self _, ?_⟩
    simpa [Call.failed] using error
  | noReaders =>
    have error : SCARD_E_NO_READERS_AVAILABLE ≠ SCARD_S_SUCCESS := by decide
    exact .inl ⟨error, _, rfl, _, List.mem_singleton_self _, rfl⟩
  | renewed error =>
    refine .inl ⟨error, _, List.append_assoc .., _,
      List.mem_cons_of_mem _ (List.mem_singleton_self _), ?_⟩
    simpa [Call.failed] using error
  | relisted success => exact .inr ⟨success, _, _, rfl⟩

/-- After an enumeration every listed slot has its name, and the handle it had. -/
lemma relisted_named {w : World} {size} {names : List ReaderName} {i} (hi : i < names.length) :
    (w.relisted size names).conn.Named i names[i].val ∧
      ((w.relisted size names).reader i).hCard = (w.reader i).hCard := by
  have hr : (w.relisted size names).reader i =
      { w.reader i with name := some ⟨w.freeMszReaders.mszHeap.length, nameOffset names i⟩ } := by
    rw [relisted_eq]
    exact if_pos hi
  have hm : (w.relisted size names).readerManager.mszReaders =
      some ⟨w.freeMszReaders.mszHeap.length, multiString names⟩ := by
    rw [relisted_eq]
  refine ⟨⟨⟨w.freeMszReaders.mszHeap.length, nameOffset names i⟩, ?_, ?_⟩, by rw [hr]⟩
  · show ((w.relisted size names).reader i).name = _
    rw [hr]
  · exact ⟨_, hm, rfl, cstrAt_nameOffset hi⟩

/-- A name that does not dangle is what is read through its pointer. -/
lemma nameText_of_named {env : Env} {w : World} {i name} (h : w.conn.Named i name) :
    w.nameText env i = some name := by
  obtain ⟨p, hp, msz, hm, hb, e⟩ := h
  have hp : (w.reader i).name = some p := hp
  have hm : w.readerManager.mszReaders = some msz := hm
  simp [World.nameText, World.cstr, hp, hm, hb, e]

/-- The name depends on the slot and the list only. -/
lemma Conn.Named.congr {w w' : World} {i name} (h : w.conn.Named i name)
    (hr : w'.reader i = w.reader i)
    (hm : w'.readerManager.mszReaders = w.readerManager.mszReaders) : w'.conn.Named i name := by
  obtain ⟨p, hp, msz, hm', hd⟩ := h
  refine ⟨p, ?_, msz, ?_, hd⟩
  · show (w'.reader i).name = _
    rw [hr]
    exact hp
  · show w'.readerManager.mszReaders = _
    rw [hm]
    exact hm'

/-- The calls of the first `n` rounds of the loop of `readersConnect`, none of which returned. -/
structure LoopLog (w : World) (n : Nat) (w' : World) (l : List Call) : Prop where
  rounds : Rounds w w'
  log : w'.log = w.log ++ l
  others : ∀ j, n ≤ j → w'.reader j = w.reader j
  attempts : ∀ j < n, ∀ name, w.conn.Named j name → (w.reader j).hCard = none →
    w.readerManager.wanted j = true → ∃ c ∈ l, c.attempts j (some name) = true

/-- Whether all readers are asked for depends on the setting only. -/
lemma automatic_congr {m m' : tReaderManager} (h : m'.readerSetting = m.readerSetting) :
    m'.automatic = m.automatic := by
  unfold tReaderManager.automatic tReaderManager.readersSettingBitmapBitTest
  rw [h]

/-- Whether a reader is asked for depends on the setting only. -/
lemma wanted_congr {m m' : tReaderManager} (h : m'.readerSetting = m.readerSetting) (i) :
    m'.wanted i = m.wanted i := by
  unfold tReaderManager.wanted tReaderManager.readersSettingBitmapNumberTest
  rw [automatic_congr h, h]

/-- One round more: it tries its reader, and returns only if the reader is refused. -/
lemma LoopLog.round (env : Env) {w t : World} {n l} (h : LoopLog w n t l)
    (hn : n < w.readerManager.nbReaders) :
    ∃ l', LoopLog w (n + 1) (connectReader env n t).2 (l ++ l') ∧
      ((connectReader env n t).1 ≠ none → ∃ c ∈ l', c.refuses n = true) := by
  have ht : n < t.readerManager.nbReaders := by rw [h.rounds.nbReaders]; exact hn
  have self := h.others n (Nat.le_refl n)
  obtain ⟨l', hl⟩ := @connectReader_log env n t
  refine ⟨l', ⟨h.rounds.trans (connectReader_rounds ht), ?_, fun j hj => ?_, ?_⟩, hl.refuses.1⟩
  · rw [hl.log, h.log, List.append_assoc]
  · rw [hl.others j (by omega), h.others j (by omega)]
  · intro j hj name hname hc hw
    rcases Nat.lt_succ_iff_lt_or_eq.1 hj with hj | rfl
    · obtain ⟨c, hmem, ha⟩ := h.attempts j hj name hname hc hw
      exact ⟨c, List.mem_append_left _ hmem, ha⟩
    · have hname' := @nameText_of_named env _ _ _ (hname.congr self h.rounds.mszReaders)
      obtain ⟨c, hmem, ha⟩ := hl.attempts (by rw [self]; exact hc)
        (by rw [wanted_congr h.rounds.readerSetting]; exact hw)
      rw [hname'] at ha
      exact ⟨c, List.mem_append_right _ hmem, ha⟩

/-- The loop of `readersConnect` tries every reader that is wanted and not connected, up to the
first one that is refused. -/
lemma connectLoop_log {env : Env} {w : World} :
    ∃ l, (scan (connectReader env) (List.range w.readerManager.nbReaders) w).2.log = w.log ++ l ∧
      ∀ j < w.readerManager.nbReaders, ∀ name, w.conn.Named j name → (w.reader j).hCard = none →
        w.readerManager.wanted j = true → (∃ c ∈ l, c.attempts j (some name) = true) ∨
          ∃ s < j, ∃ c ∈ l, c.refuses s = true := by
  have start : LoopLog w 0 w [] := ⟨.refl, by simp, fun _ _ => rfl, nofun⟩
  have step : ∀ i < w.readerManager.nbReaders, ∀ s t, (∃ l, LoopLog w i s l) →
      connectReader env i s = (none, t) → ∃ l, LoopLog w (i + 1) t l := by
    rintro i hi s t ⟨l, h⟩ e
    obtain ⟨l', h', _⟩ := h.round env hi
    rw [e] at h'
    exact ⟨_, h'⟩
  rcases scan_range (I := fun n t => ∃ l, LoopLog w n t l) ⟨[], start⟩ step with
    ⟨t, e, l, h⟩ | ⟨i, hi, u, r, t, ⟨l, h⟩, he, e⟩
  · rw [e]
    exact ⟨l, h.log, fun j hj name hname hc hw => .inl (h.attempts j hj name hname hc hw)⟩
  · -- the round for reader `i` returned: readers up to `i` were tried, and `i` is refused
    obtain ⟨l', h', hr⟩ := h.round env hi
    rw [he] at h' hr
    obtain ⟨c, hmem, hc'⟩ := hr (by simp)
    rw [e]
    refine ⟨l ++ l', h'.log, fun j hj name hname hc hw => ?_⟩
    by_cases hji : j < i + 1
    · exact .inl (h'.attempts j hji name hname hc hw)
    · exact .inr ⟨i, by omega, c, List.mem_append_right _ hmem, hc'⟩

/-- In AUTO mode the connection phase meets a failed call, or tries every reader that pcscd lists
and that is not connected, up to the first one that is refused. -/
theorem readersConnect_attempts {env : Env} {w : World}
    (auto : w.readerManager.automatic = true) :
    ∃ l, (readersConnect env w).2.log = w.log ++ l ∧ ((∃ c ∈ l, c.failed = true) ∨
      (namesListed env w).1 = SCARD_S_SUCCESS ∧
        ∀ i, ∀ hi : i < (namesListed env w).2.length, (w.reader i).hCard = none →
          (∃ c ∈ l, c.attempts i (some (namesListed env w).2[i].val) = true) ∨
            ∃ s < i, ∃ c ∈ l, c.refuses s = true) := by
  have enumerate : enumerateIfAutomatic env w = readersEnumerate env w := if_pos auto
  have outcome := @readersConnect_outcome env w
  rw [enumerate] at outcome
  obtain ⟨hrv, l, hlog, hf⟩ | ⟨hrv, names, size, e⟩ := @readersEnumerate_cases env w
  · generalize readersConnect env w = x at outcome ⊢
    cases outcome with
    | failed => exact ⟨l, hlog, .inl hf⟩
    | noReaders success => exact absurd success hrv
    | looped success => exact absurd success hrv
  rw [e] at outcome
  generalize hw1 : (w.record _).relisted size (namesListed env w).2 = w1 at outcome
  have hlog : ∃ l, w1.log = w.log ++ l := by
    rw [← hw1, relisted_eq]
    exact ⟨_, List.append_assoc ..⟩
  have hnb : w1.readerManager.nbReaders = (namesListed env w).2.length := by
    rw [← hw1, relisted_eq]
  have hset : w1.readerManager.readerSetting = w.readerManager.readerSetting := by
    rw [← hw1, relisted_eq]
    rfl
  have named : ∀ i, ∀ hi : i < (namesListed env w).2.length,
      w1.conn.Named i (namesListed env w).2[i].val ∧ (w1.reader i).hCard = (w.reader i).hCard :=
    fun i hi => hw1 ▸ relisted_named hi
  obtain ⟨l0, hlog⟩ := hlog
  obtain ⟨l, hl, tried⟩ := @connectLoop_log env w1
  generalize readersConnect env w = x at outcome ⊢
  cases outcome with
  | failed error => exact absurd rfl error
  | noReaders _ zero =>
    have none : (namesListed env w).2.length = 0 := hnb.symm.trans zero
    refine ⟨l0, hlog, .inr ⟨hrv, fun i hi => ?_⟩⟩
    omega
  | looped _ _ loop =>
    rw [loop, hlog, List.append_assoc] at hl
    refine ⟨l0 ++ l, hl, .inr ⟨hrv, fun i hi hc => ?_⟩⟩
    have hw : w1.readerManager.wanted i = true := by
      rw [wanted_congr hset, tReaderManager.wanted, auto, Bool.true_or]
    rcases tried i (hnb ▸ hi) _ (named i hi).1 ((named i hi).2.trans hc) hw with
      ⟨c, hmem, ha⟩ | ⟨s, hs, c, hmem, hr⟩
    · exact .inl ⟨c, List.mem_append_right _ hmem, ha⟩
    · exact .inr ⟨s, hs, c, List.mem_append_right _ hmem, hr⟩

end TagEventor
