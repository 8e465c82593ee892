import TagEventor.Reader.Sam
import TagEventor.Reader.Table

/-!
# Clean slots

A slot that holds no card is as `RESET_READER` leaves it but for its name, a driver comes with its
descriptor, and only a slot with a driver holds tags, at most as many as the driver has room for
(`Clean`). The drivers fill in the SAM data and the tags step by step, but what a failed check or a
failed poll leaves is reset before it can be seen.

The texts that the check prints are not cut to the size of their arrays. `Spilled` has the functions
of the library again, with what the text in `SAM_id` does to the bytes behind that array: on a
64-bit build, `scanning` lies 30 bytes behind its start, `tagList.pTags` 33, `tagList.numTags` 41
and the next slot 49. The serial number only reaches `SAM_id`, which the check prints next or
`RESET_READER` empties, and with the terminator of its longest text `scanning`, which is FALSE then.
A text that ends in front of `numTags` leaves the slots clean (`clean_of_shortIds`), a longer one
does not (`id_overruns_longId`).
-/

namespace TagEventor

/-- A slot without a card is clean, a slot with tags has a driver. -/
structure Clean (r : tReader) : Prop where
  unconnected : r.hCard = none → r.pDriver = none ∧ r.driverDescriptor = none ∧ r.SAM = false ∧
    r.SAM_serial = [] ∧ r.SAM_id = [] ∧ r.tagList.numTags = 0
  described : r.pDriver = none ↔ r.driverDescriptor = none
  driven : 0 < r.tagList.numTags → ∃ driver ∈ r.pDriver, r.tagList.numTags ≤ driver.maxTags

/-- An empty slot is clean. -/
lemma clean_reset : Clean .reset :=
  ⟨fun _ => ⟨rfl, rfl, rfl, rfl, rfl, rfl⟩, iff_of_true rfl rfl, nofun⟩

/-- The name of a slot does not matter. -/
lemma Clean.rename {r : tReader} {name} (h : Clean r) : Clean { r with name := name } :=
  ⟨h.unconnected, h.described, h.driven⟩

/-- A check starts from a clean slot without a card, so there is no tag and no driver yet. -/
lemma Clean.check {r r' : tReader} {h} (clean : Clean r) (free : r.hCard = none)
    (checked : Checked { r with hCard := some h } r') :
    r'.hCard ≠ none ∧ r'.driverDescriptor = none ∧ r'.tagList.numTags = 0 := by
  obtain ⟨-, driverDescriptor, -, -, -, numTags⟩ := clean.unconnected free
  have hCard : r'.hCard = some h := congrArg Slot.hCard checked.slot
  refine ⟨by rw [hCard]; nofun, checked.driverDescriptor.trans driverDescriptor, ?_⟩
  rw [checked.tagList]
  exact numTags

/-- The log only grows. -/
lemma Table.Step.log {t t' : Table} (st : t.Step t') : ∃ l, t'.log = t.log ++ l := by
  cases st with
  | logged | disconnected => exact ⟨_, rfl⟩
  | failed | unsupported | accepted => exact ⟨_, rfl⟩
  | _ => exact ⟨[], (List.append_nil _).symm⟩

/-- A write to one slot. -/
lemma clean_update {readers : Nat → tReader} {i r} (h : ∀ j, Clean (readers j)) (hr : Clean r) :
    ∀ j, Clean (Function.update readers i r j) := by
  intro j
  by_cases hj : j = i
  · subst hj
    rw [Function.update_self]
    exact hr
  · rw [Function.update_of_ne hj]
    exact h j

/-- Whatever happens to the slots keeps them clean. -/
lemma clean_step {t t' : Table} (h : ∀ i, Clean (t.readers i)) (st : t.Step t') :
    ∀ i, Clean (t'.readers i) := by
  cases st with
  | logged quiet => exact h
  | pcscd => exact h
  | relisted hr =>
    intro i
    dsimp only
    rcases hr i with e | e | ⟨name, e⟩
    · rw [e]
      exact h i
    · rw [e]
      exact clean_reset
    · rw [e]
      exact (h i).rename
  | failed onCard error => exact clean_update h clean_reset
  | @unsupported i _ _ _ _ onCard free checked =>
    obtain ⟨hCard, driverDescriptor, numTags⟩ := (h i).check free checked
    apply clean_update h
    exact ⟨fun e => absurd e hCard, iff_of_true rfl driverDescriptor, fun pos => absurd numTags
      (Nat.ne_of_gt pos)⟩
  | @accepted i _ _ _ _ _ onCard free checked =>
    obtain ⟨hCard, _, numTags⟩ := (h i).check free checked
    apply clean_update h
    exact ⟨fun e => absurd e hCard, iff_of_false nofun nofun, fun pos => absurd numTags
      (Nat.ne_of_gt pos)⟩
  | disconnected => exact clean_update h clean_reset
  | @tagList i l hl =>
    obtain ⟨unconnected, described, driven⟩ := h i
    apply clean_update h
    refine ⟨fun e => ?_, described, fun pos => ?_⟩
    · obtain ⟨pDriver, driverDescriptor, SAM, serial, id, numTags⟩ := unconnected e
      refine ⟨pDriver, driverDescriptor, SAM, serial, id, ?_⟩
      exact hl.elim (fun e => e) fun e => e.trans numTags
    · rcases hl with e | e
      · exact absurd e (Nat.ne_of_gt pos)
      · rw [e] at pos ⊢
        exact driven pos
  | @delivered i driver l hCard pDriver le =>
    apply clean_update h
    exact ⟨fun e => absurd e hCard, (h i).described, fun _ => ⟨driver, pDriver, le⟩⟩

namespace Spilled

/-- `offsetof( tReader, scanning ) - offsetof( tReader, SAM_id )`. -/
def SCANNING_OFFSET : Nat := 30

/-- `offsetof( tReader, tagList.pTags ) - offsetof( tReader, SAM_id )`. -/
def P_TAGS_OFFSET : Nat := 33

/-- `offsetof( tReader, tagList.numTags ) - offsetof( tReader, SAM_id )`. -/
def NUM_TAGS_OFFSET : Nat := 41

/-- `sizeof( tReader ) - offsetof( tReader, SAM_id )`. -/
def NEXT_READER_OFFSET : Nat := 49

/-- The size of an `int`. -/
def SIZEOF_INT : Nat := 4

/-- What a text makes of the data that it overwrites and of which there are no bytes here: of the
pointer `tagList.pTags` of its slot, and of the manager behind a slot, which is the next slot or
what follows the last one. It can be anything. -/
structure Beyond where
  pTags : CString → Option TagPtr → Option TagPtr
  behind : CString → Nat → tReaderManager → tReaderManager

/-- An integer in memory, the low byte first, after some characters were written over it. -/
def overwrite : List Char → Nat → Nat
  | [], value => value
  | c :: written, value => c.toNat + 256 * overwrite written (value / 256)

/-- A slot after the text in its `SAM_id` and the terminator were written to memory. -/
def spill (b : Beyond) (r : tReader) : tReader :=
  let bytes := r.SAM_id ++ ['\x00']
  { r with
    SAM_serial := r.SAM_serial.take MAX_SAM_SERIAL_SIZE
    SAM_id := r.SAM_id.take MAX_SAM_ID_SIZE
    scanning := (bytes[SCANNING_OFFSET]?.map (· != '\x00')).getD r.scanning
    tagList :=
      { pTags :=
          if bytes.length ≤ P_TAGS_OFFSET then r.tagList.pTags else b.pTags r.SAM_id r.tagList.pTags
        numTags :=
          overwrite ((bytes.drop NUM_TAGS_OFFSET).take SIZEOF_INT) r.tagList.numTags } }

/-- The state after the text in `SAM_id` of slot `i` and the terminator were written to memory. -/
def spillWorld (b : Beyond) (i : Nat) (w : World) : World :=
  let id := (w.reader i).SAM_id
  let w := w.setReader i (spill b (w.reader i))
  if id.length < NEXT_READER_OFFSET then w
  else { w with readerManager := b.behind id i w.readerManager }

/-- The reply to the request for the identity of the SAM. -/
def identity : Call → Option (List BYTE)
  | .SCardTransmit _ _ send rv recv =>
    if send = APDU_GET_SAM_ID ∧ rv = SCARD_S_SUCCESS then some recv else none
  | _ => none

/-- `readerCheck`, which prints the identity if it gets one. -/
def readerCheck (b : Beyond) (env : Env) (driver : tReaderDriver) (num : Nat) (w : World) :
    (LONG × Bool) × World :=
  match w.readerCheck env driver num with
  | (answer, w') =>
    if (w'.log.drop w.log.length).any (fun c => (identity c).isSome) then
      (answer, spillWorld b num w')
    else (answer, w')

/-- `checkDrivers` with the texts in memory. -/
def checkDrivers (b : Beyond) (env : Env) (num : Nat) : List tReaderDriver → LONG → World →
    (LONG × Option tReaderDriver) × World
  | [], rv, w => ((rv, none), w)
  | driver :: drivers, _, w =>
    match readerCheck b env driver num w with
    | ((rv, supported), w) =>
      if supported then ((rv, some driver), w) else checkDrivers b env num drivers rv w

/-- `connectReader` with the texts in memory. -/
def connectReader (b : Beyond) (env : Env) (num : Nat) (w : World) : Option LONG × World :=
  if (w.reader num).hCard = none ∧ w.readerManager.wanted num then
    match SCardConnect env num w with
    | (rv, w) =>
      if rv = SCARD_S_SUCCESS then
        let w := w.eventDispatch .READER_DETECTED num
        match checkDrivers b env num readerDriverTable rv w with
        | ((rv, driver), w) =>
          if rv ≠ SCARD_S_SUCCESS then (some rv, w.RESET_READER num)
          else
            match driver with
            | none =>
              (some SCARD_E_UNKNOWN_READER, w.setReader num { w.reader num with pDriver := none })
            | some driver =>
              let w := w.setReader num
                { w.reader num with
                  pDriver := some driver, driverDescriptor := some driver.driverDescriptor }
              (none, w.eventDispatch .READER_DETECTED num)
      else (none, w.RESET_READER num)
  else (none, w)

/-- `readersConnect` with the texts in memory. -/
def readersConnect (b : Beyond) (env : Env) (w : World) : LONG × World :=
  match enumerateIfAutomatic env w with
  | (rv, w) =>
    if rv ≠ SCARD_S_SUCCESS then (rv, w)
    else if w.readerManager.nbReaders = 0 then (SCARD_E_NO_READERS_AVAILABLE, w)
    else
      match Loop.scan (connectReader b env) (List.range w.readerManager.nbReaders) w with
      | (some rv, w) => (rv, w)
      | (none, w) => (SCARD_S_SUCCESS, w)

/-- `connectIfAutomatic` with the texts in memory. -/
def connectIfAutomatic (b : Beyond) (env : Env) (w : World) : LONG × World :=
  if w.readerManager.automatic then readersConnect b env w else (SCARD_S_SUCCESS, w)

/-- `readersGetTagList` with the texts in memory. -/
def readersGetTagList (b : Beyond) (env : Env) (w : World) : LONG × World :=
  if w.readerManager.hContext = none then (SCARD_E_INVALID_PARAMETER, w)
  else
    match connectIfAutomatic b env w with
    | (rv, w) => if rv ≠ SCARD_S_SUCCESS then (rv, w) else readTags env rv w

/-- A call of a function of the library; the other functions print no text. -/
def exec (b : Beyond) (env : Env) : Op → World → World
  | .readersConnect, w => (readersConnect b env w).2
  | .readersGetTagList, w => (readersGetTagList b env w).2
  | op, w => op.exec env w

/-- The state after a sequence of calls. -/
def run (b : Beyond) (env : Env) (readerSetting : BitVec 32) (ops : List Op) : World :=
  ops.foldl (fun w op => exec b env op w) (.init readerSetting)

/-- Every identity that a SAM has reported is short enough for its text to end in front of
`numTags`. -/
def ShortIds (log : List Call) : Prop := ∀ c ∈ log, ∀ id ∈ identity c, id.length ≤ 20

instance (log : List Call) : Decidable (ShortIds log) :=
  inferInstanceAs (Decidable (∀ c ∈ log, ∀ id ∈ identity c, id.length ≤ 20))

/-- A text that ends in front of `numTags` leaves it alone. -/
lemma spill_numTags {b : Beyond} {r : tReader} (short : r.SAM_id.length < NUM_TAGS_OFFSET) :
    (spill b r).tagList.numTags = r.tagList.numTags := by
  have bytes : (r.SAM_id ++ ['\x00']).drop NUM_TAGS_OFFSET = [] := by
    rw [List.drop_eq_nil_iff, List.length_append]
    exact short
  simp only [spill, bytes]
  rfl

/-- The log goes on from a state to a later one, and if the identities in it are short, what holds
of the first state leads to what holds of the later one. -/
structure Leads (P Q : World → Prop) (w w' : World) : Prop where
  log : w.log <+: w'.log
  state : ShortIds w'.log → P w → Q w'

/-- One part leads on from where the other ends. -/
lemma Leads.trans {P Q R : World → Prop} {w w' w''} (h : Leads P Q w w') (h' : Leads Q R w' w'') :
    Leads P R w w'' := by
  refine ⟨h.log.trans h'.log, fun short hw => ?_⟩
  have earlier : ShortIds w'.log := fun c hc => short c (h'.log.subset hc)
  exact h'.state short (h.state earlier hw)

/-- All slots are clean. -/
def AllClean (w : World) : Prop := ∀ i, Clean (w.reader i)

/-- All slots are clean, and slot `i` holds a card but has no driver yet. -/
structure Held (i : Nat) (w : World) : Prop where
  clean : AllClean w
  hCard : (w.reader i).hCard ≠ none
  driverDescriptor : (w.reader i).driverDescriptor = none
  numTags : (w.reader i).tagList.numTags = 0

/-- A slot with a driver has a descriptor. -/
lemma Held.pDriver {i} {w : World} (h : Held i w) : (w.reader i).pDriver = none :=
  (h.clean i).described.2 h.driverDescriptor

/-- A slot is written that holds a card, but no driver and no tags. -/
lemma held_setReader {w : World} {i r} (clean : AllClean w) (hCard : r.hCard ≠ none)
    (pDriver : r.pDriver = none) (driverDescriptor : r.driverDescriptor = none)
    (numTags : r.tagList.numTags = 0) : Held i (w.setReader i r) := by
  have written : (w.setReader i r).reader i = r := reader_setReader
  have hr : Clean r := ⟨fun e => absurd e hCard, iff_of_true pDriver driverDescriptor,
    fun pos => absurd numTags (Nat.ne_of_gt pos)⟩
  refine ⟨clean_update clean hr, ?_, ?_, ?_⟩
  · rw [written]
    exact hCard
  · rw [written]
    exact driverDescriptor
  · rw [written]
    exact numTags

/-- Nothing has happened. -/
lemma Leads.refl {P : World → Prop} {w} : Leads P P w w := ⟨List.prefix_refl _, fun _ h => h⟩

/-- What goes by the steps of the table leads from clean slots to clean slots. -/
lemma leads_moves {w w' : World} (h : Moves w w') : Leads AllClean AllClean w w' := by
  refine ⟨?_, fun _ clean => ?_⟩
  · refine Machine.steps_inv (I := fun t : Table => w.log <+: t.log) (fun t t' ht st => ?_) h
      (List.prefix_refl _)
    obtain ⟨l, e⟩ := st.log
    rw [e]
    exact ht.trans (List.prefix_append _ _)
  · refine Machine.steps_inv (I := fun t : Table => ∀ i, Clean (t.readers i)) ?_ h clean
    exact fun _ _ => clean_step

/-- What is logged of an exchange with the card of a slot. -/
def logged (slot : Nat) (hCard : Option tCardHandle) : CardRequest × LONG × List BYTE → Call
  | (.transmit send _, rv, recv) => .SCardTransmit slot hCard send rv recv
  | (.status, rv, atr) => .SCardStatus slot hCard rv atr

/-- The log of a driver routine is its transcript. -/
lemma run_logged {α : Type} {env : Env} {slot hCard} {p : CardProg α} {log} :
    (p.run (answerCard env slot hCard) log).2 =
      log ++ (p.transcript (answerCard env slot hCard) log).map (logged slot hCard) := by
  induction p generalizing log with
  | ret a => exact (List.append_nil _).symm
  | ask q k ih =>
    show (Interact.Prog.run _ (k _) _).2 = _
    rw [ih]
    cases q <;> exact List.append_assoc _ [_] _

/-- An identity that is logged was transmitted. -/
lemma identity_logged {slot hCard e id} (got : id ∈ identity (logged slot hCard e)) :
    ∃ capacity, e = (.transmit APDU_GET_SAM_ID capacity, SCARD_S_SUCCESS, id) := by
  obtain ⟨q, rv, recv⟩ := e
  cases q with
  | status => cases got
  | transmit send capacity =>
    unfold logged identity at got
    dsimp only at got
    split at got
    next asked =>
      obtain ⟨rfl, rfl⟩ := asked
      cases got
      exact ⟨capacity, rfl⟩
    next => cases got

/-- Where a check gets an identity, the text for it is printed. -/
lemma outcome_identity {σ : Type} {answer : CardRequest → σ → (LONG × List BYTE) × σ}
    {name stack pReader s r t} (h : CheckOutcome answer name stack pReader s r t) {capacity id}
    (mem : (.transmit APDU_GET_SAM_ID capacity, SCARD_S_SUCCESS, id) ∈ t) :
    r.2.2.SAM_id = replyText id := by
  obtain ⟨asked, serial, e⟩ := (outcome_plain h (by decide) mem).id_inv
  have got : (idAnswer answer stack s).1.1 = SCARD_S_SUCCESS := (congrArg Prod.fst e).symm
  cases h with
  | unnamed other => exact absurd asked.accepted.named other
  | firmwareFailed _ failed => exact absurd asked.accepted.answered failed
  | unsupported _ _ other => exact absurd asked.accepted.supported other
  | retryFailed _ failed => exact absurd asked.retried failed
  | noSam _ _ none => exact absurd none asked.present
  | serialFailed _ failed => exact absurd serial failed
  | idFailed _ _ failed => exact absurd got failed
  | sam => rw [← e]

/-- Where a check has printed an identity, the text in the slot is the one for it. -/
lemma readerCheck_identity {env : Env} {driver i} {w : World} {c id}
    (mem : c ∈ (w.readerCheck env driver i).2.log.drop w.log.length) (got : id ∈ identity c) :
    ((w.readerCheck env driver i).2.reader i).SAM_id = replyText id := by
  cases driver with
  | acr122U =>
    have outcome := @readerCheck_outcome _ (answerCard env i (w.reader i).hCard) (w.reader i)
      ((w.nameText env i).getD []) (env.stack w.log i) w.log
    have log := @run_logged _ env i (w.reader i).hCard
      (acr122UReaderCheck (w.reader i) ((w.nameText env i).getD []) (env.stack w.log i)) w.log
    simp only [World.readerCheck, tReaderDriver.readerCheck, World.onCard] at mem ⊢
    rw [reader_setReader]
    -- the last call is the entry of the check itself
    replace mem : c ∈ List.drop w.log.length ((Interact.Prog.run _ _ _).2 ++ [_]) := mem
    rw [log, List.append_assoc, List.drop_left] at mem
    rcases List.mem_append.1 mem with mem | mem
    · obtain ⟨e, he, rfl⟩ := List.mem_map.1 mem
      obtain ⟨capacity, rfl⟩ := identity_logged got
      exact outcome_identity outcome he
    · cases List.mem_singleton.1 mem
      cases got

/-- A check keeps the card in its slot and the slots clean, if the identities are short. -/
lemma readerCheck_leads {b : Beyond} {env : Env} {driver i} {w : World} :
    Leads (Held i) (Held i) w (readerCheck b env driver i w).2 := by
  have text := @readerCheck_identity env driver i w
  have log : w.log <+: (w.readerCheck env driver i).2.log := by
    obtain ⟨w1, r, -, -, -, ⟨l, hlog, -⟩, -, e⟩ := @readerCheck_spec env driver i w
    rw [e]
    refine List.IsPrefix.trans ?_ (List.prefix_append _ _)
    exact hlog ▸ List.prefix_append _ _
  have held (h : Held i w) : Held i (w.readerCheck env driver i).2 := by
    obtain ⟨w1, r, -, hr1, -, -, checked, e⟩ := @readerCheck_spec env driver i w
    rw [e]
    have clean : AllClean w1 := fun j => hr1 j ▸ h.clean j
    refine held_setReader clean ?_ ?_ (checked.driverDescriptor.trans h.driverDescriptor) ?_
    · have hCard : r.hCard = (w.reader i).hCard := congrArg Slot.hCard checked.slot
      rw [hCard]
      exact h.hCard
    · exact (congrArg Slot.pDriver checked.slot).trans h.pDriver
    · rw [checked.tagList]
      exact h.numTags
  unfold readerCheck
  generalize w.readerCheck env driver i = x at text log held ⊢
  obtain ⟨answer, w'⟩ := x
  dsimp only at text log held ⊢
  split
  swap
  · exact ⟨log, fun _ => held⟩
  next printed =>
  obtain ⟨c, mem, got⟩ := List.any_eq_true.1 printed
  obtain ⟨id, got⟩ := Option.isSome_iff_exists.1 got
  have fits (short : ShortIds w'.log) : (w'.reader i).SAM_id.length < NUM_TAGS_OFFSET := by
    have short : id.length ≤ 20 := short c (List.mem_of_mem_drop mem) id got
    rw [text mem got, replyText_short (by omega), hexText_length, NUM_TAGS_OFFSET]
    omega
  have spilled : (spillWorld b i w').log = w'.log := by
    unfold spillWorld
    dsimp only
    split <;> rfl
  refine ⟨spilled.symm ▸ log, fun short h => ?_⟩
  rw [spilled] at short
  have h' := held h
  -- so the text does not reach the next slot either
  have whole : (w'.reader i).SAM_id.length < NEXT_READER_OFFSET :=
    Nat.lt_trans (fits short) (by decide)
  unfold spillWorld
  rw [if_pos whole]
  exact held_setReader h'.clean h'.hCard h'.pDriver h'.driverDescriptor
    ((spill_numTags (fits short)).trans h'.numTags)

/-- The drivers are asked one after the other. -/
lemma checkDrivers_leads {b : Beyond} {env : Env} {drivers i rv} {w : World} :
    Leads (Held i) (Held i) w (checkDrivers b env i drivers rv w).2 := by
  induction drivers generalizing rv w with
  | nil => exact .refl
  | cons driver drivers ih =>
    have checked := @readerCheck_leads b env driver i w
    unfold checkDrivers
    generalize readerCheck b env driver i w = x at checked ⊢
    obtain ⟨⟨rv', supported⟩, w'⟩ := x
    cases supported with
    | true => exact checked
    | false => exact checked.trans ih

/-- A slot is written that the log does not tell about. -/
lemma leads_setReader {P : World → Prop} {w : World} {i r} (clean : P w → AllClean w)
    (hr : P w → Clean r) : Leads P AllClean w (w.setReader i r) :=
  ⟨List.prefix_refl _, fun _ h => clean_update (clean h) (hr h)⟩

/-- A round of `readersConnect`. -/
lemma connectReader_leads {b : Beyond} {env : Env} {i} {w : World} :
    Leads AllClean AllClean w (connectReader b env i w).2 := by
  unfold connectReader
  split
  swap
  · exact .refl
  next wanted =>
  obtain ⟨rv, error, e⟩ | ⟨h, hn, -, e⟩ := @SCardConnect_cases env i w
  · rw [e]
    simp only [if_neg error]
    exact ⟨List.prefix_append _ _, fun _ clean => clean_update clean clean_reset⟩
  rw [e]
  simp only [if_true]
  -- the handle is stored, and the driver is asked
  have opened : Leads AllClean (Held i) w (World.eventDispatch ((w.record (.SCardConnect i
      (some h.reader) SCARD_S_SUCCESS (some h))).setReader i { w.reader i with hCard := some h })
      .READER_DETECTED i) := by
    refine ⟨List.prefix_append _ _, fun _ clean => ?_⟩
    obtain ⟨pDriver, driverDescriptor, -, -, -, numTags⟩ := (clean i).unconnected wanted.1
    have hCard : { w.reader i with hCard := some h }.hCard ≠ none := nofun
    obtain ⟨clean, hCard, driverDescriptor, numTags⟩ :=
      @held_setReader (w.record _) i _ clean hCard pDriver driverDescriptor numTags
    exact ⟨clean, hCard, driverDescriptor, numTags⟩
  generalize World.eventDispatch _ tEventType.READER_DETECTED i = w1 at opened ⊢
  have checked := opened.trans (@checkDrivers_leads b env readerDriverTable i SCARD_S_SUCCESS w1)
  generalize checkDrivers b env i readerDriverTable SCARD_S_SUCCESS w1 = x at checked ⊢
  obtain ⟨⟨rv, driver⟩, w2⟩ := x
  dsimp only at checked ⊢
  split
  · exact checked.trans (leads_setReader Held.clean fun _ => clean_reset)
  cases driver with
  | none =>
    refine checked.trans (leads_setReader Held.clean fun h => ?_)
    exact ⟨fun e => absurd e h.hCard, iff_of_true rfl h.driverDescriptor,
      fun pos => absurd h.numTags (Nat.ne_of_gt pos)⟩
  | some driver =>
    refine checked.trans ⟨List.prefix_refl _, fun _ h => clean_update h.clean ?_⟩
    exact ⟨fun e => absurd e h.hCard, iff_of_false nofun nofun,
      fun pos => absurd h.numTags (Nat.ne_of_gt pos)⟩

/-- The connection phase leaves the slots clean. -/
lemma readersConnect_leads {b : Beyond} {env : Env} {w : World} :
    Leads AllClean AllClean w (readersConnect b env w).2 := by
  have enumerated : Leads AllClean AllClean w (enumerateIfAutomatic env w).2 :=
    leads_moves enumerateIfAutomatic_moves
  unfold readersConnect
  generalize enumerateIfAutomatic env w = x at enumerated ⊢
  obtain ⟨rv, w1⟩ := x
  dsimp only at enumerated ⊢
  split_ifs
  · exact enumerated
  · exact enumerated
  · have rounds := @Loop.scan_path _ _ _ (Leads AllClean AllClean) (connectReader b env)
      (fun _ => .refl) .trans (List.range w1.readerManager.nbReaders)
      (fun i _ s => @connectReader_leads b env i s) w1
    generalize Loop.scan (connectReader b env) _ w1 = y at rounds ⊢
    obtain ⟨result, w2⟩ := y
    cases result with
    | some rv => exact enumerated.trans rounds
    | none => exact enumerated.trans rounds

/-- A call that reads all tags leaves the slots clean. -/
lemma readersGetTagList_leads {b : Beyond} {env : Env} {w : World} :
    Leads AllClean AllClean w (readersGetTagList b env w).2 := by
  unfold readersGetTagList
  split
  · exact .refl
  have connected : Leads AllClean AllClean w (connectIfAutomatic b env w).2 := by
    unfold connectIfAutomatic
    split
    · exact readersConnect_leads
    · exact .refl
  generalize connectIfAutomatic b env w = x at connected ⊢
  obtain ⟨rv, w1⟩ := x
  dsimp only at connected ⊢
  split
  · exact connected
  · exact connected.trans (leads_moves readTags_moves)

/-- A call of a function of the library. -/
lemma exec_leads {b : Beyond} {env : Env} {op : Op} {w : World} :
    Leads AllClean AllClean w (exec b env op w) := by
  cases op with
  | readersConnect => exact readersConnect_leads
  | readersGetTagList => exact readersGetTagList_leads
  | readersManagerConnect => exact leads_moves readersManagerConnect_moves
  | readersDisconnect => exact leads_moves readersDisconnect_moves
  | readersManagerDisconnect => exact leads_moves readersManagerDisconnect_moves

/-- After any calls of the functions of the library, whatever pcscd and the cards answered, every
slot is clean, if no SAM has reported an identity of more than 20 bytes. -/
theorem clean_of_shortIds {b : Beyond} {env : Env} {setting ops}
    (short : ShortIds (run b env setting ops).log) :
    ∀ i, Clean ((run b env setting ops).reader i) :=
  have led : Leads AllClean AllClean (.init setting) (run b env setting ops) :=
    Loop.foldl_path (R := Leads AllClean AllClean) (fun _ => .refl) .trans
      (fun _ _ _ => exec_leads) _
  led.state short fun _ => clean_reset

/-- One supported reader with a SAM that reports the identity `id`. -/
def identified (id : List BYTE) : Env :=
  { plain [acr0] fun _ _ => none with
    SCardStatus _ _ := (SCARD_S_SUCCESS, [0x3B, 0x69])
    SCardTransmit log slot send :=
      if send = APDU_GET_SAM_SERIAL then (SCARD_S_SUCCESS, [0x90, 0x00])
      else if send = APDU_GET_SAM_ID then (SCARD_S_SUCCESS, id)
      else (plain [acr0] fun _ _ => none).SCardTransmit log slot send }

/-- What is overwritten keeps its value. -/
def Beyond.kept : Beyond := ⟨fun _ pTags => pTags, fun _ _ m => m⟩

/-- The longest identity whose text leaves the slots clean. -/
theorem clean_of_shortIds_longest :
    AllClean (run .kept (identified (.replicate 18 0xAB ++ [0x90, 0x00])) 1#32
      [.readersManagerConnect, .readersConnect]) :=
  clean_of_shortIds (by decide +kernel)

/-- A SAM that delivers 19 bytes and a status word. -/
def longId : List BYTE := .replicate 19 0xAB ++ [0x90, 0x00]

/-- The last digit for an identity of 21 bytes is the low byte of the number of tags. -/
theorem id_overruns_longId :
    ¬ ∀ i, Clean ((run .kept (identified longId) 1#32
      [.readersManagerConnect, .readersConnect]).reader i) := by
  intro clean
  obtain ⟨driver, _, le⟩ := (clean 0).driven (by decide +kernel)
  cases driver with
  | acr122U => exact absurd le (by decide +kernel)

end Spilled

end TagEventor
