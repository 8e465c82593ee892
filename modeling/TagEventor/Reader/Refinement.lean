import TagEventor.Reader.Conn

/-!
# The library refines the connection machine

`World.conn` forgets everything of a world but the connections. Every function of the library moves
the connections by a sequence of legal steps of `Conn.next` (`Follows`) and leaves the rest of the
program alone (`Manages`); the functions of the connection phase moreover keep the tag lists and
read no tag (`Connects`). All invariants of reachable states are proved on the machine and carried
over by these theorems.
-/

namespace TagEventor
open Interact Machine Loop

/-- The connections of a world. -/
def World.conn (w : World) : Conn where
  log := w.log
  nbReaders := w.readerManager.nbReaders
  slots := fun i => (w.reader i).slot
  mszReaders := w.readerManager.mszReaders
  mszHeap := w.mszHeap

/-- The machine gets from `s` to `s'` by legal steps. -/
def Follows (s s' : Conn) : Prop :=
  ∃ l, s' = l.foldl Conn.next s ∧ Meets Conn.next Conn.Legal s l

/-- No step at all. -/
@[refl] lemma Follows.refl {s} : Follows s s := ⟨[], rfl, trivial⟩

/-- Some steps after others. -/
lemma Follows.trans {s t u} (h : Follows s t) (h' : Follows t u) : Follows s u := by
  obtain ⟨l, rfl, hl⟩ := h
  obtain ⟨l', rfl, hl'⟩ := h'
  exact ⟨l ++ l', by rw [List.foldl_append], meets_append.2 ⟨hl, hl'⟩⟩

/-- A single step. -/
lemma Follows.step {s s' c} (h : s.Legal c) (e : s' = s.next c) : Follows s s' :=
  ⟨[c], e, h, trivial⟩

/-- What every function of the library leaves alone, beside moving the connections legally. -/
structure Manages (w w' : World) : Prop where
  conn : Follows w.conn w'.conn
  previousTagList : w'.previousTagList = w.previousTagList
  dataHeap : w'.dataHeap = w.dataHeap
  readerSetting : w'.readerManager.readerSetting = w.readerManager.readerSetting
  events : ∃ l, w'.events = w.events ++ l ∧ ∀ e ∈ l, e.uid = none

/-- Nothing has happened. -/
lemma Manages.refl {w} : Manages w w := ⟨.refl, rfl, rfl, rfl, [], by simp, by simp⟩

/-- One function after the other. -/
lemma Manages.trans {w w' w''} (h : Manages w w') (h' : Manages w' w'') : Manages w w'' where
  conn := h.conn.trans h'.conn
  previousTagList := h'.previousTagList.trans h.previousTagList
  dataHeap := h'.dataHeap.trans h.dataHeap
  readerSetting := h'.readerSetting.trans h.readerSetting
  events := by
    obtain ⟨l, e, hl⟩ := h.events
    obtain ⟨l', e', hl'⟩ := h'.events
    refine ⟨l ++ l', by rw [e', e, List.append_assoc], fun x hx => ?_⟩
    rcases List.mem_append.1 hx with hx | hx
    · exact hl x hx
    · exact hl' x hx

/-- The log only grows. -/
lemma Manages.log {w w'} (h : Manages w w') : ∃ l, w'.log = w.log ++ l := by
  obtain ⟨l, e, _⟩ := h.conn
  exact ⟨l, (congrArg Conn.log e).trans Conn.foldl_next_log⟩

/-- The tags that drivers delivered with success, in the order in which they were asked. -/
def answered (log : List Call) : List tTag :=
  log.flatMap fun
    | .getTagList _ rv tags => if rv = SCARD_S_SUCCESS then tags else []
    | _ => []

/-- The tags of some calls are those of their parts. -/
@[simp] lemma answered_append {l l' : List Call} : answered (l ++ l') = answered l ++ answered l' :=
  List.flatMap_append

/-- A driver's poll that succeeds. -/
def Call.answers : Call → Bool
  | .getTagList _ rv _ => rv = SCARD_S_SUCCESS
  | _ => false

/-- The polls of readers that succeeded. -/
def polled (log : List Call) : List Call := log.filter Call.answers

/-- The polls among some calls are those of their parts. -/
@[simp] lemma polled_append {l l' : List Call} : polled (l ++ l') = polled l ++ polled l' :=
  List.filter_append ..

/-- All tags are delivered by polls that succeed. -/
lemma answered_polled {l : List Call} : answered (polled l) = answered l := by
  induction l with
  | nil => rfl
  | cons c l ih =>
    have hc : answered (polled [c]) = answered [c] := by
      cases c with
      | getTagList i rv tags => by_cases h : rv = SCARD_S_SUCCESS <;> simp [polled, answered,
          Call.answers, h]
      | _ => rfl
    rw [← List.singleton_append, polled_append, answered_append, answered_append, ih, hc]

/-- What the functions that do not read the tags leave alone. -/
structure Prepares (w w' : World) : Prop extends Manages w w' where
  tagList : w'.readerManager.tagList = w.readerManager.tagList
  tagHeap : w'.tagHeap = w.tagHeap
  readerTagLists : ∀ i,
    (w'.reader i).tagList = (w.reader i).tagList ∨ (w'.reader i).tagList = .empty
  polled : polled w'.log = polled w.log

/-- No tag is read. -/
lemma Prepares.answered {w w'} (h : Prepares w w') : answered w'.log = answered w.log := by
  rw [← answered_polled, h.polled, answered_polled]

/-- Nothing has happened. -/
lemma Prepares.refl {w} : Prepares w w :=
  { Manages.refl with
    tagList := rfl, tagHeap := rfl, readerTagLists := fun _ => .inl rfl, polled := rfl }

/-- One function after the other. -/
lemma Prepares.trans {w w' w''} (h : Prepares w w') (h' : Prepares w' w'') : Prepares w w'' where
  toManages := h.toManages.trans h'.toManages
  tagList := h'.tagList.trans h.tagList
  tagHeap := h'.tagHeap.trans h.tagHeap
  readerTagLists := fun i => by
    rcases h'.readerTagLists i with e | e
    · rw [e]; exact h.readerTagLists i
    · exact .inr e
  polled := h'.polled.trans h.polled

/-- What the functions of the connection phase leave alone: they keep the context, too. -/
structure Connects (w w' : World) : Prop extends Prepares w w' where
  hContext : w'.readerManager.hContext = w.readerManager.hContext

/-- Nothing has happened. -/
lemma Connects.refl {w} : Connects w w := { Prepares.refl with hContext := rfl }

/-- One function after the other. -/
lemma Connects.trans {w w' w''} (h : Connects w w') (h' : Connects w' w'') : Connects w w'' where
  toPrepares := h.toPrepares.trans h'.toPrepares
  hContext := h'.hContext.trans h.hContext

/-- What the rounds of the loops of the connection phase leave alone. -/
structure Rounds (w w' : World) : Prop extends Connects w w' where
  nbReaders : w'.readerManager.nbReaders = w.readerManager.nbReaders
  mszReaders : w'.readerManager.mszReaders = w.readerManager.mszReaders

/-- Nothing has happened. -/
lemma Rounds.refl {w} : Rounds w w := { Connects.refl with nbReaders := rfl, mszReaders := rfl }

/-- One round after the other. -/
lemma Rounds.trans {w w' w''} (h : Rounds w w') (h' : Rounds w' w'') : Rounds w w'' where
  toConnects := h.toConnects.trans h'.toConnects
  nbReaders := h'.nbReaders.trans h.nbReaders
  mszReaders := h'.mszReaders.trans h.mszReaders

/-- To log a call is to log it in the machine. -/
@[simp] lemma conn_record {w : World} {c} : (w.record c).conn = w.conn.record c := rfl

/-- A change of a reader changes its slot of the machine. -/
@[simp] lemma conn_setReader {w : World} {i r} :
    (w.setReader i r).conn = w.conn.setSlot i r.slot := by
  have h : (fun j => ((w.setReader i r).reader j).slot) =
      Function.update w.conn.slots i r.slot := by
    funext j
    by_cases hj : j = i
    · subst hj; simp [World.setReader, World.reader]
    · simp [World.setReader, World.reader, World.conn, hj]
  simp only [World.conn, Conn.setSlot]
  rw [h]
  rfl

/-- The reader is the one that was stored. -/
@[simp] lemma reader_setReader {w : World} {i r} : (w.setReader i r).reader i = r := by
  simp [World.setReader, World.reader]

/-- The other readers are as they were. -/
lemma reader_setReader_ne {w : World} {i j r} (h : j ≠ i) :
    (w.setReader i r).reader j = w.reader j := by
  simp [World.setReader, World.reader, h]

/-- Logging changes no reader. -/
@[simp] lemma reader_record {w : World} {c i} : (w.record c).reader i = w.reader i := rfl

/-- An event changes no reader. -/
@[simp] lemma reader_eventDispatch {w : World} {e n i} :
    (w.eventDispatch e n).reader i = w.reader i := rfl

/-- An empty reader has an empty slot. -/
@[simp] lemma slot_reset : tReader.reset.slot = .reset := rfl

/-- Only the reader that is stored last remains. -/
@[simp] lemma setReader_setReader {w : World} {i r r'} :
    (w.setReader i r).setReader i r' = w.setReader i r' := by
  simp [World.setReader]

/-- An event of a reader leaves everything else alone. -/
lemma rounds_eventDispatch {w : World} {e n} : Rounds w (w.eventDispatch e n) :=
  { Rounds.refl (w := w) with
    events := ⟨[⟨e, none, n⟩], rfl, by simp⟩ }

/-- A legal call that changes one slot. -/
lemma rounds_setReader {w : World} {c : Call} {i r} (legal : w.conn.Legal c)
    (conn : (w.conn.record c).setSlot i r.slot = w.conn.next c)
    (tagList : r.tagList = (w.reader i).tagList ∨ r.tagList = .empty)
    (reads : polled [c] = []) : Rounds w ((w.record c).setReader i r) where
  conn := .step legal (by simpa using conn)
  previousTagList := rfl
  dataHeap := rfl
  readerSetting := rfl
  events := ⟨[], by simp [World.setReader, World.record], by simp⟩
  hContext := rfl
  tagList := rfl
  tagHeap := rfl
  readerTagLists := fun j => by
    by_cases hj : j = i
    · subst hj; simpa using tagList
    · rw [reader_setReader_ne hj]; exact .inl rfl
  polled := by
    show polled (w.log ++ [c]) = _
    rw [polled_append, reads, List.append_nil]
  nbReaders := rfl
  mszReaders := rfl

/-- A call to the card of a slot. -/
def OnCard (i : Nat) : Call → Prop
  | .SCardStatus j _ _ _ => j = i
  | .SCardTransmit j _ _ _ _ => j = i
  | _ => False

/-- A driver routine only talks to the card it is run on. -/
lemma onCard_log {α} {env : Env} {i} {p : CardProg α} {w : World} :
    ∃ l, (w.onCard env i p).2.log = w.log ++ l ∧ ∀ c ∈ l, OnCard i c := by
  apply Prog.run_path (R := fun log log' => ∃ l, log' = log ++ l ∧ ∀ c ∈ l, OnCard i c)
  · exact fun log => ⟨[], by simp, by simp⟩
  · rintro _ _ _ ⟨l, rfl, hl⟩ ⟨l', rfl, hl'⟩
    refine ⟨l ++ l', by simp, fun c hc => ?_⟩
    rcases List.mem_append.1 hc with hc | hc
    · exact hl c hc
    · exact hl' c hc
  · intro q log
    cases q with
    | transmit send capacity => exact ⟨_, rfl, by simp [OnCard]⟩
    | status => exact ⟨_, rfl, by simp [OnCard]⟩

/-- The machine only logs the calls to a card. -/
lemma follows_onCard {s : Conn} {i l} (hl : ∀ c ∈ l, OnCard i c) :
    Follows s { s with log := s.log ++ l } := by
  induction l generalizing s with
  | nil => simp; rfl
  | cons c l ih =>
    have hc := hl c List.mem_cons_self
    have h : Follows s (s.record c) := by
      cases c with
      | SCardStatus => exact .step (c := .SCardStatus ..) trivial rfl
      | SCardTransmit => exact .step (c := .SCardTransmit ..) trivial rfl
      | _ => cases hc
    have ih := @ih (s.record c) fun d hd => hl d (List.mem_cons_of_mem _ hd)
    simp only [Conn.record, List.append_assoc, List.singleton_append] at ih
    exact h.trans ih

/-- Exchanges with a card are no polls. -/
lemma polled_onCard {i l} (hl : ∀ c ∈ l, OnCard i c) : polled l = [] := by
  refine List.filter_eq_nil_iff.2 fun c hc => ?_
  have := hl c hc
  cases c <;> first | exact Bool.false_ne_true | cases this

/-- Running a driver routine is a round. -/
lemma rounds_onCard {α} {env : Env} {i} {p : CardProg α} {w : World} :
    Rounds w (w.onCard env i p).2 := by
  obtain ⟨l, e, hl⟩ := @onCard_log _ env i p w
  have conn : (w.onCard env i p).2.conn = { w.conn with log := w.conn.log ++ l } := by
    simp only [World.conn, e]
    rfl
  exact
    { conn := conn ▸ follows_onCard hl
      previousTagList := rfl
      dataHeap := rfl
      readerSetting := rfl
      events := ⟨[], by simp [World.onCard], by simp⟩
      hContext := rfl
      tagList := rfl
      tagHeap := rfl
      readerTagLists := fun _ => .inl rfl
      polled := by rw [e, polled_append, polled_onCard hl, List.append_nil]
      nbReaders := rfl
      mszReaders := rfl }

/-- What a driver's check keeps of the reader it is called for: all but the SAM data. -/
structure Checked (r r' : tReader) : Prop where
  slot : r'.slot = r.slot
  driverDescriptor : r'.driverDescriptor = r.driverDescriptor
  tagList : r'.tagList = r.tagList

/-- Nothing was written. -/
lemma Checked.refl {r} : Checked r r := ⟨rfl, rfl, rfl⟩

/-- The reader check writes nothing of its slot but the SAM data. -/
lemma acr122UReaderCheck_ensures {r : tReader} {name stack} :
    (acr122UReaderCheck r name stack).Ensures fun x => Checked r x.2.2 := by
  unfold acr122UReaderCheck
  split
  · exact .refl
  refine Prog.ensures_true.bind fun ⟨rv, buf, len⟩ _ => ?_
  dsimp only
  split
  · exact .refl
  split
  · exact .refl
  refine Prog.ensures_true.bind fun ⟨_, atr⟩ _ => Prog.ensures_true.bind fun ⟨rv, buf, len⟩ _ => ?_
  dsimp only
  split
  · exact .refl
  split
  · refine Prog.ensures_true.bind fun ⟨rv, buf, len⟩ _ => ?_
    dsimp only
    split
    · exact .refl
    refine Prog.ensures_true.bind fun ⟨rv, buf, len⟩ _ => ?_
    dsimp only
    split
    · exact ⟨rfl, rfl, rfl⟩
    exact Prog.ensures_true.bind fun _ _ => ⟨rfl, rfl, rfl⟩
  · exact Prog.ensures_true.bind fun _ _ => .refl

/-- A driver's check is a round, the log of its answer, and an update of the SAM data. -/
lemma readerCheck_spec {env : Env} {d i} {w : World} :
    ∃ w' r, Rounds w w' ∧ (∀ j, w'.reader j = w.reader j) ∧ w'.events = w.events ∧
      (∃ l, w'.log = w.log ++ l ∧ ∀ c ∈ l, OnCard i c) ∧ Checked (w.reader i) r ∧
      (w.readerCheck env d i).2 = (w'.record (.readerCheck i (w.readerCheck env d i).1.1
        (w.readerCheck env d i).1.2)).setReader i r := by
  cases d with
  | acr122U =>
    simp only [World.readerCheck, tReaderDriver.readerCheck]
    generalize hn : (w.nameText env i).getD [] = name
    have he := (@acr122UReaderCheck_ensures (w.reader i) name
      (env.stack w.log i)).run (answerCard env i (w.reader i).hCard) w.log
    exact ⟨_, _, rounds_onCard, fun _ => rfl, rfl, onCard_log, he, rfl⟩

/-- What a live name pointer reads as is the name it designates. -/
lemma designates_cstr {env : Env} {w : World} {p} (h : w.conn.Live p) :
    w.conn.Designates p (w.cstr env p) := by
  obtain ⟨msz, hm, hp⟩ := h
  refine ⟨msz, hm, hp, ?_⟩
  have hm : w.readerManager.mszReaders = some msz := hm
  simp [World.cstr, hm, hp]

/-- The two outcomes of `SCardConnect`. -/
lemma SCardConnect_cases {env : Env} {i} {w : World} :
    (∃ rv, rv ≠ SCARD_S_SUCCESS ∧
      SCardConnect env i w = (rv, w.record (.SCardConnect i (w.nameText env i) rv none))) ∨
    ∃ h, w.nameText env i = some h.reader ∧
      (i < w.readerManager.nbReaders → (w.reader i).hCard = none →
        w.conn.Legal (.SCardConnect i (some h.reader) SCARD_S_SUCCESS (some h))) ∧
      SCardConnect env i w = (SCARD_S_SUCCESS,
        (w.record (.SCardConnect i (some h.reader) SCARD_S_SUCCESS (some h))).setReader i
          { w.reader i with hCard := some h }) := by
  unfold SCardConnect
  match hn : w.nameText env i with
  | none => exact .inl ⟨SCARD_E_UNKNOWN_READER, by decide, rfl⟩
  | some name =>
    dsimp only
    split
    next hrv =>
      obtain ⟨p, hp, rfl⟩ : ∃ p, (w.reader i).name = some p ∧ w.cstr env p = name := by
        simpa [World.nameText] using hn
      refine .inr ⟨⟨i, connects w.log i, w.cstr env p⟩, rfl, fun hi hc => ?_, by rw [hrv]⟩
      exact ⟨hi, hc, rfl, rfl, rfl, rfl, p, hp, designates_cstr⟩
    next hrv => exact .inl ⟨_, hrv, rfl⟩

/-- There is one driver to be tried. -/
lemma checkDrivers_table {env : Env} {i rv} {w : World} :
    checkDrivers env i readerDriverTable rv w =
      (((w.readerCheck env .acr122U i).1.1,
        if (w.readerCheck env .acr122U i).1.2 then some .acr122U else none),
        (w.readerCheck env .acr122U i).2) := by
  rcases h : w.readerCheck env .acr122U i with ⟨⟨rv', supported⟩, w'⟩
  cases supported <;> simp [readerDriverTable, checkDrivers, h]

/-- A round of the loop of `readersConnect` up to the answer of the driver: a handle was returned
for slot `i`, and the check has left the reader `r` to be written to the slot. -/
structure Checks (env : Env) (i : Nat) (w w' : World) (r : tReader) : Prop where
  free : (w.reader i).hCard = none
  rounds : i < w.readerManager.nbReaders → Rounds w w'
  nbReaders : w'.readerManager.nbReaders = w.readerManager.nbReaders
  mszReaders : w'.readerManager.mszReaders = w.readerManager.mszReaders
  readerSetting : w'.readerManager.readerSetting = w.readerManager.readerSetting
  others : ∀ j, j ≠ i → w'.reader j = w.reader j
  log : ∃ h l, w.nameText env i = some h.reader ∧ (∀ c ∈ l, OnCard i c) ∧
    w'.log = w.log ++ .SCardConnect i (some h.reader) SCARD_S_SUCCESS (some h) :: l
  events : w'.events = w.events ++ [⟨.READER_DETECTED, none, i⟩]
  reader : ∃ h, w'.reader i = { w.reader i with hCard := some h }
  checked : Checked (w'.reader i) r

/-- The card is still held after the check. -/
lemma Checks.hCard {env i w w' r} (h : Checks env i w w' r) : (w'.reader i).hCard ≠ none := by
  obtain ⟨hCard, e⟩ := h.reader
  rw [e]
  nofun

/-- The outcomes of a round of the loop of `readersConnect`. -/
inductive ConnectOutcome (env : Env) (i : Nat) (w : World) : Option LONG × World → Prop where
  | skipped (unwanted : ¬ ((w.reader i).hCard = none ∧ w.readerManager.wanted i = true)) :
    ConnectOutcome env i w (none, w)
  | unconnected {rv} (free : (w.reader i).hCard = none) (error : rv ≠ SCARD_S_SUCCESS) :
    ConnectOutcome env i w
      (none, (w.record (.SCardConnect i (w.nameText env i) rv none)).setReader i .reset)
  | failed {w' r rv supported} (checks : Checks env i w w' r) (error : rv ≠ SCARD_S_SUCCESS) :
    ConnectOutcome env i w
      (some rv, (w'.record (.readerCheck i rv supported)).setReader i .reset)
  | unsupported {w' r} (checks : Checks env i w w' r) :
    ConnectOutcome env i w (some SCARD_E_UNKNOWN_READER,
      (w'.record (.readerCheck i SCARD_S_SUCCESS false)).setReader i { r with pDriver := none })
  | accepted {w' r} (checks : Checks env i w w' r) :
    ConnectOutcome env i w (none,
      ((w'.record (.readerCheck i SCARD_S_SUCCESS true)).setReader i
        { r with
          pDriver := some .acr122U
          driverDescriptor := some tReaderDriver.acr122U.driverDescriptor }).eventDispatch
            .READER_DETECTED i)

/-- Every round has one of the outcomes. -/
theorem connectReader_outcome {env : Env} {i} {w : World} :
    ConnectOutcome env i w (connectReader env i w) := by
  unfold connectReader
  split
  swap
  next unwanted => exact .skipped unwanted
  next wanted =>
  obtain ⟨rv, error, e⟩ | ⟨h, hn, legal, e⟩ := @SCardConnect_cases env i w
  · rw [e]
    simp only [if_neg error]
    exact .unconnected wanted.1 error
  -- the handle is stored, then the driver is asked
  rw [e]
  simp only [if_true, checkDrivers_table]
  generalize hw : World.eventDispatch _ tEventType.READER_DETECTED i = w2
  obtain ⟨w3, r, h3, hr3, hev, ⟨l, hlog, hl⟩, checked, e3⟩ := @readerCheck_spec env .acr122U i w2
  have checks : Checks env i w w3 r :=
    { free := wanted.1
      rounds := fun hi => by
        have h2 := (rounds_setReader (r := { w.reader i with hCard := some h }) (legal hi wanted.1)
          rfl (.inl rfl) rfl).trans (rounds_eventDispatch (e := .READER_DETECTED) (n := i))
        rw [hw] at h2
        exact h2.trans h3
      nbReaders := h3.nbReaders.trans (hw ▸ rfl)
      mszReaders := h3.mszReaders.trans (hw ▸ rfl)
      readerSetting := h3.readerSetting.trans (hw ▸ rfl)
      others := fun j hj => by
        rw [hr3, ← hw]
        exact reader_setReader_ne hj
      log := ⟨h, l, hn, hl, by
        rw [hlog, ← hw]
        exact List.append_assoc ..⟩
      events := by
        rw [hev, ← hw]
        rfl
      reader := ⟨h, by
        rw [hr3, ← hw]
        exact reader_setReader⟩
      checked := by
        rw [hr3]
        exact checked }
  generalize (w2.readerCheck env .acr122U i).1.1 = rv at e3 ⊢
  generalize (w2.readerCheck env .acr122U i).1.2 = supported at e3 ⊢
  rw [e3]
  by_cases hrv : rv = SCARD_S_SUCCESS
  · subst hrv
    cases supported with
    | false => simpa using ConnectOutcome.unsupported checks
    | true => simpa using ConnectOutcome.accepted checks
  · simp only [if_pos (show rv ≠ SCARD_S_SUCCESS from hrv), World.RESET_READER,
      setReader_setReader]
    exact .failed checks hrv

/-- The answer of a check, after which a slot is written. -/
lemma Checks.record {env : Env} {i} {w w' : World} {r rv supported r'} (h : Checks env i w w' r)
    (hi : i < w.readerManager.nbReaders)
    (conn : (w'.conn.record (.readerCheck i rv supported)).setSlot i r'.slot =
      w'.conn.next (.readerCheck i rv supported))
    (tagList : r'.tagList = r.tagList ∨ r'.tagList = .empty) :
    Rounds w ((w'.record (.readerCheck i rv supported)).setReader i r') := by
  refine (h.rounds hi).trans (rounds_setReader ⟨?_, h.hCard⟩ conn ?_ rfl)
  · show i < w'.readerManager.nbReaders
    rw [h.nbReaders]
    exact hi
  · rw [← h.checked.tagList]
    exact tagList

/-- A round of the loop of `readersConnect`. -/
lemma connectReader_rounds {env : Env} {i} {w : World} (hi : i < w.readerManager.nbReaders) :
    Rounds w (connectReader env i w).2 := by
  have outcome := @connectReader_outcome env i w
  generalize connectReader env i w = x at outcome ⊢
  cases outcome with
  | skipped => exact .refl
  | unconnected free => exact rounds_setReader ⟨hi, free⟩ rfl (.inr rfl) rfl
  | failed checks error => exact checks.record hi (by simp [Conn.next, error]) (.inr rfl)
  | @unsupported w' r checks =>
    have slot : w'.conn.slots i = r.slot := checks.checked.slot.symm
    exact checks.record hi (by simp [Conn.next, tReader.slot, slot]) (.inl rfl)
  | @accepted w' r checks =>
    have slot : w'.conn.slots i = r.slot := checks.checked.slot.symm
    refine Rounds.trans ?_ rounds_eventDispatch
    exact checks.record hi (by simp [Conn.next, tReader.slot, slot]) (.inl rfl)

/-- A loop of resets empties exactly these slots. -/
lemma foldl_RESET_READER {is : List Nat} {w : World} :
    is.foldl World.RESET_READER w =
      { w with readerManager := { w.readerManager with
          readers := fun j => if j ∈ is then .reset else w.readerManager.readers j } } := by
  induction is generalizing w with
  | nil => simp
  | cons i is ih =>
    rw [List.foldl_cons, ih]
    simp only [World.RESET_READER, World.setReader]
    congr 2
    funext j
    by_cases hj : j = i
    · subst hj; simp
    · simp [hj]

/-- The effect of taking over a list of names on the manager. -/
lemma extractReaders_resetLost {w : World} {msz names} (h : w.readerManager.mszReaders = some msz) :
    (w.extractReaders names).resetLost w.readerManager.nbReaders =
      { w with readerManager := { w.readerManager with
          nbReaders := names.length
          mszReaders := some { msz with chars := multiString names }
          readers := fun j =>
            if j < names.length then
              { w.readerManager.readers j with name := some ⟨msz.block, nameOffset names j⟩ }
            else if j < w.readerManager.nbReaders then .reset
            else w.readerManager.readers j } } := by
  have hx := @extractNames_multiString { msz with chars := multiString names } names rfl
    (multiString names).length (Nat.le_of_lt length_lt_multiString)
    { w.readerManager with
      mszReaders := some { msz with chars := multiString names }, nbReaders := 0 }
  simp only [World.resetLost, World.extractReaders, h, hx, foldl_RESET_READER,
    tReaderManager.named, Nat.zero_add, Nat.sub_zero, Nat.zero_le, true_and]
  congr 2
  funext j
  by_cases hj : j < names.length
  · rw [if_pos hj, if_pos hj, if_neg (by simp [List.mem_range'_1]; omega)]
  · by_cases hl : j < w.readerManager.nbReaders
    · rw [if_pos (by simp [List.mem_range'_1]; omega), if_neg hj, if_pos hl]
    · rw [if_neg hj, if_neg hl, if_neg (by simp [List.mem_range'_1]; omega), if_neg hj]

/-- A logged call that does to the machine what its step does. -/
lemma rounds_record {w : World} {c : Call} (legal : w.conn.Legal c)
    (conn : w.conn.record c = w.conn.next c) (reads : polled [c] = []) :
    Rounds w (w.record c) where
  conn := .step legal conn
  previousTagList := rfl
  dataHeap := rfl
  readerSetting := rfl
  events := ⟨[], by simp [World.record], by simp⟩
  hContext := rfl
  tagList := rfl
  tagHeap := rfl
  readerTagLists := fun _ => .inl rfl
  polled := by
    show polled (w.log ++ [c]) = _
    rw [polled_append, reads, List.append_nil]
  nbReaders := rfl
  mszReaders := rfl

/-- No readers are listed. -/
lemma noReaders_connects {w : World} {names} :
    Connects w
      (w.record (.SCardListReaders none SCARD_E_NO_READERS_AVAILABLE names)).noReaders where
  conn := .step (c := .SCardListReaders none SCARD_E_NO_READERS_AVAILABLE names) trivial rfl
  previousTagList := rfl
  dataHeap := rfl
  readerSetting := rfl
  events := ⟨[], by simp [World.noReaders, World.record, World.freeMszReaders], by simp⟩
  hContext := rfl
  tagList := rfl
  tagHeap := rfl
  readerTagLists := fun _ => .inl rfl
  polled := by
    show polled (w.log ++ _) = _
    rw [polled_append]
    exact List.append_nil _

/-- A new buffer is allocated, and the second listing fails. -/
lemma renewed_connects {w : World} {size rv names} (hrv : rv ≠ SCARD_S_SUCCESS) :
    Connects w ((w.freeMszReaders.mallocMszReaders).record
      (.SCardListReaders (some size) rv names)) where
  conn := .step (c := .SCardListReaders (some size) rv names) trivial (by
    simp only [Conn.next, if_neg hrv]
    rfl)
  previousTagList := rfl
  dataHeap := rfl
  readerSetting := rfl
  events := ⟨[], by simp [World.record, World.freeMszReaders, World.mallocMszReaders], by simp⟩
  hContext := rfl
  tagList := rfl
  tagHeap := rfl
  readerTagLists := fun _ => .inl rfl
  polled := by
    show polled (w.log ++ _) = _
    rw [polled_append]
    exact List.append_nil _

/-- Taking over the list that was read into the new buffer. -/
def World.relisted (w : World) (size : Nat) (names : List ReaderName) : World :=
  (((w.freeMszReaders.mallocMszReaders).record
    (.SCardListReaders (some size) SCARD_S_SUCCESS names)).extractReaders names).resetLost
      w.readerManager.nbReaders

/-- The names are rewritten and the lost readers reset. -/
lemma relisted_eq {w : World} {size names} :
    w.relisted size names =
      let w' := w.freeMszReaders.mallocMszReaders.record
        (.SCardListReaders (some size) SCARD_S_SUCCESS names)
      { w' with readerManager := { w'.readerManager with
          nbReaders := names.length
          mszReaders := some ⟨w.freeMszReaders.mszHeap.length, multiString names⟩
          readers := fun j =>
            if j < names.length then
              { w.reader j with name := some ⟨w.freeMszReaders.mszHeap.length, nameOffset names j⟩ }
            else if j < w.readerManager.nbReaders then .reset
            else w.reader j } } :=
  @extractReaders_resetLost ((w.freeMszReaders.mallocMszReaders).record
    (.SCardListReaders (some size) SCARD_S_SUCCESS names)) _ names rfl

/-- The machine makes the same of a list that is read with success. -/
lemma relisted_conn {w : World} {size names} : (w.relisted size names).conn =
    w.conn.next (.SCardListReaders (some size) SCARD_S_SUCCESS names) := by
  rw [relisted_eq]
  simp only [Conn.next, if_true]
  simp only [World.conn, Conn.relist, Conn.renewMszReaders, Conn.freeMszReaders, Conn.record,
    World.record, World.mallocMszReaders, World.freeMszReaders, World.reader]
  congr 1
  funext j
  by_cases hj : j < names.length
  · simp only [if_pos hj]; rfl
  · simp only [if_neg hj]
    by_cases hl : j < w.readerManager.nbReaders
    · simp only [if_pos hl]; exact (if_pos hl).symm
    · simp only [if_neg hl]; exact (if_neg hl).symm

/-- A new list replaces the old one. -/
lemma relisted_connects {w : World} {size names} : Connects w (w.relisted size names) := by
  have conn := @relisted_conn w size names
  rw [relisted_eq] at conn ⊢
  refine
    { conn := .step (c := .SCardListReaders (some size) SCARD_S_SUCCESS names) trivial conn
      previousTagList := rfl
      dataHeap := rfl
      readerSetting := rfl
      events := ⟨[], by simp [World.record, World.freeMszReaders, World.mallocMszReaders], by simp⟩
      hContext := rfl
      tagList := rfl
      tagHeap := rfl
      readerTagLists := fun j => ?_
      polled := ?_ }
  · simp only [World.reader]
    split_ifs
    · exact .inl rfl
    · exact .inr rfl
    · exact .inl rfl
  · show polled (w.log ++ _) = _
    rw [polled_append]
    exact List.append_nil _

/-- The call that opens an enumeration: it asks for the size of the list. -/
def firstCall (env : Env) (w : World) : Call :=
  .SCardListReaders none (env.SCardListReaders w.log).1 (env.SCardListReaders w.log).2

/-- The names pcscd lists in an enumeration, when it is asked for them. -/
def namesListed (env : Env) (w : World) : LONG × List ReaderName :=
  env.SCardListReaders (w.log ++ [firstCall env w])

/-- The outcomes of `readersEnumerate`. -/
inductive EnumerateOutcome (env : Env) (w : World) : LONG × World → Prop where
  | failed {rv names} (error : rv ≠ SCARD_S_SUCCESS) (some : rv ≠ SCARD_E_NO_READERS_AVAILABLE) :
    EnumerateOutcome env w (rv, w.record (.SCardListReaders none rv names))
  | noReaders {names} : EnumerateOutcome env w (SCARD_E_NO_READERS_AVAILABLE,
      (w.record (.SCardListReaders none SCARD_E_NO_READERS_AVAILABLE names)).noReaders)
  | renewed {names size rv names'} (error : rv ≠ SCARD_S_SUCCESS) :
    EnumerateOutcome env w (rv,
      ((w.record (.SCardListReaders none SCARD_S_SUCCESS names)).freeMszReaders.mallocMszReaders
        ).record (.SCardListReaders (some size) rv names'))
  | relisted {names size} (success : (namesListed env w).1 = SCARD_S_SUCCESS) :
    EnumerateOutcome env w (SCARD_S_SUCCESS,
      (w.record (.SCardListReaders none SCARD_S_SUCCESS names)).relisted size (namesListed env w).2)

/-- The call for the size of the list. -/
lemma SCardListReaders_none {env : Env} {w : World} :
    SCardListReaders env none w = (env.SCardListReaders w.log, w.record (firstCall env w)) := by
  simp [SCardListReaders, firstCall]

/-- The list fits into a buffer only if it is read with success. -/
lemma SCardListReaders_some {env : Env} {w : World} {size} :
    ∃ rv, (rv = SCARD_S_SUCCESS → (env.SCardListReaders w.log).1 = SCARD_S_SUCCESS) ∧
      SCardListReaders env (some size) w = ((rv, (env.SCardListReaders w.log).2),
        w.record (.SCardListReaders (some size) rv (env.SCardListReaders w.log).2)) := by
  refine ⟨_, ?_, rfl⟩
  split
  · exact fun h => absurd h (by decide)
  · exact id

/-- Every enumeration has one of the outcomes. -/
theorem readersEnumerate_outcome {env : Env} {w : World} :
    EnumerateOutcome env w (readersEnumerate env w) := by
  have hfirst : firstCall env w = .SCardListReaders none (env.SCardListReaders w.log).1
    (env.SCardListReaders w.log).2 := rfl
  unfold readersEnumerate
  rw [SCardListReaders_none]
  generalize env.SCardListReaders w.log = x at hfirst ⊢
  obtain ⟨rv1, names1⟩ := x
  dsimp only at hfirst ⊢
  by_cases hrv1 : rv1 = SCARD_S_SUCCESS
  swap
  · rw [if_pos hrv1, hfirst]
    by_cases hnone : rv1 = SCARD_E_NO_READERS_AVAILABLE
    · subst hnone
      exact .noReaders
    · rw [if_neg hnone]
      exact .failed hrv1 hnone
  subst hrv1
  rw [if_neg (by simp)]
  obtain ⟨rv2, hs, e2⟩ := @SCardListReaders_some env
    ((w.record (firstCall env w)).freeMszReaders.mallocMszReaders) (multiString names1).length
  rw [e2]
  dsimp only
  by_cases hrv2 : rv2 = SCARD_S_SUCCESS
  · subst hrv2
    rw [if_neg (by simp)]
    have success : (namesListed env w).1 = SCARD_S_SUCCESS := hs rfl
    have outcome := @EnumerateOutcome.relisted env w names1 (multiString names1).length success
    rw [← hfirst] at outcome
    exact outcome
  · rw [if_pos hrv2, hfirst]
    exact .renewed hrv2

/-- `readersEnumerate` only renews the names and resets lost readers. -/
lemma readersEnumerate_connects {env : Env} {w : World} :
    Connects w (readersEnumerate env w).2 := by
  -- asking for the size changes nothing
  have asked {rv names} (h : rv ≠ SCARD_E_NO_READERS_AVAILABLE) :
      Connects w (w.record (.SCardListReaders none rv names)) :=
    (rounds_record (c := .SCardListReaders none rv names) trivial (by simp [Conn.next, h])
      rfl).toConnects
  have outcome := @readersEnumerate_outcome env w
  generalize readersEnumerate env w = x at outcome ⊢
  cases outcome with
  | failed error some => exact asked some
  | noReaders => exact noReaders_connects
  | renewed error => exact (asked (by decide)).trans (renewed_connects error)
  | relisted => exact (asked (by decide)).trans relisted_connects

/-- The listing, where it is made, is one of the connection phase. -/
lemma enumerateIfAutomatic_connects {env : Env} {w : World} :
    Connects w (enumerateIfAutomatic env w).2 := by
  unfold enumerateIfAutomatic
  split
  · exact readersEnumerate_connects
  · exact .refl

/-- The loop over the readers makes rounds of the connection phase. -/
lemma connectLoop_rounds {env : Env} {w : World} :
    Rounds w (scan (connectReader env) (List.range w.readerManager.nbReaders) w).2 := by
  let R (s t : World) : Prop :=
    s.readerManager.nbReaders = w.readerManager.nbReaders →
      Rounds s t ∧ t.readerManager.nbReaders = w.readerManager.nbReaders
  have h : R w (scan (connectReader env) (List.range w.readerManager.nbReaders) w).2 := by
    refine scan_path (R := R) (fun s hs => ⟨.refl, hs⟩) (fun h h' hs => ?_) (fun i hi s hs => ?_) w
    · obtain ⟨h1, e1⟩ := h hs
      obtain ⟨h2, e2⟩ := h' e1
      exact ⟨h1.trans h2, e2⟩
    · have hr := @connectReader_rounds env i s
        (by rw [hs]; exact List.mem_range.1 hi)
      exact ⟨hr, hr.nbReaders.trans hs⟩
  exact (h rfl).1

/-- What `readersConnect` does after the enumeration, which gave the code `rv` and the world `w`. -/
inductive ConnectsOutcome (env : Env) (rv : LONG) (w : World) : LONG × World → Prop where
  | failed :
    rv ≠ SCARD_S_SUCCESS →
    ConnectsOutcome env rv w (rv, w)
  | noReaders :
    rv = SCARD_S_SUCCESS →
    w.readerManager.nbReaders = 0 →
    ConnectsOutcome env rv w (SCARD_E_NO_READERS_AVAILABLE, w)
  | looped {ret w'} :
    rv = SCARD_S_SUCCESS →
    w.readerManager.nbReaders ≠ 0 →
    scan (connectReader env) (List.range w.readerManager.nbReaders) w = (ret, w') →
    ConnectsOutcome env rv w (ret.getD SCARD_S_SUCCESS, w')

/-- The connection phase ends in one of these ways. -/
lemma readersConnect_outcome {env : Env} {w : World} :
    ConnectsOutcome env (enumerateIfAutomatic env w).1 (enumerateIfAutomatic env w).2
      (readersConnect env w) := by
  unfold readersConnect
  generalize enumerateIfAutomatic env w = x
  obtain ⟨rv, w1⟩ := x
  dsimp only
  split
  next error => exact .failed error
  next success =>
  have success := not_not.1 success
  split
  next zero => exact .noReaders success zero
  next some =>
  rcases loop : scan (connectReader env) (List.range w1.readerManager.nbReaders) w1 with ⟨ret, w2⟩
  cases ret with
  | none => exact .looped success some loop
  | some rv => exact .looped success some loop

/-- `readersConnect` refines the machine and reads no tags. -/
theorem readersConnect_connects {env : Env} {w : World} : Connects w (readersConnect env w).2 := by
  have enumerated := @enumerateIfAutomatic_connects env w
  have outcome := @readersConnect_outcome env w
  generalize readersConnect env w = x at outcome ⊢
  cases outcome with
  | failed => exact enumerated
  | noReaders => exact enumerated
  | looped _ _ loop =>
    have rounds := @connectLoop_rounds env (enumerateIfAutomatic env w).2
    rw [loop] at rounds
    exact enumerated.trans rounds.toConnects

/-- To disconnect a listed reader is a round. -/
lemma disconnectReader_rounds {env : Env} {i} {w : World} (hi : i < w.readerManager.nbReaders) :
    Rounds w (disconnectReader env w i) := by
  unfold disconnectReader
  split
  next hc =>
    exact (rounds_setReader (c := .SCardDisconnect i (w.reader i).hCard _) ⟨hi, rfl, hc⟩ rfl
      (.inr rfl) rfl).trans rounds_eventDispatch
  · exact .refl

/-- The loop that disconnects makes rounds. -/
lemma disconnectLoop_rounds {env : Env} {w : World} :
    Rounds w ((List.range w.readerManager.nbReaders).foldl (disconnectReader env) w) := by
  let R (s t : World) : Prop :=
    s.readerManager.nbReaders = w.readerManager.nbReaders →
      Rounds s t ∧ t.readerManager.nbReaders = w.readerManager.nbReaders
  have h : R w ((List.range w.readerManager.nbReaders).foldl (disconnectReader env) w) := by
    refine foldl_path (R := R) (fun s hs => ⟨.refl, hs⟩) (fun h h' hs => ?_)
      (fun i hi s hs => ?_) w
    · obtain ⟨h1, e1⟩ := h hs
      obtain ⟨h2, e2⟩ := h' e1
      exact ⟨h1.trans h2, e2⟩
    · have hr := @disconnectReader_rounds env i s
        (by rw [hs]; exact List.mem_range.1 hi)
      exact ⟨hr, hr.nbReaders.trans hs⟩
  exact (h rfl).1

/-- With a context `readersDisconnect` stops after the enumeration, or goes through the readers. -/
lemma readersDisconnect_cases {env : Env} {w : World} (context : w.readerManager.hContext ≠ none) :
    ((enumerateIfAutomatic env w).1 ≠ SCARD_S_SUCCESS ∧
      readersDisconnect env w = (enumerateIfAutomatic env w).2) ∨
    (enumerateIfAutomatic env w).1 = SCARD_S_SUCCESS ∧ readersDisconnect env w =
      (List.range (enumerateIfAutomatic env w).2.readerManager.nbReaders).foldl
        (disconnectReader env) (enumerateIfAutomatic env w).2 := by
  unfold readersDisconnect
  rw [if_neg context]
  generalize enumerateIfAutomatic env w = x
  obtain ⟨rv, w1⟩ := x
  dsimp only
  split
  next error => exact .inl ⟨error, rfl⟩
  next success => exact .inr ⟨not_not.1 success, rfl⟩

/-- `readersDisconnect` refines the machine. -/
theorem readersDisconnect_connects {env : Env} {w : World} :
    Connects w (readersDisconnect env w) := by
  by_cases context : w.readerManager.hContext = none
  · rw [readersDisconnect, if_pos context]
    exact .refl
  have enumerated := @enumerateIfAutomatic_connects env w
  rcases @readersDisconnect_cases env w context with ⟨_, e⟩ | ⟨_, e⟩
  · rw [e]
    exact enumerated
  · rw [e]
    exact enumerated.trans disconnectLoop_rounds.toConnects

/-- The calls of `readersConnect` start with those of its enumeration. -/
lemma readersConnect_log {env : Env} {w : World} :
    ∃ l, (readersConnect env w).2.log = (enumerateIfAutomatic env w).2.log ++ l := by
  have outcome := @readersConnect_outcome env w
  generalize readersConnect env w = x at outcome ⊢
  cases outcome with
  | failed => exact ⟨[], (List.append_nil _).symm⟩
  | noReaders => exact ⟨[], (List.append_nil _).symm⟩
  | looped _ _ loop =>
    have rounds := @connectLoop_rounds env (enumerateIfAutomatic env w).2
    rw [loop] at rounds
    exact rounds.toManages.log

/-- The calls of `readersDisconnect` start with those of its enumeration. -/
lemma readersDisconnect_log {env : Env} {w : World} (context : w.readerManager.hContext ≠ none) :
    ∃ l, (readersDisconnect env w).log = (enumerateIfAutomatic env w).2.log ++ l := by
  rcases @readersDisconnect_cases env w context with ⟨_, e⟩ | ⟨_, e⟩
  · exact ⟨[], by rw [e, List.append_nil]⟩
  · rw [e]
    exact disconnectLoop_rounds.toManages.log

/-- Another context changes nothing else. -/
lemma prepares_setContext {w : World} {ctx} :
    Prepares w { w with readerManager := { w.readerManager with hContext := ctx } } :=
  { Prepares.refl (w := w) with conn := .refl }

/-- `readersManagerConnect` refines the machine and reads no tags. -/
theorem readersManagerConnect_prepares {env : Env} {w : World} :
    Prepares w (readersManagerConnect env w).2 := by
  have h : Prepares w (w.record (.SCardEstablishContext (env.SCardEstablishContext w.log).1)) :=
    (rounds_record (c := .SCardEstablishContext _) trivial rfl rfl).toPrepares
  have h (ctx) := h.trans (@prepares_setContext _ ctx)
  unfold readersManagerConnect
  dsimp only
  split
  · exact (h none).trans rounds_eventDispatch.toPrepares
  · exact ((h _).trans rounds_eventDispatch.toPrepares).trans readersEnumerate_connects.toPrepares

/-- `readersManagerDisconnect` refines the machine. -/
theorem readersManagerDisconnect_manages {env : Env} {w : World} :
    Manages w (readersManagerDisconnect env w).2 := by
  unfold readersManagerDisconnect
  split
  · exact rounds_eventDispatch.toManages
  next ctx _ =>
    let w1 : World :=
      (w.record (.SCardReleaseContext (env.SCardReleaseContext w.log))).freeMszReaders
    have h : Manages w { w1 with readerManager :=
        { w1.readerManager with mszReaders := none, hContext := none } } :=
      { conn := .step (c := .SCardReleaseContext _) trivial rfl
        previousTagList := rfl
        dataHeap := rfl
        readerSetting := rfl
        events := ⟨[], by simp [w1, World.record, World.freeMszReaders], by simp⟩ }
    exact h.trans rounds_eventDispatch.toManages

end TagEventor
