import TagEventor.Reader.Sam
import TagEventor.Reader.Attempts
import TagEventor.Reader.Enumerated
import TagEventor.Reader.Runs

/-!
# The contactless status

`readerGetContactlessStatus` selects the readers by their index in the array it is passed, but
passes the array itself to their drivers, so that all requests go to the first reader of the array.
It returns the code of the last request, or what is left in a variable if there is none. Therefore
each reader is asked, and failures are reported, only under the conditions of `asks_each_iff`.
-/

namespace TagEventor
open Interact

/-- Ask for the state of the antenna. -/
def APDU_GET_STATUS : List BYTE := [0xd4, 0x04]

/-- `sizeof(pbRecvBuffer)` in `readerGetContactlessStatus`. -/
def STATUS_BUFFER_SIZE : Nat := 20

/-- `acr122UGetContactlessStatus`; returns what `apduSend` does. -/
def acr122UGetContactlessStatus (pRecvBuffer : Buffer) (pRecvLength : Nat) :
    CardProg (LONG × Buffer × Nat) :=
  apduSend APDU_GET_STATUS pRecvBuffer pRecvLength

/-- The entry point that asks for the status. -/
def tReaderDriver.getContactlessStatus :
    tReaderDriver → Buffer → Nat → CardProg (LONG × Buffer × Nat)
  | .acr122U => acr122UGetContactlessStatus

/-- A call of a driver's `getContactlessStatus`: the driver and the reader it is passed. -/
structure StatusCall where
  pDriver : tReaderDriver
  pReader : tReader
deriving DecidableEq

/-- A program that requests the status, and is told the code of each request. -/
abbrev StatusProg := Prog StatusCall LONG

/-- The reader is connected, has a driver and is wanted. -/
def addressed (automatic : Bool) (m : tReaderManager) (pReader : Nat → tReader) (i : Nat) :
    Option tReaderDriver :=
  if (pReader i).hCard ≠ none ∧ (automatic ∨ m.readersSettingBitmapNumberTest i ≠ 0#32) then
    (pReader i).pDriver
  else none

/-- The body of the loop of `readerGetContactlessStatus`. -/
def requestStatus (automatic : Bool) (m : tReaderManager) (pReader : Nat → tReader) (rv : LONG)
    (i : Nat) : StatusProg LONG :=
  match addressed automatic m pReader i with
  | some pDriver => .ask ⟨pDriver, pReader 0⟩ .ret
  | none => .ret rv

/-- `readerGetContactlessStatus` on an array of readers, which may be that of the manager. The
variable `rv` holds `uninitialised` before something is assigned to it. -/
def readerGetContactlessStatus (env : Env) (pReader : tReaderManager → Nat → tReader)
    (uninitialised : LONG) (w : World) : StatusProg LONG × World :=
  if w.readerManager.hContext = none then (.ret SCARD_E_INVALID_PARAMETER, w)
  else
    let automatic := w.readerManager.automatic
    match connectIfAutomatic env w with
    | (rv, w) =>
      if rv ≠ SCARD_S_SUCCESS then (.ret rv, w)
      else
        let m := w.readerManager
        ((List.range m.nbReaders).foldlM (requestStatus automatic m (pReader m))
          (if automatic then rv else uninitialised), w)

section
variable {automatic : Bool} {m : tReaderManager} {pReader : Nat → tReader} {outcomes : Nat → LONG}

/-- The request made in the round for a reader. -/
def request (automatic : Bool) (m : tReaderManager) (pReader : Nat → tReader) (i : Nat) :
    Option StatusCall :=
  (addressed automatic m pReader i).map fun pDriver => ⟨pDriver, pReader 0⟩

/-- The code of the last of `n` requests. -/
def lastCode (rv : LONG) (outcomes : Nat → LONG) : Nat → LONG
  | 0 => rv
  | n + 1 => outcomes n

/-- The requests are made in the order of the readers, and the last code is returned. -/
lemma requests_run {l : List Nat} {rv asked} :
    (l.foldlM (requestStatus automatic m pReader) (lastCode rv outcomes asked.length)).run
        (inOrder outcomes) asked =
      (lastCode rv outcomes (asked ++ l.filterMap (request automatic m pReader)).length,
        asked ++ l.filterMap (request automatic m pReader)) := by
  induction l generalizing asked with
  | nil =>
    rw [List.filterMap_nil, List.append_nil]
    rfl
  | cons i l ih =>
    rw [List.foldlM_cons, Prog.run_bind, requestStatus, List.filterMap_cons, request]
    cases addressed automatic m pReader i with
    | none => exact ih
    | some pDriver =>
      have next := @ih (asked ++ [⟨pDriver, pReader 0⟩])
      rw [List.length_append, List.append_assoc] at next
      exact next

/-- The readers that are connected, have a driver and are wanted. -/
def toAsk (m : tReaderManager) (pReader : Nat → tReader) : List Nat :=
  (List.range m.nbReaders).filter fun i =>
    (pReader i).hCard ≠ none ∧ (pReader i).pDriver ≠ none ∧ m.wanted i

/-- As many requests are made as there are readers to ask, but all to the first reader. -/
lemma requests_toAsk :
    ((List.range m.nbReaders).filterMap (request m.automatic m pReader)).map
        (fun call => (some call.pDriver, call.pReader)) =
      (toAsk m pReader).map fun i => ((pReader i).pDriver, pReader 0) := by
  unfold toAsk
  induction List.range m.nbReaders with
  | nil => rfl
  | cons i l ih =>
    have wanted : m.wanted i = true ↔
        (m.automatic = true ∨ m.readersSettingBitmapNumberTest i ≠ 0#32) := by
      simp [tReaderManager.wanted]
    rw [List.filterMap_cons, List.filter_cons, request, addressed]
    simp only [wanted, decide_eq_true_eq]
    by_cases connected : (pReader i).hCard ≠ none ∧
        (m.automatic = true ∨ m.readersSettingBitmapNumberTest i ≠ 0#32)
    · rw [if_pos connected]
      cases driver : (pReader i).pDriver with
      | none =>
        rw [if_neg fun h => h.2.1 rfl]
        exact ih
      | some pDriver =>
        rw [if_pos ⟨connected.1, Option.some_ne_none _, connected.2⟩, Option.map_some,
          List.map_cons, List.map_cons, ih, driver]
    · rw [if_neg connected, if_neg fun h => connected ⟨h.1, h.2.2⟩]
      exact ih

end

/-- Each reader that is connected, has a driver and is wanted is asked itself, in order, and no
other; the code tells if all were successful. -/
structure AsksEach (m : tReaderManager) (pReader : Nat → tReader) (outcomes : Nat → LONG)
    (result : LONG × List StatusCall) : Prop where
  drivers : result.2.map (fun call => some call.pDriver) =
    (toAsk m pReader).map fun i => (pReader i).pDriver
  handles : result.2.map (fun call => call.pReader.hCard) =
    (toAsk m pReader).map fun i => (pReader i).hCard
  success : result.1 = SCARD_S_SUCCESS ↔
    ∀ k < (toAsk m pReader).length, outcomes k = SCARD_S_SUCCESS

/-- All readers to ask share the handle of the first reader of the array, and the last code speaks
for all of them. -/
structure FirstSpeaks (m : tReaderManager) (pReader : Nat → tReader) (uninitialised : LONG)
    (outcomes : Nat → LONG) : Prop where
  shared : ∀ i ∈ toAsk m pReader, (pReader i).hCard = (pReader 0).hCard
  none : toAsk m pReader = [] → m.automatic = true ∨ uninitialised = SCARD_S_SUCCESS
  last : ∀ n, (toAsk m pReader).length = n + 1 → outcomes n = SCARD_S_SUCCESS →
    ∀ k < n, outcomes k = SCARD_S_SUCCESS

section
variable {env : Env} {pReader : tReaderManager → Nat → tReader} {uninitialised : LONG}
  {outcomes : Nat → LONG} {w w' : World}

/-- Past the connection phase all requests go to the first reader, and the last code is returned. -/
lemma status_run (context : w.readerManager.hContext ≠ none)
    (phase : connectIfAutomatic env w = (SCARD_S_SUCCESS, w')) :
    ∃ calls, (readerGetContactlessStatus env pReader uninitialised w).1.run (inOrder outcomes) [] =
        (lastCode (if w'.readerManager.automatic then SCARD_S_SUCCESS else uninitialised) outcomes
          calls.length, calls) ∧
      calls.map (fun call => (some call.pDriver, call.pReader)) =
        (toAsk w'.readerManager (pReader w'.readerManager)).map fun i =>
          ((pReader w'.readerManager i).pDriver, pReader w'.readerManager 0) := by
  have automatic : w'.readerManager.automatic = w.readerManager.automatic := by
    have kept := (@connectIfAutomatic_connects env w).readerSetting
    rw [phase] at kept
    exact automatic_congr kept
  refine ⟨_, ?_, requests_toAsk⟩
  unfold readerGetContactlessStatus
  rw [if_neg context, phase, automatic]
  exact @requests_run _ _ _ _ _ _ []

/-- The last code tells if all are successful exactly if it speaks for the others. -/
lemma lastCode_iff {rv n} :
    (lastCode rv outcomes n = SCARD_S_SUCCESS ↔ ∀ k < n, outcomes k = SCARD_S_SUCCESS) ↔
      (n = 0 → rv = SCARD_S_SUCCESS) ∧
        ∀ m, n = m + 1 → outcomes m = SCARD_S_SUCCESS → ∀ k < m, outcomes k = SCARD_S_SUCCESS := by
  cases n with
  | zero =>
    constructor
    · intro h
      exact ⟨fun _ => h.2 nofun, nofun⟩
    · intro h
      exact iff_of_true (h.1 rfl) nofun
  | succ n =>
    constructor
    · intro h
      refine ⟨nofun, fun m e last k low => ?_⟩
      cases e
      exact h.1 last k (Nat.lt_succ_of_lt low)
    · rintro ⟨_, speaks⟩
      constructor
      · intro last k low
        rcases Nat.lt_succ_iff_lt_or_eq.1 low with low | rfl
        · exact speaks n rfl last k low
        · exact last
      · intro all
        exact all n (Nat.lt_succ_self n)

/-- The variable holds the code for success if no request is made. -/
lemma automatic_code {automatic : Prop} [Decidable automatic] :
    (if automatic then SCARD_S_SUCCESS else uninitialised) = SCARD_S_SUCCESS ↔
      automatic ∨ uninitialised = SCARD_S_SUCCESS := by
  split
  next auto => exact iff_of_true rfl (.inl auto)
  next plain => exact (or_iff_right plain).symm

/-- Each reader is asked exactly if the first one can speak for all that are asked. -/
theorem asks_each_iff (context : w.readerManager.hContext ≠ none)
    (phase : connectIfAutomatic env w = (SCARD_S_SUCCESS, w')) :
    AsksEach w'.readerManager (pReader w'.readerManager) outcomes
        ((readerGetContactlessStatus env pReader uninitialised w).1.run (inOrder outcomes) []) ↔
      FirstSpeaks w'.readerManager (pReader w'.readerManager) uninitialised outcomes := by
  obtain ⟨calls, run, made⟩ := @status_run env pReader uninitialised outcomes w w' context phase
  rw [run]
  generalize w'.readerManager = m at made ⊢
  have number : calls.length = (toAsk m (pReader m)).length := by
    have e := congrArg List.length made
    rwa [List.length_map, List.length_map] at e
  have drivers : calls.map (fun call => some call.pDriver) =
      (toAsk m (pReader m)).map fun i => (pReader m i).pDriver := by
    have e := congrArg (List.map Prod.fst) made
    rwa [List.map_map, List.map_map] at e
  have handles : calls.map (fun call => call.pReader.hCard) =
      (toAsk m (pReader m)).map fun _ => (pReader m 0).hCard := by
    have e := congrArg (List.map fun target => target.2.hCard) made
    rwa [List.map_map, List.map_map] at e
  have shared : (toAsk m (pReader m)).map (fun _ => (pReader m 0).hCard) =
      (toAsk m (pReader m)).map (fun i => (pReader m i).hCard) ↔
        ∀ i ∈ toAsk m (pReader m), (pReader m i).hCard = (pReader m 0).hCard := by
    rw [List.map_inj_left]
    exact forall₂_congr fun _ _ => eq_comm
  constructor
  · rintro ⟨_, own, success⟩
    dsimp only at own success
    rw [number] at success
    obtain ⟨none, last⟩ := lastCode_iff.1 success
    refine ⟨shared.1 (handles.symm.trans own), fun empty => ?_, last⟩
    exact automatic_code.1 (none (List.length_eq_zero_iff.2 empty))
  · rintro ⟨same, none, last⟩
    refine ⟨drivers, handles.trans (shared.2 same), ?_⟩
    dsimp only
    rw [number]
    refine lastCode_iff.2 ⟨fun zero => ?_, last⟩
    exact automatic_code.2 (none (List.length_eq_zero_iff.1 zero))

end

/-- The reader 1 is not asked, and the reader 0 twice. -/
theorem second_reader_not_asked :
    let w := run twoListed READER_BIT_AUTO [.readersManagerConnect, .readersConnect]
    let w' := (connectIfAutomatic twoListed w).2
    let result := (readerGetContactlessStatus twoListed tReaderManager.readers 0 w).1.run
      (inOrder fun _ => SCARD_S_SUCCESS) []
    (connectIfAutomatic twoListed w).1 = SCARD_S_SUCCESS ∧
      toAsk w'.readerManager w'.readerManager.readers = [0, 1] ∧
      result.2.map (fun call => call.pReader) = [w'.reader 0, w'.reader 0] ∧
      ¬ AsksEach w'.readerManager w'.readerManager.readers (fun _ => SCARD_S_SUCCESS) result :=
  ⟨by decide, by decide, by decide, fun each => absurd each.handles (by decide)⟩

/-- Two readers are listed. -/
theorem asks_each_iff_twoListed :
    let w := run twoListed READER_BIT_AUTO [.readersManagerConnect, .readersConnect]
    let w' := (connectIfAutomatic twoListed w).2
    AsksEach w'.readerManager w'.readerManager.readers (fun _ => SCARD_S_SUCCESS)
        ((readerGetContactlessStatus twoListed tReaderManager.readers 0 w).1.run
          (inOrder fun _ => SCARD_S_SUCCESS) []) ↔
      FirstSpeaks w'.readerManager w'.readerManager.readers 0 (fun _ => SCARD_S_SUCCESS) :=
  asks_each_iff (by decide) (Prod.ext (by decide) rfl)

/-- How a driver answers: it talks to the card of the reader it is passed. -/
def answerStatus (env : Env) (call : StatusCall) (log : List Call) : LONG × List Call :=
  let slot := (call.pReader.hCard.map tCardHandle.slot).getD 0
  let r := (call.pDriver.getContactlessStatus (env.stack log slot) STATUS_BUFFER_SIZE).run
    (answerCard env slot call.pReader.hCard) log
  (r.1.1, r.2)

/-- The handle that a request for the status goes to. -/
def Call.statusHandle : Call → Option (Option tCardHandle)
  | .SCardTransmit _ hCard send _ _ =>
    if send = directTransmit APDU_GET_STATUS then some hCard else none
  | _ => none

/-- A transmission is logged with its handle. -/
lemma answerCard_transmit {env : Env} {slot hCard send capacity log} :
    ∃ rv recv, (answerCard env slot hCard (.transmit send capacity) log).2 =
      log ++ [.SCardTransmit slot hCard send rv recv] :=
  ⟨_, _, rfl⟩

/-- What is sent to fetch a reply is no request for the status. -/
lemma getResponse_ne {n} : getResponse n ≠ directTransmit APDU_GET_STATUS := by
  intro e
  injection e with _ e
  injection e with e
  cases e

/-- A driver sends one request for the status, to the reader it is passed. -/
lemma answerStatus_sends {env : Env} {call : StatusCall} {log} :
    ∃ l, (answerStatus env call log).2 = log ++ l ∧
      l.filterMap Call.statusHandle = [call.pReader.hCard] := by
  unfold answerStatus tReaderDriver.getContactlessStatus acr122UGetContactlessStatus
  dsimp only
  rw [apduSend_pseudo rfl]
  generalize (call.pReader.hCard.map tCardHandle.slot).getD 0 = slot
  obtain ⟨rv, recv, sent⟩ := @answerCard_transmit env slot call.pReader.hCard
    (directTransmit APDU_GET_STATUS) STATUS_BUFFER_SIZE log
  have own {rv recv} : [Call.SCardTransmit slot call.pReader.hCard
      (directTransmit APDU_GET_STATUS) rv recv].filterMap Call.statusHandle =
      [call.pReader.hCard] := rfl
  dsimp only
  split
  · exact ⟨_, sent, own⟩
  split
  · exact ⟨_, sent, own⟩
  split
  · obtain ⟨rv', recv', fetched⟩ := @answerCard_transmit env slot call.pReader.hCard
      (getResponse ((env.stack log slot).fill (answerCard env slot call.pReader.hCard
        (.transmit (directTransmit APDU_GET_STATUS) STATUS_BUFFER_SIZE) log).1.2 SW2))
      STATUS_BUFFER_SIZE (answerCard env slot call.pReader.hCard
        (.transmit (directTransmit APDU_GET_STATUS) STATUS_BUFFER_SIZE) log).2
    refine ⟨_, fetched.trans (by rw [sent, List.append_assoc]), ?_⟩
    rw [List.filterMap_append, own, List.filterMap_cons, Call.statusHandle, if_neg getResponse_ne]
    rfl
  · exact ⟨_, sent, own⟩

section
variable {env : Env} {pReader : tReaderManager → Nat → tReader} {uninitialised : LONG} {w : World}

/-- A program that requests the status sends to the readers it passes to the drivers. -/
lemma status_sends {p : StatusProg LONG} {log} :
    ∃ l, (p.run (answerStatus env) log).2 = log ++ l ∧
      l.filterMap Call.statusHandle =
        (p.transcript (answerStatus env) log).map fun e => e.1.pReader.hCard := by
  induction p generalizing log with
  | ret a => exact ⟨[], (List.append_nil _).symm, rfl⟩
  | ask call k ih =>
    obtain ⟨l, e, own⟩ := @answerStatus_sends env call log
    obtain ⟨l', e', rest⟩ := @ih (answerStatus env call log).1 (answerStatus env call log).2
    refine ⟨l ++ l', ?_, ?_⟩
    · show (Prog.run _ (k _) _).2 = _
      rw [e', e, List.append_assoc]
    · rw [List.filterMap_append, own, rest]
      rfl

/-- All requests of the loop are made with the first reader. -/
lemma loop_asks {automatic} {m : tReaderManager} {readers : Nat → tReader} {l : List Nat} {rv} :
    (l.foldlM (requestStatus automatic m readers) rv).Asks fun call =>
      call.pReader = readers 0 := by
  induction l generalizing rv with
  | nil => trivial
  | cons i l ih =>
    rw [List.foldlM_cons, requestStatus]
    cases addressed automatic m readers i with
    | none => exact ih
    | some pDriver => exact ⟨rfl, fun _ => ih⟩

/-- Whatever the cards answer, all requests for the status are sent to the first reader. -/
theorem status_sent_to_first {p : StatusProg LONG} {w' : World}
    (called : readerGetContactlessStatus env pReader uninitialised w = (p, w')) :
    ∃ l, (p.run (answerStatus env) w'.log).2 = w'.log ++ l ∧
      ∀ hCard ∈ l.filterMap Call.statusHandle, hCard = (pReader w'.readerManager 0).hCard := by
  have asks : p.Asks fun call => call.pReader = pReader w'.readerManager 0 := by
    unfold readerGetContactlessStatus at called
    split at called
    · cases called
      trivial
    · dsimp only at called
      split at called
      · cases called
        trivial
      · cases called
        exact loop_asks
  obtain ⟨l, sent, handles⟩ := @status_sends env p w'.log
  refine ⟨l, sent, ?_⟩
  intro hCard mem
  rw [handles] at mem
  obtain ⟨e, asked, rfl⟩ := List.mem_map.1 mem
  exact congrArg tReader.hCard (asks.transcript _ _ e asked)

end

end TagEventor
