import TagEventor.Reader.Supported
import TagEventor.Reader.Polled

/-!
# What the check of a reader writes

`acr122UReaderCheck` receives its replies in one buffer. One variable is the room for a reply and
then its length; it is set to the size of the buffer again before every request but the last one,
whose room is the length of the reply before it. `CheckOutcome` lists the ways a check can go by the
answers it gets. The texts for the SAM always include the status word that ends a reply
(`samGenuine_iff`), and neither they nor the terminator of the firmware string are kept in bounds
(`checkInBounds_iff`).
-/

namespace TagEventor
open Interact

/-- What a check has asked a card, and the answers. -/
abbrev Transcript := List (CardRequest × LONG × List BYTE)

section
variable {σ : Type} {answer : CardRequest → σ → (LONG × List BYTE) × σ} {apdu : List BYTE}
  {buf : Buffer} {capacity : Nat} {s : σ}

/-- A plain command is one request. -/
lemma transcript_plain (plain : apdu.head? ≠ some 0xd4) :
    (apduSend apdu buf capacity).transcript answer s =
      [(.transmit apdu capacity, (answer (.transmit apdu capacity) s).1)] := by
  simp only [apduSend, plain, decide_false, Bool.false_eq_true, if_false, List.nil_append,
    and_false]
  rfl

/-- What is transmitted for a pseudo APDU, and the room for the answers. -/
def Transmits (apdu : List BYTE) (capacity : Nat) (q : CardRequest) : Prop :=
  q = .transmit (directTransmit apdu) capacity ∨ ∃ n, q = .transmit (getResponse n) capacity

/-- A command for the tags is sent behind its header, and a reply may be fetched. -/
lemma apduSend_asks (pseudo : apdu.head? = some 0xd4) :
    (apduSend apdu buf capacity).Asks (Transmits apdu capacity) := by
  simp only [apduSend, pseudo, decide_true, if_true, and_true]
  refine ⟨.inl rfl, fun received => ?_⟩
  obtain ⟨rv, recv⟩ := received
  show Prog.Asks _ (if _ then _ else _)
  split
  · dsimp only
    split
    · trivial
    split
    · exact ⟨.inr ⟨_, rfl⟩, fun _ => trivial⟩
    · trivial
  · trivial

/-- A pseudo APDU is transmitted first. -/
lemma transcript_pseudo (pseudo : apdu.head? = some 0xd4) :
    ∃ a, (.transmit (directTransmit apdu) capacity, a) ∈
      (apduSend apdu buf capacity).transcript answer s := by
  simp only [apduSend, pseudo, decide_true, if_true, and_true]
  exact ⟨_, List.mem_cons_self⟩

/-- The reader takes a pseudo APDU, and this is the reply to it. -/
inductive Replies (answer : CardRequest → σ → (LONG × List BYTE) × σ) (apdu : List BYTE)
    (buf : Buffer) (capacity : Nat) (s : σ) : List BYTE → Prop where
  /-- there is nothing to fetch -/
  | empty {recv s1} :
    answer (.transmit (directTransmit apdu) capacity) s = ((SCARD_S_SUCCESS, recv), s1) →
    buf.fill recv SW1 = SW1_SUCCESS →
    buf.fill recv SW2 = 0 →
    Replies answer apdu buf capacity s []
  | fetched {recv s1 recv' s2} :
    answer (.transmit (directTransmit apdu) capacity) s = ((SCARD_S_SUCCESS, recv), s1) →
    buf.fill recv SW1 = SW1_SUCCESS →
    buf.fill recv SW2 ≠ 0 →
    answer (.transmit (getResponse (buf.fill recv SW2)) capacity) s1 =
      ((SCARD_S_SUCCESS, recv'), s2) →
    Replies answer apdu buf capacity s recv'

/-- What is replied is in the buffer. -/
lemma Replies.run {reply : List BYTE} (pseudo : apdu.head? = some 0xd4)
    (h : Replies answer apdu buf capacity s reply) :
    ((apduSend apdu buf capacity).run answer s).1.1 = SCARD_S_SUCCESS ∧
      ((apduSend apdu buf capacity).run answer s).1.2.2 = reply.length := by
  cases h with
  | empty h sw1 sw2 =>
    rw [apduSend_empty pseudo h sw1 sw2]
    exact ⟨rfl, rfl⟩
  | fetched h sw1 sw2 h' =>
    rw [apduSend_fetched pseudo h sw1 sw2 h']
    exact ⟨rfl, rfl⟩

/-- A command that succeeds was replied to. -/
lemma Replies.of_run (pseudo : apdu.head? = some 0xd4)
    (ok : ((apduSend apdu buf capacity).run answer s).1.1 = SCARD_S_SUCCESS) :
    ∃ reply, Replies answer apdu buf capacity s reply := by
  rcases h : answer (.transmit (directTransmit apdu) capacity) s with ⟨⟨rv, recv⟩, s1⟩
  by_cases sent : rv = SCARD_S_SUCCESS
  · subst sent
    by_cases sw1 : buf.fill recv SW1 = SW1_SUCCESS
    · by_cases sw2 : buf.fill recv SW2 = 0
      · exact ⟨_, .empty h sw1 sw2⟩
      · rcases h' : answer (.transmit (getResponse (buf.fill recv SW2)) capacity) s1 with
          ⟨⟨rv, recv'⟩, s2⟩
        rw [apduSend_fetched pseudo h sw1 sw2 h'] at ok
        cases ok
        exact ⟨_, .fetched h sw1 sw2 h'⟩
    · rw [apduSend_refused pseudo h sw1] at ok
      cases ok
  · rw [apduSend_error pseudo h sent] at ok
    exact absurd ok sent

end

/-- The text for a reply; its length is passed as a `char`. -/
def replyText (reply : List BYTE) : CString :=
  if reply.length % 256 < 128 then hexText (reply.take (reply.length % 256)) else []

/-- The text of a reply. -/
lemma sPrintBufferHex_fill {buf : Buffer} {reply : List BYTE} :
    sPrintBufferHex (UInt8.ofNat reply.length) (buf.fill reply) 0 = replyText reply := by
  apply sPrintBufferHex_signed
  intro i hi
  simp [Buffer.fill, hi]

/-- A reply that fits into the receive buffer is printed as a whole. -/
lemma replyText_short {reply : List BYTE} (short : reply.length < 128) :
    replyText reply = hexText reply := by
  have e : reply.length % 256 = reply.length := Nat.mod_eq_of_lt (Nat.lt_trans short (by decide))
  rw [replyText, e, if_pos short, List.take_length]

/-- Two digits for each byte. -/
lemma hexText_length {bytes : List BYTE} : (hexText bytes).length = 2 * bytes.length := by
  induction bytes with
  | nil => rfl
  | cons b bytes ih =>
    rw [hexText, List.flatMap_cons, List.length_append, ← hexText, ih]
    show 2 + _ = 2 * (_ + 1)
    omega

/-- The driver takes such an ATR for that of a reader without a SAM. -/
def NoSam (atr : List BYTE) : Prop := atr.getD SW1 0 = 0x3B ∧ atr.getD SW2 0 = 0x00

instance (atr : List BYTE) : Decidable (NoSam atr) := inferInstanceAs (Decidable (_ ∧ _))

section
variable {σ : Type} (answer : CardRequest → σ → (LONG × List BYTE) × σ)

/-- The answer to the request for the firmware. -/
def firmwareAnswer (s : σ) : (LONG × List BYTE) × σ :=
  answer (.transmit APDU_GET_READER_FIRMWARE MAX_FIRMWARE_STRING_LENGTH) s

/-- The answer to the request for the ATR. -/
def statusAnswer (s : σ) : (LONG × List BYTE) × σ := answer .status (firmwareAnswer answer s).2

/-- The receive buffer with the firmware string. -/
def firmwareBuffer (stack : Buffer) (s : σ) : Buffer :=
  let reply := (firmwareAnswer answer s).1.2
  Function.update (stack.fill reply) reply.length 0

/-- The exchange that sets how often a command is tried. -/
def retryExchange (stack : Buffer) (s : σ) : (LONG × Buffer × Nat) × σ :=
  (apduSend APDU_SET_RETRY (firmwareBuffer answer stack s) MAX_FIRMWARE_STRING_LENGTH).run answer
    (statusAnswer answer s).2

/-- The answer to the request for the serial number. -/
def serialAnswer (stack : Buffer) (s : σ) : (LONG × List BYTE) × σ :=
  answer (.transmit APDU_GET_SAM_SERIAL MAX_FIRMWARE_STRING_LENGTH) (retryExchange answer stack s).2

/-- The answer to the request for the ID. -/
def idAnswer (stack : Buffer) (s : σ) : (LONG × List BYTE) × σ :=
  answer (.transmit APDU_GET_SAM_ID MAX_FIRMWARE_STRING_LENGTH) (serialAnswer answer stack s).2

/-- The request for the firmware in a transcript. -/
def firmwareEntry (s : σ) : CardRequest × LONG × List BYTE :=
  (.transmit APDU_GET_READER_FIRMWARE MAX_FIRMWARE_STRING_LENGTH, (firmwareAnswer answer s).1)

/-- The transcript of a check up to the exchange for `APDU_SET_RETRY`. -/
def checkOpening (stack : Buffer) (s : σ) : Transcript :=
  firmwareEntry answer s :: (.status, (statusAnswer answer s).1) ::
  (apduSend APDU_SET_RETRY (firmwareBuffer answer stack s) MAX_FIRMWARE_STRING_LENGTH).transcript
    answer (statusAnswer answer s).2

/-- The request for the serial number in a transcript. -/
def serialEntry (stack : Buffer) (s : σ) : CardRequest × LONG × List BYTE :=
  (.transmit APDU_GET_SAM_SERIAL MAX_FIRMWARE_STRING_LENGTH, (serialAnswer answer stack s).1)

/-- The request for the ID in a transcript. -/
def idEntry (stack : Buffer) (s : σ) : CardRequest × LONG × List BYTE :=
  (.transmit APDU_GET_SAM_ID MAX_FIRMWARE_STRING_LENGTH, (idAnswer answer stack s).1)

/-- The reader is asked for more than its firmware. -/
structure Accepted (name : CString) (s : σ) : Prop where
  named : Begins name (compared SUPPORTED_READER_NAME_ARRAY)
  answered : (firmwareAnswer answer s).1.1 = SCARD_S_SUCCESS
  supported : Begins (firmwareText (firmwareAnswer answer s).1.2) SUPPORTED_READER_FIRMWARE_ARRAY

/-- The reader takes the APDU for the retries, and its ATR is not read as that of a reader without a
SAM. -/
structure SamAsked (name : CString) (stack : Buffer) (s : σ) : Prop where
  accepted : Accepted answer name s
  retried : (retryExchange answer stack s).1.1 = SCARD_S_SUCCESS
  present : ¬ NoSam (statusAnswer answer s).1.2

/-- The way a check goes by the answers: its result and its transcript. -/
inductive CheckOutcome (name : CString) (stack : Buffer) (pReader : tReader) (s : σ) :
    LONG × Bool × tReader → Transcript → Prop where
  | unnamed :
    ¬ Begins name (compared SUPPORTED_READER_NAME_ARRAY) →
    CheckOutcome name stack pReader s (SCARD_S_SUCCESS, false, pReader) []
  | firmwareFailed :
    Begins name (compared SUPPORTED_READER_NAME_ARRAY) →
    (firmwareAnswer answer s).1.1 ≠ SCARD_S_SUCCESS →
    CheckOutcome name stack pReader s ((firmwareAnswer answer s).1.1, false, pReader)
      [firmwareEntry answer s]
  | unsupported :
    Begins name (compared SUPPORTED_READER_NAME_ARRAY) →
    (firmwareAnswer answer s).1.1 = SCARD_S_SUCCESS →
    ¬ Begins (firmwareText (firmwareAnswer answer s).1.2) SUPPORTED_READER_FIRMWARE_ARRAY →
    CheckOutcome name stack pReader s (SCARD_S_SUCCESS, false, pReader)
      [firmwareEntry answer s]
  | retryFailed :
    Accepted answer name s →
    (retryExchange answer stack s).1.1 ≠ SCARD_S_SUCCESS →
    CheckOutcome name stack pReader s ((retryExchange answer stack s).1.1, true, pReader)
      (checkOpening answer stack s)
  | noSam {buf s'} :
    Accepted answer name s →
    (retryExchange answer stack s).1.1 = SCARD_S_SUCCESS →
    NoSam (statusAnswer answer s).1.2 →
    CheckOutcome name stack pReader s (SCARD_S_SUCCESS, true, pReader)
      (checkOpening answer stack s ++
        (apduSend APDU_RATS_14443_4_OFF buf (retryExchange answer stack s).1.2.2).transcript
          answer s')
  | serialFailed :
    SamAsked answer name stack s →
    (serialAnswer answer stack s).1.1 ≠ SCARD_S_SUCCESS →
    CheckOutcome name stack pReader s ((serialAnswer answer stack s).1.1, true, pReader)
      (checkOpening answer stack s ++ [serialEntry answer stack s])
  | idFailed :
    SamAsked answer name stack s →
    (serialAnswer answer stack s).1.1 = SCARD_S_SUCCESS →
    (idAnswer answer stack s).1.1 ≠ SCARD_S_SUCCESS →
    CheckOutcome name stack pReader s ((idAnswer answer stack s).1.1, true,
        { pReader with SAM_serial := replyText (serialAnswer answer stack s).1.2 })
      (checkOpening answer stack s ++ [serialEntry answer stack s] ++ [idEntry answer stack s])
  | sam {buf s'} :
    SamAsked answer name stack s →
    (serialAnswer answer stack s).1.1 = SCARD_S_SUCCESS →
    (idAnswer answer stack s).1.1 = SCARD_S_SUCCESS →
    CheckOutcome name stack pReader s (SCARD_S_SUCCESS, true,
        { pReader with
          SAM := true
          SAM_serial := replyText (serialAnswer answer stack s).1.2
          SAM_id := replyText (idAnswer answer stack s).1.2 })
      (checkOpening answer stack s ++ [serialEntry answer stack s] ++ [idEntry answer stack s] ++
        (apduSend APDU_RATS_14443_4_OFF buf (idAnswer answer stack s).1.2.length).transcript
          answer s')

end

section
variable {σ : Type} {answer : CardRequest → σ → (LONG × List BYTE) × σ} {pReader : tReader}
  {name : CString} {stack : Buffer} {s : σ}

/-- A plain command, and what follows it. -/
lemma yields_plain {α : Type} {P : α → Transcript → Prop} {before apdu buf capacity}
    {f : LONG × Buffer × Nat → CardProg α} (plain : apdu.head? ≠ some 0xd4) :
    Prog.Yields answer P before (apduSend apdu buf capacity >>= f) s ↔
      let r := answer (.transmit apdu capacity) s
      Prog.Yields answer P (before ++ [(.transmit apdu capacity, r.1)])
        (f (r.1.1, buf.fill r.1.2, r.1.2.length)) r.2 := by
  rw [Prog.yields_bind, apduSend_plain plain, transcript_plain plain]

/-- A check goes in one of these ways. -/
lemma readerCheck_outcome :
    Prog.Yields answer (CheckOutcome answer name stack pReader s) []
      (acr122UReaderCheck pReader name stack) s := by
  unfold acr122UReaderCheck
  refine .ite (fun other => ?_) fun named => ?_
  · exact Prog.yields_ret.2 (.unnamed (mt any_supportedName.2 other))
  have named := any_supportedName.1 (not_not.1 named)
  rw [yields_plain (by decide)]
  refine .ite (fun failed => ?_) fun answered => ?_
  · exact Prog.yields_ret.2 (.firmwareFailed named failed)
  have answered := not_not.1 answered
  refine .ite (fun other => ?_) fun supported => ?_
  · exact Prog.yields_ret.2 (.unsupported named answered (mt any_supportedFirmware.2 other))
  have accepted : Accepted answer name s :=
    ⟨named, answered, any_supportedFirmware.1 (not_not.1 supported)⟩
  rw [Prog.yields_bind]
  dsimp only
  rw [Prog.yields_bind]
  refine .ite (fun failed => ?_) fun retried => ?_
  · exact Prog.yields_ret.2 (.retryFailed accepted failed)
  have retried := not_not.1 retried
  refine .ite (fun other => ?_) fun none => ?_
  · have asked : SamAsked answer name stack s := ⟨accepted, retried, not_and_or.2 other⟩
    rw [yields_plain (by decide)]
    refine .ite (fun failed => ?_) fun serial => ?_
    · exact Prog.yields_ret.2 (.serialFailed asked failed)
    rw [yields_plain (by decide)]
    have serial := not_not.1 serial
    dsimp only
    rw [sPrintBufferHex_fill, sPrintBufferHex_fill]
    refine .ite (fun failed => ?_) fun id => ?_
    · exact Prog.yields_ret.2 (.idFailed asked serial failed)
    rw [Prog.yields_bind]
    exact Prog.yields_ret.2 (.sam asked serial (not_not.1 id))
  · rw [Prog.yields_bind]
    have none : NoSam (statusAnswer answer s).1.2 :=
      ⟨not_not.1 (not_or.1 none).1, not_not.1 (not_or.1 none).2⟩
    exact Prog.yields_ret.2 (.noSam accepted retried none)

/-- A retry is reported as a success exactly if the reader takes the APDU. -/
lemma retried_iff :
    (retryExchange answer stack s).1.1 = SCARD_S_SUCCESS ↔
      ∃ reply, Replies answer APDU_SET_RETRY (firmwareBuffer answer stack s)
        MAX_FIRMWARE_STRING_LENGTH (statusAnswer answer s).2 reply := by
  constructor
  · exact Replies.of_run rfl
  · rintro ⟨reply, h⟩
    exact (h.run rfl).1

/-- What is neither a direct transmission nor the fetching of a reply. -/
def Plain (send : List BYTE) : Prop :=
  send.take 4 ≠ APDU_DIRECT_TRANSMIT ∧ send.take 4 ≠ APDU_GET_RESPONSE

instance (send : List BYTE) : Decidable (Plain send) := inferInstanceAs (Decidable (_ ∧ _))

/-- A command for the tags is no plain request. -/
lemma not_mem_pseudo {apdu send : List BYTE} {buf capacity c a} (pseudo : apdu.head? = some 0xd4)
    (plain : Plain send) :
    (.transmit send c, a) ∉ (apduSend apdu buf capacity).transcript answer s := by
  intro mem
  rcases (apduSend_asks pseudo).transcript answer s _ mem with h | ⟨n, h⟩
  · cases h
    exact plain.1 rfl
  · cases h
    exact plain.2 rfl

/-- The only plain request of the beginning is the one for the firmware. -/
lemma opening_plain {send : List BYTE} {c a} (plain : Plain send)
    (mem : (.transmit send c, a) ∈ checkOpening answer stack s) :
    (.transmit send c, a) = firmwareEntry answer s := by
  cases mem with
  | head => rfl
  | tail _ mem =>
    cases mem with
    | tail _ mem => exact absurd mem (not_mem_pseudo rfl plain)

/-- The plain requests up to the one for the serial number. -/
lemma serial_plain {send : List BYTE} {c a} (plain : Plain send)
    (mem : (.transmit send c, a) ∈ checkOpening answer stack s ++ [serialEntry answer stack s]) :
    (.transmit send c, a) = firmwareEntry answer s ∨
      (.transmit send c, a) = serialEntry answer stack s := by
  rcases List.mem_append.1 mem with mem | mem
  · exact .inl (opening_plain plain mem)
  · exact .inr (List.mem_singleton.1 mem)

/-- What a check transmits as it is, and why it came to do so. -/
inductive PlainEntry (answer : CardRequest → σ → (LONG × List BYTE) × σ) (name : CString)
    (stack : Buffer) (s : σ) (r : tReader) : CardRequest × LONG × List BYTE → Prop where
  | firmware :
    Begins name (compared SUPPORTED_READER_NAME_ARRAY) →
    PlainEntry answer name stack s r (firmwareEntry answer s)
  | serial :
    SamAsked answer name stack s →
    ((serialAnswer answer stack s).1.1 = SCARD_S_SUCCESS →
      r.SAM_serial = replyText (serialAnswer answer stack s).1.2) →
    PlainEntry answer name stack s r (serialEntry answer stack s)
  | id :
    SamAsked answer name stack s →
    (serialAnswer answer stack s).1.1 = SCARD_S_SUCCESS →
    PlainEntry answer name stack s r (idEntry answer stack s)

/-- All plain requests of a check. -/
lemma outcome_plain {r t} (h : CheckOutcome answer name stack pReader s r t) {send : List BYTE}
    {c a} (plain : Plain send) (mem : (.transmit send c, a) ∈ t) :
    PlainEntry answer name stack s r.2.2 (.transmit send c, a) := by
  cases h with
  | unnamed =>
    cases mem
  | firmwareFailed named _ | unsupported named _ _ =>
    rw [List.mem_singleton.1 mem]
    exact .firmware named
  | retryFailed accepted _ =>
    rw [opening_plain plain mem]
    exact .firmware accepted.named
  | noSam accepted _ _ =>
    rcases List.mem_append.1 mem with mem | mem
    · rw [opening_plain plain mem]
      exact .firmware accepted.named
    · exact absurd mem (not_mem_pseudo rfl plain)
  | serialFailed asked failed =>
    rcases serial_plain plain mem with e | e
    · rw [e]
      exact .firmware asked.accepted.named
    · rw [e]
      exact .serial asked fun ok => absurd ok failed
  | idFailed asked serial _ =>
    rcases List.mem_append.1 mem with mem | mem
    · rcases serial_plain plain mem with e | e
      · rw [e]
        exact .firmware asked.accepted.named
      · rw [e]
        exact .serial asked fun _ => rfl
    · rw [List.mem_singleton.1 mem]
      exact .id asked serial
  | sam asked serial _ =>
    rcases List.mem_append.1 mem with mem | mem
    · rcases List.mem_append.1 mem with mem | mem
      · rcases serial_plain plain mem with e | e
        · rw [e]
          exact .firmware asked.accepted.named
        · rw [e]
          exact .serial asked fun _ => rfl
      · rw [List.mem_singleton.1 mem]
        exact .id asked serial
    · exact absurd mem (not_mem_pseudo rfl plain)

section
variable {r : tReader} {c : Nat} {a : LONG × List BYTE}

/-- When the firmware is asked for, and what is answered. -/
lemma PlainEntry.firmware_inv
    (h : PlainEntry answer name stack s r (.transmit APDU_GET_READER_FIRMWARE c, a)) :
    Begins name (compared SUPPORTED_READER_NAME_ARRAY) ∧ a = (firmwareAnswer answer s).1 := by
  generalize e : APDU_GET_READER_FIRMWARE = send at h
  cases h with
  | firmware named => exact ⟨named, rfl⟩
  | serial => cases e
  | id => cases e

/-- When the serial number is asked for, what is answered, and what is kept of it. -/
lemma PlainEntry.serial_inv
    (h : PlainEntry answer name stack s r (.transmit APDU_GET_SAM_SERIAL c, a)) :
    SamAsked answer name stack s ∧ a = (serialAnswer answer stack s).1 ∧
      (a.1 = SCARD_S_SUCCESS → r.SAM_serial = replyText a.2) := by
  generalize e : APDU_GET_SAM_SERIAL = send at h
  cases h with
  | firmware => cases e
  | serial asked text => exact ⟨asked, rfl, text⟩
  | id => cases e

/-- When the ID is asked for, and what is answered. -/
lemma PlainEntry.id_inv
    (h : PlainEntry answer name stack s r (.transmit APDU_GET_SAM_ID c, a)) :
    SamAsked answer name stack s ∧ (serialAnswer answer stack s).1.1 = SCARD_S_SUCCESS ∧
      a = (idAnswer answer stack s).1 := by
  generalize e : APDU_GET_SAM_ID = send at h
  cases h with
  | firmware => cases e
  | serial => cases e
  | id asked serial => exact ⟨asked, serial, rfl⟩

end

end

/-- The ATR of a reader without a SAM begins with these bytes. -/
def ACS_NO_SAM : List BYTE := [0x3B, 0x00]

/-- The card answered an APDU with the data `d`, followed by the status word of a success. -/
def Delivered (t : Transcript) (apdu d : List BYTE) : Prop :=
  ∃ capacity, (.transmit apdu capacity, SCARD_S_SUCCESS, d ++ [0x90, 0x00]) ∈ t

/-- The reader has reported a SAM, and the texts are those for what the SAM delivered. -/
structure SamGenuine (t : Transcript) (r : tReader) : Prop where
  status : ∃ atr, (.status, SCARD_S_SUCCESS, atr) ∈ t ∧ ¬ ACS_NO_SAM <+: atr
  serial : ∃ d, Delivered t APDU_GET_SAM_SERIAL d ∧ r.SAM_serial = hexText d
  id : ∃ d, Delivered t APDU_GET_SAM_ID d ∧ r.SAM_id = hexText d

section
variable {σ : Type} {answer : CardRequest → σ → (LONG × List BYTE) × σ} {pReader : tReader}
  {name : CString} {stack : Buffer} {s : σ}

/-- A reply to a request for the SAM consists of at most 12 bytes of data and a status word. -/
def SamReplies (answer : CardRequest → σ → (LONG × List BYTE) × σ) : Prop :=
  ∀ apdu ∈ [APDU_GET_SAM_SERIAL, APDU_GET_SAM_ID], ∀ capacity s,
    (answer (.transmit apdu capacity) s).1.1 = SCARD_S_SUCCESS →
      ∃ d sw1 sw2, (answer (.transmit apdu capacity) s).1.2 = d ++ [sw1, sw2] ∧ d.length ≤ 12

/-- The reader is accepted and takes the APDU for the retries, its ATR is not read as that of a
reader without a SAM, and no request for the SAM fails. -/
structure SamAnswered (answer : CardRequest → σ → (LONG × List BYTE) × σ) (name : CString)
    (stack : Buffer) (s : σ) : Prop where
  accepted : Accepted answer name s
  retried : ∃ reply, Replies answer APDU_SET_RETRY (firmwareBuffer answer stack s)
    MAX_FIRMWARE_STRING_LENGTH (statusAnswer answer s).2 reply
  present : ¬ NoSam (statusAnswer answer s).1.2
  serial : (serialAnswer answer stack s).1.1 = SCARD_S_SUCCESS
  id : (idAnswer answer stack s).1.1 = SCARD_S_SUCCESS

/-- The text for a whole reply is never that for its data. -/
lemma replyText_ne {reply d : List BYTE} {sw1 sw2} (short : reply.length < 128)
    (e : reply = d ++ [sw1, sw2]) : replyText reply ≠ hexText d := by
  intro same
  rw [replyText_short short] at same
  have length := congrArg List.length (hexText_injective same)
  rw [e, List.length_append] at length
  simp at length

/-- Whatever the status word is, it is part of the text for the serial number. -/
lemma not_samGenuine {r t} (replies : SamReplies answer)
    (h : CheckOutcome answer name stack pReader s r t) : ¬ SamGenuine t r.2.2 := by
  intro genuine
  obtain ⟨d, ⟨capacity, mem⟩, e⟩ := genuine.serial
  obtain ⟨_, reply, text⟩ := (outcome_plain h (by decide) mem).serial_inv
  obtain ⟨d', sw1, sw2, e', short⟩ := replies APDU_GET_SAM_SERIAL List.mem_cons_self
    MAX_FIRMWARE_STRING_LENGTH (retryExchange answer stack s).2 (congrArg Prod.fst reply).symm
  have length := congrArg List.length ((congrArg Prod.snd reply).trans e')
  simp only [List.length_append, List.length_cons, List.length_nil] at length
  refine replyText_ne ?_ rfl ((text rfl).symm.trans e)
  rw [List.length_append]
  exact Nat.lt_of_le_of_lt (Nat.add_le_add_right (by omega) 2) (by decide : 12 + 2 < 128)

/-- The texts for the SAM are genuine exactly if the check does not come to enter one. -/
theorem samGenuine_iff (replies : SamReplies answer) :
    let check := acr122UReaderCheck { pReader with SAM := false } name stack
    let r := (check.run answer s).1
    (r.2.2.SAM = true → SamGenuine (check.transcript answer s) r.2.2) ↔
      ¬ SamAnswered answer name stack s := by
  intro check r
  have outcome : CheckOutcome answer name stack { pReader with SAM := false } s r
      (check.transcript answer s) := readerCheck_outcome
  have false_texts := not_samGenuine replies outcome
  generalize r = r, check.transcript answer s = t at outcome false_texts
  have unset : ∀ {r : tReader}, r.SAM = false → ¬ SamAnswered answer name stack s →
      ((r.SAM = true → SamGenuine t r) ↔ ¬ SamAnswered answer name stack s) := by
    intro r unset missing
    refine iff_of_true (fun set => ?_) missing
    rw [unset] at set
    cases set
  cases outcome with
  | unnamed other =>
    exact unset rfl fun h => other h.accepted.named
  | firmwareFailed _ failed =>
    exact unset rfl fun h => failed h.accepted.answered
  | unsupported _ _ other =>
    exact unset rfl fun h => other h.accepted.supported
  | retryFailed _ failed =>
    exact unset rfl fun h => failed (retried_iff.2 h.retried)
  | noSam _ _ none =>
    exact unset rfl fun h => h.present none
  | serialFailed _ failed =>
    exact unset rfl fun h => failed h.serial
  | idFailed _ _ failed =>
    exact unset rfl fun h => failed h.id
  | sam asked serial id =>
    refine iff_of_false (fun h => false_texts (h rfl)) (not_not.2 ?_)
    exact ⟨asked.accepted, retried_iff.1 asked.retried, asked.present, serial, id⟩

end

/-- A reply, unless there is no room for it. -/
def offered (reply : List BYTE) (capacity : Nat) : LONG × List BYTE :=
  if reply.length ≤ capacity then (SCARD_S_SUCCESS, reply) else (SCARD_E_INSUFFICIENT_BUFFER, [])

/-- A reply that fits is delivered. -/
lemma offered_ok {reply : List BYTE} {capacity}
    (ok : (offered reply capacity).1 = SCARD_S_SUCCESS) : (offered reply capacity).2 = reply := by
  unfold offered at ok ⊢
  split at ok
  next room => rw [if_pos room]
  next => cases ok

/-- No more is delivered than there is room for. -/
lemma offered_fits {reply : List BYTE} {capacity} :
    (offered reply capacity).2.length ≤ capacity := by
  unfold offered
  split
  next room => exact room
  next => exact Nat.zero_le _

/-- A reader of the supported kind, by what `SCardStatus` gets and by its replies for the SAM. -/
def samReader (status : LONG × List BYTE) (serial id : List BYTE) :
    CardRequest → Unit → (LONG × List BYTE) × Unit
  | .status, _ => (status, ())
  | .transmit send capacity, _ =>
    if send = APDU_GET_READER_FIRMWARE then (offered acr122Firmware capacity, ())
    else if send = APDU_GET_SAM_SERIAL then (offered serial capacity, ())
    else if send = APDU_GET_SAM_ID then (offered id capacity, ())
    else (offered [SW1_SUCCESS, 0x00] capacity, ())

/-- The replies of this reader have the shape of replies of a SAM. -/
lemma samReader_replies {status : LONG × List BYTE} {d d' : List BYTE} {sw1 sw2 sw1' sw2'}
    (short : d.length ≤ 12) (short' : d'.length ≤ 12) :
    SamReplies (samReader status (d ++ [sw1, sw2]) (d' ++ [sw1', sw2'])) := by
  intro apdu mem capacity s ok
  cases mem with
  | head => exact ⟨d, sw1, sw2, offered_ok ok, short⟩
  | tail _ mem => cases mem with
    | head => exact ⟨d', sw1', sw2', offered_ok ok, short'⟩
    | tail _ mem => cases mem

/-- The reader has no ATR, and refuses the requests for the SAM with `6A 82`. -/
theorem sam_entered_refused :
    let check := acr122UReaderCheck .reset acr0.val fun _ => 0
    let answer := samReader (SCARD_E_INVALID_HANDLE, []) [0x6A, 0x82] [0x6A, 0x82]
    let r := (check.run answer ()).1.2.2
    SamReplies answer ∧ r.SAM_serial = "6a82".toList ∧
      ¬ (r.SAM = true → SamGenuine (check.transcript answer ()) r) := by
  intro check answer r
  refine ⟨@samReader_replies _ [] [] 0x6A 0x82 0x6A 0x82 (by decide) (by decide),
    by decide +kernel, fun genuine => ?_⟩
  obtain ⟨atr, mem, _⟩ := (genuine (by decide +kernel)).status
  -- pcscd has answered once only, and with an error
  have failed : (check.transcript answer ()).all
      (fun e => e.1 ≠ .status ∨ e.2.1 ≠ SCARD_S_SUCCESS) = true := by decide +kernel
  have failed := of_decide_eq_true (List.all_eq_true.1 failed _ mem)
  exact failed.elim (fun h => h rfl) fun h => h rfl

/-- A reader that reports no SAM. -/
theorem samGenuine_iff_absent :
    let answer := samReader (SCARD_S_SUCCESS, ACS_NO_SAM) [0x6A, 0x82] [0x6A, 0x82]
    (((acr122UReaderCheck { tReader.reset with SAM := false } acr0.val fun _ => 0).run answer
        ()).1.2.2.SAM = true → SamGenuine
          ((acr122UReaderCheck { tReader.reset with SAM := false } acr0.val fun _ => 0).transcript
            answer ())
          ((acr122UReaderCheck { tReader.reset with SAM := false } acr0.val fun _ => 0).run answer
            ()).1.2.2) ↔ ¬ SamAnswered answer acr0.val (fun _ => 0) () :=
  samGenuine_iff (@samReader_replies _ [] [] 0x6A 0x82 0x6A 0x82 (by decide) (by decide))

/-- The size of the array for the serial number. -/
def MAX_SAM_SERIAL_SIZE : Nat := 30
/-- The size of the array for the ID. -/
def MAX_SAM_ID_SIZE : Nat := 30

/-- What a check writes stays in bounds, and each exchange is given the size of the buffer. -/
structure CheckInBounds (t : Transcript) (r : tReader) : Prop where
  /-- the firmware string is terminated inside of the buffer -/
  terminator : ∀ capacity reply,
    (.transmit APDU_GET_READER_FIRMWARE capacity, SCARD_S_SUCCESS, reply) ∈ t →
      reply.length < MAX_FIRMWARE_STRING_LENGTH
  serial : ∀ capacity reply,
    (.transmit APDU_GET_SAM_SERIAL capacity, SCARD_S_SUCCESS, reply) ∈ t →
      r.SAM_serial.length + 1 ≤ MAX_SAM_SERIAL_SIZE
  id : ∀ capacity reply,
    (.transmit APDU_GET_SAM_ID capacity, SCARD_S_SUCCESS, reply) ∈ t →
      r.SAM_id.length + 1 ≤ MAX_SAM_ID_SIZE
  room : ∀ send capacity a, (.transmit send capacity, a) ∈ t →
    capacity = MAX_FIRMWARE_STRING_LENGTH

/-- A reader that keeps to the room it is given. -/
def KeepsRoom {σ : Type} (answer : CardRequest → σ → (LONG × List BYTE) × σ) : Prop :=
  ∀ send capacity s, (answer (.transmit send capacity) s).1.2.length ≤ capacity

section
variable {σ : Type} {answer : CardRequest → σ → (LONG × List BYTE) × σ} {pReader : tReader}
  {name : CString} {stack : Buffer} {s : σ}

/-- There is room for the terminator of the firmware string; without a SAM, the reply to the APDU
for the retries fills the buffer; with one, the check fails at the serial number, or at the identity
after a serial number of at most 14 bytes. -/
def RepliesFit (answer : CardRequest → σ → (LONG × List BYTE) × σ) (name : CString)
    (stack : Buffer) (s : σ) : Prop :=
  Begins name (compared SUPPORTED_READER_NAME_ARRAY) →
  (firmwareAnswer answer s).1.1 = SCARD_S_SUCCESS →
    (firmwareAnswer answer s).1.2.length < MAX_FIRMWARE_STRING_LENGTH ∧
    (Begins (firmwareText (firmwareAnswer answer s).1.2) SUPPORTED_READER_FIRMWARE_ARRAY →
      ∀ reply, Replies answer APDU_SET_RETRY (firmwareBuffer answer stack s)
        MAX_FIRMWARE_STRING_LENGTH (statusAnswer answer s).2 reply →
      if NoSam (statusAnswer answer s).1.2 then reply.length = MAX_FIRMWARE_STRING_LENGTH
      else (serialAnswer answer stack s).1.1 = SCARD_S_SUCCESS →
        (serialAnswer answer stack s).1.2.length ≤ 14 ∧
          (idAnswer answer stack s).1.1 ≠ SCARD_S_SUCCESS)

/-- The room that a pseudo APDU gives is the one it was given. -/
lemma room_pseudo {apdu : List BYTE} {buf capacity} (pseudo : apdu.head? = some 0xd4) :
    (∀ send c a, (.transmit send c, a) ∈ (apduSend apdu buf capacity).transcript answer s →
      c = MAX_FIRMWARE_STRING_LENGTH) ↔ capacity = MAX_FIRMWARE_STRING_LENGTH := by
  constructor
  · intro room
    obtain ⟨a, mem⟩ := transcript_pseudo pseudo
    exact room _ _ _ mem
  · rintro rfl send c a mem
    rcases (apduSend_asks pseudo).transcript answer s _ mem with h | ⟨n, h⟩
    · cases h
      rfl
    · cases h
      rfl

/-- At the beginning of a check there is room for a whole buffer. -/
lemma room_opening {send : List BYTE} {c a}
    (mem : (.transmit send c, a) ∈ checkOpening answer stack s) :
    c = MAX_FIRMWARE_STRING_LENGTH := by
  cases mem with
  | head => rfl
  | tail _ mem =>
    cases mem with
    | tail _ mem => exact (room_pseudo rfl).2 rfl _ _ _ mem

/-- There is room for a whole buffer up to the request for the serial number. -/
lemma room_serial {send : List BYTE} {c a}
    (mem : (.transmit send c, a) ∈ checkOpening answer stack s ++ [serialEntry answer stack s]) :
    c = MAX_FIRMWARE_STRING_LENGTH := by
  rcases List.mem_append.1 mem with mem | mem
  · exact room_opening mem
  · cases List.mem_singleton.1 mem
    rfl

/-- A text for a reply fits iff the reply has at most 14 bytes. -/
lemma replyText_fits {reply : List BYTE} (short : reply.length ≤ MAX_FIRMWARE_STRING_LENGTH) :
    (replyText reply).length + 1 ≤ MAX_SAM_SERIAL_SIZE ↔ reply.length ≤ 14 := by
  have short : reply.length ≤ 30 := short
  rw [replyText_short (by omega), hexText_length, MAX_SAM_SERIAL_SIZE]
  omega

/-- Where the replies fit, the requests for the SAM are the last of the exchanges. -/
lemma RepliesFit.sam (fit : RepliesFit answer name stack s) (asked : SamAsked answer name stack s)
    (serial : (serialAnswer answer stack s).1.1 = SCARD_S_SUCCESS) :
    (serialAnswer answer stack s).1.2.length ≤ 14 ∧
      (idAnswer answer stack s).1.1 ≠ SCARD_S_SUCCESS := by
  obtain ⟨reply, replies⟩ := retried_iff.1 asked.retried
  have fit := (fit asked.accepted.named asked.accepted.answered).2 asked.accepted.supported
    reply replies
  rw [if_neg asked.present] at fit
  exact fit serial

/-- Where the replies fit, each exchange is given the size of the buffer. -/
lemma RepliesFit.room (fit : RepliesFit answer name stack s) {r t}
    (h : CheckOutcome answer name stack pReader s r t) {send capacity a}
    (mem : (.transmit send capacity, a) ∈ t) : capacity = MAX_FIRMWARE_STRING_LENGTH := by
  cases h with
  | unnamed =>
    cases mem
  | firmwareFailed | unsupported =>
    cases List.mem_singleton.1 mem
    rfl
  | retryFailed =>
    exact room_opening mem
  | noSam accepted retried none =>
    obtain ⟨reply, replies⟩ := retried_iff.1 retried
    have fit := (fit accepted.named accepted.answered).2 accepted.supported reply replies
    rw [if_pos none, ← (replies.run rfl).2] at fit
    rcases List.mem_append.1 mem with mem | mem
    · exact room_opening mem
    · exact (room_pseudo rfl).2 fit _ _ _ mem
  | serialFailed =>
    exact room_serial mem
  | idFailed =>
    rcases List.mem_append.1 mem with mem | mem
    · exact room_serial mem
    · cases List.mem_singleton.1 mem
      rfl
  | sam asked serial id =>
    exact absurd id (fit.sam asked serial).2

/-- Where the replies fit, what is written fits. -/
lemma inBounds_of_fit {r t} (h : CheckOutcome answer name stack pReader s r t)
    (fit : RepliesFit answer name stack s) :
    CheckInBounds t r.2.2 := by
  refine ⟨fun capacity reply mem => ?_, fun capacity reply mem => ?_, fun capacity reply mem => ?_,
    fun send capacity a mem => fit.room h mem⟩
  · obtain ⟨named, e⟩ := (outcome_plain h (by decide) mem).firmware_inv
    have room := (fit named (congrArg Prod.fst e).symm).1
    rw [← e] at room
    exact room
  · obtain ⟨asked, e, text⟩ := (outcome_plain h (by decide) mem).serial_inv
    have short := (fit.sam asked (congrArg Prod.fst e).symm).1
    rw [← e] at short
    rw [text rfl]
    exact (replyText_fits (Nat.le_trans short (by decide))).2 short
  · obtain ⟨asked, serial, e⟩ := (outcome_plain h (by decide) mem).id_inv
    exact absurd (congrArg Prod.fst e).symm (fit.sam asked serial).2

/-- What is written in bounds comes from replies that fit. -/
lemma fit_of_inBounds {r t} (h : CheckOutcome answer name stack pReader s r t)
    (keeps : KeepsRoom answer) (bounds : CheckInBounds t r.2.2) :
    RepliesFit answer name stack s := by
  intro named answered
  have terminated (mem : firmwareEntry answer s ∈ t) :
      (firmwareAnswer answer s).1.2.length < MAX_FIRMWARE_STRING_LENGTH := by
    have entry : firmwareEntry answer s = (.transmit APDU_GET_READER_FIRMWARE
        MAX_FIRMWARE_STRING_LENGTH, SCARD_S_SUCCESS, (firmwareAnswer answer s).1.2) :=
      congrArg (fun rv => (_, rv, _)) answered
    exact bounds.terminator _ _ (entry ▸ mem)
  have opening : firmwareEntry answer s ∈ checkOpening answer stack s := List.mem_cons_self
  cases h with
  | unnamed other =>
    exact absurd named other
  | firmwareFailed _ failed =>
    exact absurd answered failed
  | unsupported _ _ other =>
    refine ⟨terminated (List.mem_singleton_self _), fun supported => ?_⟩
    exact absurd supported other
  | retryFailed _ failed =>
    refine ⟨terminated opening, fun _ reply replies => ?_⟩
    exact absurd (replies.run rfl).1 failed
  | noSam _ _ none =>
    refine ⟨terminated (List.mem_append_left _ opening), fun _ reply replies => ?_⟩
    rw [if_pos none, ← (replies.run rfl).2]
    exact (room_pseudo rfl).1 fun send c a mem => bounds.room _ _ _ (List.mem_append_right _ mem)
  | serialFailed asked failed =>
    refine ⟨terminated (List.mem_append_left _ opening), fun _ reply replies => ?_⟩
    rw [if_neg asked.present]
    exact fun serial => absurd serial failed
  | idFailed asked serial failed =>
    refine ⟨terminated (List.mem_append_left _ (List.mem_append_left _ opening)),
      fun _ reply replies => ?_⟩
    rw [if_neg asked.present]
    refine fun _ => ⟨?_, failed⟩
    have fits := bounds.serial MAX_FIRMWARE_STRING_LENGTH (serialAnswer answer stack s).1.2
      (List.mem_append_left _ (List.mem_append_right _ (List.mem_singleton.2
        (congrArg (fun rv => (_, rv, _)) serial.symm))))
    exact (replyText_fits (keeps _ _ _)).1 fits
  | sam asked serial id =>
    -- the room for the last exchange is the length of the identity, which is too long for its text
    have room := (room_pseudo rfl).1 fun send c a mem =>
      bounds.room send c a (List.mem_append_right _ mem)
    have fits := bounds.id MAX_FIRMWARE_STRING_LENGTH (idAnswer answer stack s).1.2
      (List.mem_append_left _ (List.mem_append_right _ (List.mem_singleton.2
        (congrArg (fun rv => (_, rv, _)) id.symm))))
    have short : (idAnswer answer stack s).1.2.length ≤ 14 :=
      (replyText_fits (keeps _ _ _)).1 fits
    rw [room] at short
    exact absurd short (by decide)

/-- In front of a reader that keeps to the room it is given, a check stays in bounds exactly if the
replies fit. -/
theorem checkInBounds_iff (keeps : KeepsRoom answer) :
    let check := acr122UReaderCheck pReader name stack
    CheckInBounds (check.transcript answer s) (check.run answer s).1.2.2 ↔
      RepliesFit answer name stack s := by
  have outcome : CheckOutcome answer name stack pReader s
      ((acr122UReaderCheck pReader name stack).run answer s).1
      ((acr122UReaderCheck pReader name stack).transcript answer s) := readerCheck_outcome
  exact ⟨fit_of_inBounds outcome keeps, inBounds_of_fit outcome⟩

end

/-- This reader keeps to the room it is given. -/
lemma samReader_keepsRoom {status : LONG × List BYTE} {serial id : List BYTE} :
    KeepsRoom (samReader status serial id) := by
  intro send capacity s
  unfold samReader
  dsimp only
  split_ifs <;> exact offered_fits

/-- A SAM that delivers 18 bytes and a status word. -/
def longSerial : List BYTE := .replicate 18 0xAB ++ [0x90, 0x00]

/-- The text for a serial number of 18 bytes takes 41 characters. -/
theorem serial_overruns_longSerial :
    let check := acr122UReaderCheck .reset acr0.val fun _ => 0
    let answer := samReader (SCARD_S_SUCCESS, [0x3B, 0x69]) longSerial [0x90, 0x00]
    KeepsRoom answer ∧
      ¬ CheckInBounds (check.transcript answer ()) (check.run answer ()).1.2.2 := by
  intro check answer
  refine ⟨samReader_keepsRoom, fun bounds => ?_⟩
  have mem : (.transmit APDU_GET_SAM_SERIAL MAX_FIRMWARE_STRING_LENGTH, SCARD_S_SUCCESS,
      longSerial) ∈ check.transcript answer () := by decide +kernel
  exact absurd (bounds.serial _ _ mem) (by decide +kernel)

/-- What decides about this reader. -/
theorem checkInBounds_iff_longSerial :
    CheckInBounds
        ((acr122UReaderCheck .reset acr0.val fun _ => 0).transcript
          (samReader (SCARD_S_SUCCESS, [0x3B, 0x69]) longSerial [0x90, 0x00]) ())
        ((acr122UReaderCheck .reset acr0.val fun _ => 0).run
          (samReader (SCARD_S_SUCCESS, [0x3B, 0x69]) longSerial [0x90, 0x00]) ()).1.2.2 ↔
      RepliesFit (samReader (SCARD_S_SUCCESS, [0x3B, 0x69]) longSerial [0x90, 0x00]) acr0.val
        (fun _ => 0) () :=
  checkInBounds_iff samReader_keepsRoom

end TagEventor
