import TagEventor.Reader.Driver

/-!
# The exchange with a card

A pseudo APDU goes to the card in two steps: it is wrapped into a direct transmission, which the
reader answers by `61 n`, and the reply of `n` bytes is then fetched with a second transmission.
`apduSend_pseudo` and `apduSend_plain` say what `apduSend` does with the answers to them. In front
of a reader that keeps a reply until it is fetched (`KeepsReply`) the two steps are one logical
exchange (`apduSend_exchanges`).
-/

namespace TagEventor
open Interact

/-- What is sent for a pseudo APDU: `FF 00 00 00 Lc`, followed by the APDU. -/
def directTransmit (apdu : List BYTE) : List BYTE :=
  APDU_DIRECT_TRANSMIT ++ [UInt8.ofNat apdu.length] ++ apdu

/-- What is sent to fetch `n` bytes: `FF C0 00 00 n`. -/
def getResponse (n : BYTE) : List BYTE := APDU_GET_RESPONSE ++ [n]

section
variable {σ : Type} {answer : CardRequest → σ → (LONG × List BYTE) × σ} {apdu : List BYTE}
  {buf : Buffer} {capacity : Nat} {s s1 s2 : σ} {rv : LONG} {recv recv' : List BYTE}

/-- An APDU that does not start with `D4` is sent as it is. -/
lemma apduSend_plain (plain : apdu.head? ≠ some 0xd4) :
    (apduSend apdu buf capacity).run answer s =
      let r := answer (.transmit apdu capacity) s
      ((r.1.1, buf.fill r.1.2, r.1.2.length), r.2) := by
  simp only [apduSend, plain, decide_false, Bool.false_eq_true, if_false, List.nil_append,
    and_false]
  rfl

/-- What `apduSend` makes of the answers to the transmissions for a pseudo APDU. -/
lemma apduSend_pseudo (pseudo : apdu.head? = some 0xd4) :
    (apduSend apdu buf capacity).run answer s =
      let r := answer (.transmit (directTransmit apdu) capacity) s
      let buf := buf.fill r.1.2
      if r.1.1 ≠ SCARD_S_SUCCESS then ((r.1.1, buf, r.1.2.length), r.2)
      else if buf SW1 ≠ SW1_SUCCESS then ((SCARD_F_COMM_ERROR, buf, r.1.2.length), r.2)
      else if buf SW2 > 0 then
        let r := answer (.transmit (getResponse (buf SW2)) capacity) r.2
        ((r.1.1, buf.fill r.1.2, r.1.2.length), r.2)
      else ((SCARD_S_SUCCESS, buf, 0), r.2) := by
  simp only [apduSend, pseudo, decide_true, if_true, and_true]
  show Prog.run answer (if _ then _ else _) _ = _
  have e : APDU_DIRECT_TRANSMIT ++ [UInt8.ofNat apdu.length] ++ apdu = directTransmit apdu := rfl
  rw [e]
  generalize answer (.transmit (directTransmit apdu) capacity) s = r
  obtain ⟨⟨rv, recv⟩, s1⟩ := r
  dsimp only
  by_cases ok : rv = SCARD_S_SUCCESS
  · subst ok
    simp only [if_true, ne_eq, not_true, if_false]
    split
    · rfl
    split
    · rfl
    · rfl
  · simp only [ok, if_false, ne_eq, not_false_iff, if_true]
    rfl

/-- The first transmission fails. -/
lemma apduSend_error (pseudo : apdu.head? = some 0xd4)
    (h : answer (.transmit (directTransmit apdu) capacity) s = ((rv, recv), s1))
    (error : rv ≠ SCARD_S_SUCCESS) :
    (apduSend apdu buf capacity).run answer s = ((rv, buf.fill recv, recv.length), s1) := by
  rw [apduSend_pseudo pseudo, h]
  exact if_pos error

/-- The reader does not take the APDU. -/
lemma apduSend_refused (pseudo : apdu.head? = some 0xd4)
    (h : answer (.transmit (directTransmit apdu) capacity) s = ((SCARD_S_SUCCESS, recv), s1))
    (sw1 : buf.fill recv SW1 ≠ SW1_SUCCESS) :
    (apduSend apdu buf capacity).run answer s =
      ((SCARD_F_COMM_ERROR, buf.fill recv, recv.length), s1) := by
  rw [apduSend_pseudo pseudo, h]
  exact if_pos sw1

/-- The card has no reply. -/
lemma apduSend_empty (pseudo : apdu.head? = some 0xd4)
    (h : answer (.transmit (directTransmit apdu) capacity) s = ((SCARD_S_SUCCESS, recv), s1))
    (sw1 : buf.fill recv SW1 = SW1_SUCCESS) (sw2 : buf.fill recv SW2 = 0) :
    (apduSend apdu buf capacity).run answer s =
      ((SCARD_S_SUCCESS, buf.fill recv, 0), s1) := by
  have none : ¬ buf.fill recv SW2 > 0 := by
    rw [sw2]
    decide
  rw [apduSend_pseudo pseudo, h]
  exact (if_neg (not_not.2 sw1)).trans (if_neg none)

/-- The reply of the card is fetched. -/
lemma apduSend_fetched (pseudo : apdu.head? = some 0xd4)
    (h : answer (.transmit (directTransmit apdu) capacity) s = ((SCARD_S_SUCCESS, recv), s1))
    (sw1 : buf.fill recv SW1 = SW1_SUCCESS) (sw2 : buf.fill recv SW2 ≠ 0)
    (h' : answer (.transmit (getResponse (buf.fill recv SW2)) capacity) s1 = ((rv, recv'), s2)) :
    (apduSend apdu buf capacity).run answer s =
      ((rv, (buf.fill recv).fill recv', recv'.length), s2) := by
  have some : buf.fill recv SW2 > 0 := UInt8.pos_iff_ne_zero.2 sw2
  rw [apduSend_pseudo pseudo, h]
  refine ((if_neg (not_not.2 sw1)).trans (if_pos some)).trans ?_
  dsimp only
  rw [h']

end

/-- `sizeof(pbSendBuffer)` in `apduSend`. -/
def SEND_BUFFER_SIZE : Nat := 40

section
variable {σ : Type} (answer : CardRequest → σ → (LONG × List BYTE) × σ) (pending : σ → List BYTE)

/-- A reader that answers `61 n` to a direct transmission keeps a reply of `n` bytes, and hands it
over when it is asked for `n` bytes. -/
structure KeepsReply : Prop where
  announced : ∀ {data capacity s n s1},
    answer (.transmit (directTransmit data) capacity) s =
      ((SCARD_S_SUCCESS, [SW1_SUCCESS, n]), s1) → (pending s1).length = n.toNat
  delivered : ∀ {n capacity s recv s1}, (pending s).length = n.toNat →
    answer (.transmit (getResponse n) capacity) s = ((SCARD_S_SUCCESS, recv), s1) →
      recv = pending s ∧ pending s1 = []

/-- What the caller of `apduSend` gets for a pseudo APDU, and what is transmitted for it. -/
structure Exchanged (apdu : List BYTE) (buf : Buffer) (capacity : Nat) (s : σ) : Prop where
  /-- the reader receives the APDU with its length in front of it -/
  sent : ∃ Lc : BYTE, directTransmit apdu = [0xff, 0x00, 0x00, 0x00, Lc] ++ apdu ∧
    Lc.toNat = apdu.length ∧ (directTransmit apdu).length ≤ SEND_BUFFER_SIZE
  /-- a reply is fetched as a whole, and then the reader keeps nothing -/
  fetched : ∀ {n s1 recv s2},
    answer (.transmit (directTransmit apdu) capacity) s =
      ((SCARD_S_SUCCESS, [SW1_SUCCESS, n]), s1) → n ≠ 0 →
    answer (.transmit (getResponse n) capacity) s1 = ((SCARD_S_SUCCESS, recv), s2) →
    ∃ buf', (apduSend apdu buf capacity).run (recorded answer) (s, []) =
        ((SCARD_S_SUCCESS, buf', n.toNat), s2,
          [.transmit (directTransmit apdu) capacity, .transmit (getResponse n) capacity]) ∧
      (List.range n.toNat).map buf' = pending s1 ∧ pending s2 = []
  /-- there is nothing to fetch -/
  empty : ∀ {s1},
    answer (.transmit (directTransmit apdu) capacity) s =
      ((SCARD_S_SUCCESS, [SW1_SUCCESS, 0]), s1) →
    ∃ buf', (apduSend apdu buf capacity).run (recorded answer) (s, []) =
      ((SCARD_S_SUCCESS, buf', 0), s1, [.transmit (directTransmit apdu) capacity])
  refused : ∀ {sw1 recv s1},
    answer (.transmit (directTransmit apdu) capacity) s =
      ((SCARD_S_SUCCESS, sw1 :: recv), s1) → sw1 ≠ SW1_SUCCESS →
    ∃ buf' len, (apduSend apdu buf capacity).run (recorded answer) (s, []) =
      ((SCARD_F_COMM_ERROR, buf', len), s1, [.transmit (directTransmit apdu) capacity])
  /-- an error of the first transmission -/
  sendError : ∀ {rv recv s1},
    answer (.transmit (directTransmit apdu) capacity) s = ((rv, recv), s1) →
    rv ≠ SCARD_S_SUCCESS →
    ∃ buf' len, (apduSend apdu buf capacity).run (recorded answer) (s, []) =
      ((rv, buf', len), s1, [.transmit (directTransmit apdu) capacity])
  /-- an error of the second transmission -/
  fetchError : ∀ {n s1 rv recv s2},
    answer (.transmit (directTransmit apdu) capacity) s =
      ((SCARD_S_SUCCESS, [SW1_SUCCESS, n]), s1) → n ≠ 0 →
    answer (.transmit (getResponse n) capacity) s1 = ((rv, recv), s2) → rv ≠ SCARD_S_SUCCESS →
    ∃ buf' len, (apduSend apdu buf capacity).run (recorded answer) (s, []) =
      ((rv, buf', len), s2,
        [.transmit (directTransmit apdu) capacity, .transmit (getResponse n) capacity])

end

/-- A short command is sent with its length, in the buffer that is there for it. -/
lemma directTransmit_sent {apdu : List BYTE} (short : apdu.length ≤ 35) :
    ∃ Lc : BYTE, directTransmit apdu = [0xff, 0x00, 0x00, 0x00, Lc] ++ apdu ∧
      Lc.toNat = apdu.length ∧ (directTransmit apdu).length ≤ SEND_BUFFER_SIZE := by
  refine ⟨UInt8.ofNat apdu.length, rfl, ?_, ?_⟩
  · rw [UInt8.toNat_ofNat']
    omega
  · simp only [directTransmit, APDU_DIRECT_TRANSMIT, SEND_BUFFER_SIZE, List.length_append,
      List.length_cons, List.length_nil]
    omega

/-- The bytes that were written last are read back. -/
lemma map_fill {buf : Buffer} {recv : List BYTE} :
    (List.range recv.length).map (buf.fill recv) = recv := by
  apply List.ext_getElem
  · simp
  · intro i hi _
    simp at hi
    simp [Buffer.fill, hi]

/-- In front of a reader that keeps the reply, `apduSend` is one logical exchange; an APDU that is
none for the card takes one transmission. -/
theorem apduSend_exchanges {σ : Type} {answer : CardRequest → σ → (LONG × List BYTE) × σ}
    {pending : σ → List BYTE} (keeps : KeepsReply answer pending) {capacity : Nat} {buf s} :
    (∀ apdu : List BYTE, apdu.head? = some 0xd4 → apdu.length ≤ 35 →
      Exchanged answer pending apdu buf capacity s) ∧
    ∀ apdu : List BYTE, apdu.head? ≠ some 0xd4 → ∀ {rv recv s1},
      answer (.transmit apdu capacity) s = ((rv, recv), s1) →
      (apduSend apdu buf capacity).run (recorded answer) (s, []) =
        ((rv, buf.fill recv, recv.length), s1, [.transmit apdu capacity]) := by
  constructor
  · intro apdu pseudo short
    -- what is asked first, in the record
    have first : ∀ {q a s1}, answer q s = (a, s1) → recorded answer q (s, []) = (a, s1, [q]) :=
      fun h => by simp [recorded, h]
    have second : ∀ {q q' s1 a s2}, answer q s1 = (a, s2) →
        recorded answer q (s1, [q']) = (a, s2, [q', q]) :=
      fun h => by simp [recorded, h]
    refine
      { sent := directTransmit_sent short
        fetched := fun {n s1 recv s2} h hn h' => ?_
        empty := fun {s1} h => ⟨_, apduSend_empty pseudo (first h) rfl rfl⟩
        refused := fun {sw1 recv s1} h hsw => ⟨_, _, apduSend_refused pseudo (first h) hsw⟩
        sendError := fun {rv recv s1} h error => ⟨_, _, apduSend_error pseudo (first h) error⟩
        fetchError := fun {n s1 rv recv s2} h hn h' error =>
          ⟨_, _, apduSend_fetched pseudo (first h) rfl hn (second h')⟩ }
    have hlen := keeps.announced h
    obtain ⟨rfl, rest⟩ := keeps.delivered hlen h'
    have run := @apduSend_fetched _ (recorded answer) apdu buf _ _ _ _ _ _ _ pseudo (first h) rfl hn
      (second h')
    rw [hlen] at run
    refine ⟨_, run, ?_, rest⟩
    rw [← hlen]
    exact map_fill
  · intro apdu plain rv recv s1 h
    have run := @apduSend_plain _ (recorded answer) apdu buf capacity (s, []) plain
    dsimp only [recorded] at run
    rw [run, h]
    rfl

/-- A reader behind which there is a card that gives the same reply to every APDU. -/
def replying (r : List BYTE) : CardRequest → List BYTE → (LONG × List BYTE) × List BYTE
  | .transmit send capacity, pending =>
    if send.take 4 = APDU_DIRECT_TRANSMIT then
      ((SCARD_S_SUCCESS, [SW1_SUCCESS, UInt8.ofNat r.length]), r)
    else if send.take 4 = APDU_GET_RESPONSE ∧ pending.length ≤ capacity then
      ((SCARD_S_SUCCESS, pending), [])
    else ((SCARD_F_COMM_ERROR, []), pending)
  | .status, pending => ((SCARD_S_SUCCESS, [0x3B, 0x00]), pending)

/-- The reader announces its reply and delivers it. -/
lemma replying_keepsReply {r : List BYTE} (short : r.length < 256) :
    KeepsReply (replying r) id where
  announced := fun {data capacity s n s1} h => by
    have e : replying r (.transmit (directTransmit data) capacity) s =
        ((SCARD_S_SUCCESS, [SW1_SUCCESS, UInt8.ofNat r.length]), r) := by
      simp [replying, directTransmit, APDU_DIRECT_TRANSMIT]
    rw [e] at h
    cases h
    rw [UInt8.toNat_ofNat']
    exact (Nat.mod_eq_of_lt short).symm
  delivered := fun {n capacity s recv s1} _ h => by
    have e : replying r (.transmit (getResponse n) capacity) s =
        if s.length ≤ capacity then ((SCARD_S_SUCCESS, s), [])
        else ((SCARD_F_COMM_ERROR, []), s) := by
      simp [replying, getResponse, APDU_GET_RESPONSE, APDU_DIRECT_TRANSMIT]
    rw [e] at h
    split at h
    · cases h
      exact ⟨rfl, rfl⟩
    · cases h

/-- A poll for tags that finds none. -/
theorem apduSend_exchanges_poll :
    Exchanged (replying [0xD5, 0x4B, 0x00]) id APDU_POLL_MIFARE (fun _ => 0) RECV_BUFFER_SIZE [] :=
  (apduSend_exchanges (replying_keepsReply (by decide))).1 APDU_POLL_MIFARE rfl (by decide)

end TagEventor
