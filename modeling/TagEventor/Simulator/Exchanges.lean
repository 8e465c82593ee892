import TagEventor.Simulator.Network

/-!
# Exchanges with the simulator

What `jcop_read` makes of a stream: it takes the length of a frame from one byte only, and the frame
must come at once, or its header before the rest. The reply to an APDU reaches `pcscd` exactly then
(`transmit_delivers_iff`).
-/

namespace TagEventor.Simulator
open Interact Stoppable
variable {σ : Type} {card : Card σ} {w : World σ} {received pending : List BYTE} {s : σ}
  {j : Jcop} {tag : BYTE}

/-- What `jcop_read` takes for the length. -/
def announced (hi lo : BYTE) : Nat :=
  (hi.toBitVec.signExtend 32 &&& 0xff <<< 8).toNat + lo.toNat

/-- The length of a short payload is read as it was sent. -/
lemma announced_short {n : Nat} (short : n < 256) :
    announced (UInt8.ofNat (n / 256)) (UInt8.ofNat (n % 256)) = n := by
  rw [Nat.div_eq_of_lt short, Nat.mod_eq_of_lt short]
  show 0 + (UInt8.ofNat n).toNat = n
  rw [Nat.zero_add, UInt8.toNat_ofNat', Nat.mod_eq_of_lt short]

/-- The length of a long payload is mistaken, or more than the buffer holds. -/
lemma announced_eq {n : Nat}
    (same : n = announced (UInt8.ofNat (n / 256)) (UInt8.ofNat (n % 256)))
    (size : 4 + n ≤ JCOP_BUFSZ) : n < 256 := by
  rw [← Nat.not_le]
  intro long
  have bufsz : JCOP_BUFSZ = 1024 := rfl
  have hi : n / 256 = 1 ∨ n / 256 = 2 ∨ n / 256 = 3 := by omega
  have low : (UInt8.ofNat (n % 256)).toNat < 256 := UInt8.toNat_lt _
  have zero : announced (UInt8.ofNat (n / 256)) (UInt8.ofNat (n % 256)) =
      0 + (UInt8.ofNat (n % 256)).toNat := by
    rcases hi with hi | hi | hi <;> rw [hi] <;> rfl
  omega

/-- A frame comes at once, or its header before the rest. -/
def Arrives (choices : Nat → Choice) (n : Nat) : Prop :=
  4 + n ≤ (choices 0).amount ∨ (choices 0).amount = 4 ∧ n ≤ (choices 1).amount

/-- How `jcop_read` ends: the socket is closed, or there is a frame in the buffer. -/
inductive Gets (j : Jcop) (tag : BYTE) (received pending : List BYTE) (s : σ) (w : World σ) :
    Int × Jcop → World σ → Prop where
  | failed {j' w'} :
    j'.JCOP_socket = -1 →
    w'.Idle s →
    Gets j tag received pending s w (-1, j') w'
  | got {hi lo payload rest ret j' w'} :
    pending = [tag, 0, hi, lo] ++ payload ++ rest →
    payload.length = announced hi lo →
    4 + payload.length ≤ JCOP_BUFSZ →
    Arrives w.choices payload.length →
    j'.JCOP_socket = j.JCOP_socket →
    j'.bytes 4 payload.length = payload →
    w'.Connected j.JCOP_socket received rest s →
    ret = 4 + (payload.length : Int) →
    Gets j tag received pending s w (ret, j') w'

/-- The four bytes of a header. -/
lemma header_of_long {l : List BYTE} (long : 4 ≤ l.length) :
    ∃ b0 b1 hi lo payload, l = b0 :: b1 :: hi :: lo :: payload := by
  rcases l with _ | ⟨b0, _ | ⟨b1, _ | ⟨hi, _ | ⟨lo, payload⟩⟩⟩⟩
  case cons.cons.cons.cons => exact ⟨b0, b1, hi, lo, payload, rfl⟩
  all_goals exact absurd long (by simp)

/-- After a close there is no socket. -/
lemma jcop_close_returns {w' : World σ} (h : w'.card = s) :
    Returns (kernel card) (fun j' w => j'.JCOP_socket = -1 ∧ w.Idle s) (jcop_close j) w' := by
  refine Returns.ask_bind (fun _ w => w.Idle s) (kernel_close h) ?_
  intro _ w idle
  exact returns_pure.2 ⟨rfl, idle⟩

/-- The connection is given up. -/
lemma giveUp_gets {j' : Jcop} {w' : World σ} (h : w'.card = s) :
    Returns (kernel card) (Gets j tag received pending s w) j'.giveUp w' := by
  refine Returns.bind (jcop_close_returns h) ?_
  rintro j' w' ⟨closed, idle⟩
  exact returns_pure.2 (.failed closed idle)

/-- The header of a frame was read, and something must follow. -/
lemma outstanding_gets {j' : Jcop} {w' : World σ} {hi lo : BYTE} {rest : List BYTE}
    (same : j'.JCOP_socket = j.JCOP_socket) (h : w'.Connected j.JCOP_socket received rest s)
    (choices : w'.choices = fun i => w.choices (i + 1))
    (header : pending = [tag, 0, hi, lo] ++ rest) (more : rest ≠ [] → (w.choices 0).amount = 4)
    (some : announced hi lo ≠ 0) :
    Returns (kernel card) (Gets j tag received pending s w)
      (jcop_read.outstanding j' (announced hi lo)) w' := by
  rw [← same] at h
  refine Returns.ask_bind _ (kernel_read h) ?_
  intro r w2 receives
  cases receives with
  | nothing none _ connected =>
    dsimp only
    split
    next => exact giveUp_gets connected.card
    split
    next => exact giveUp_gets connected.card
    next nonneg whole => omega
  | @part n w2 size first _ connected =>
    have bufsz : JCOP_BUFSZ = 1024 := rfl
    have size' : n = min (w.choices 1).amount (JCOP_BUFSZ - 4) := by rwa [choices] at size
    have amount : (rest.take n).length ≤ (w.choices 1).amount ∧
        4 + (rest.take n).length ≤ JCOP_BUFSZ := by
      rw [List.length_take]
      omega
    have header_only : (w.choices 0).amount = 4 := by
      apply more
      rintro rfl
      exact first List.take_nil
    have cut : pending = [tag, 0, hi, lo] ++ rest.take n ++ rest.drop n := by
      rw [List.append_assoc, List.take_append_drop]
      exact header
    dsimp only
    split
    next => exact giveUp_gets connected.card
    split
    next => exact giveUp_gets connected.card
    next whole =>
      rw [not_not] at whole
      have payload := @bytes_of_holds (j'.fill 4 (rest.take n)) 4 _ fill_holds
      rw [same] at connected
      exact returns_pure.2 (.got cut (Int.natCast_inj.1 whole) amount.2
        (.inr ⟨header_only, amount.1⟩) same payload connected rfl)

/-- The two reads end in one of these ways. -/
lemma jcop_read_gets (h : w.Connected j.JCOP_socket received pending s) :
    Returns (kernel card) (Gets j tag received pending s w) (jcop_read j tag) w := by
  refine Returns.ask_bind _ (kernel_read h) ?_
  intro r w1 receives
  cases receives with
  | nothing none _ connected =>
    dsimp only
    rw [if_pos (by omega)]
    exact giveUp_gets connected.card
  | @part n w1 size some choices connected =>
    generalize bytes : pending.take n = first at *
    have cut : pending = first ++ pending.drop n := by
      rw [← bytes, List.take_append_drop]
    have taken : first.length = min n pending.length := by
      rw [← bytes, List.length_take]
    dsimp only
    split
    next => exact giveUp_gets connected.card
    next long =>
      obtain ⟨b0, b1, hi, lo, payload, rfl⟩ := header_of_long (show 4 ≤ first.length by omega)
      have holds := @fill_holds j 0 ([b0, b1, hi, lo] ++ payload)
      have header : (j.fill 0 (b0 :: b1 :: hi :: lo :: payload)).len = announced hi lo := rfl
      have length : (b0 :: b1 :: hi :: lo :: payload).length = 4 + payload.length := by
        rw [Nat.add_comm]
        rfl
      rw [length] at taken
      split
      next => exact giveUp_gets connected.card
      next tagged =>
        obtain ⟨is0, is1⟩ := not_or.1 tagged
        rw [not_not] at is0 is1
        obtain rfl : b0 = tag := is0
        obtain rfl : b1 = 0 := is1
        rw [header, length]
        split
        next whole =>
          have amount : 4 + payload.length ≤ (w.choices 0).amount ∧
              4 + payload.length ≤ JCOP_BUFSZ := by omega
          refine returns_pure.2 (.got cut ?_ amount.2 (.inl amount.1) rfl ?_ connected ?_)
          · omega
          · exact bytes_of_holds (Memory.holds_append.1 holds).2
          · omega
        next partly =>
          split
          next => exact giveUp_gets connected.card
          next only =>
            obtain rfl : payload = [] := List.eq_nil_of_length_eq_zero (by omega)
            rw [List.length_nil] at partly taken
            refine outstanding_gets rfl connected choices cut ?_ (by omega)
            -- more has come than was read
            intro more
            have less : n < pending.length := by
              rw [← Nat.not_le, ← List.drop_eq_nil_iff]
              exact more
            have bufsz : JCOP_BUFSZ = 1024 := rfl
            omega

/-- A frame has four bytes beside its payload. -/
lemma length_frame {payload : List BYTE} : (frame tag payload).length = 4 + payload.length := by
  unfold frame
  rw [List.length_append]
  rfl

/-- The rest of a frame comes in one piece. -/
lemma outstanding_arrives {payload : List BYTE}
    (h : w.Connected j.JCOP_socket received payload s) (some : payload ≠ [])
    (short : payload.length < 256) (amount : payload.length ≤ (w.choices 0).amount) :
    Gives (kernel card) (fun r _ => r.1 = 4 + (payload.length : Int))
      (jcop_read.outstanding j payload.length) w := by
  have positive : 0 < payload.length := List.length_pos_iff.2 some
  have bufsz : JCOP_BUFSZ = 1024 := rfl
  refine Gives.ask_bind _ (kernel_read h) ?_
  intro r w1 receives
  cases receives with
  | nothing _ none _ =>
    rcases none with none | none | none
    · omega
    · omega
    · exact absurd none some
  | @part n w1 size _ _ _ =>
    rw [List.take_of_length_le (show payload.length ≤ n by omega)]
    dsimp only
    rw [if_neg (by omega), if_neg (not_not_intro rfl)]
    exact gives_pure rfl

/-- A frame with a short payload is read, if it comes at once or after its header. -/
lemma jcop_read_arrives {payload : List BYTE}
    (h : w.Connected j.JCOP_socket received (frame tag payload) s)
    (short : payload.length < 256) (arrives : Arrives w.choices payload.length) :
    Gives (kernel card) (fun r _ => r.1 = 4 + (payload.length : Int)) (jcop_read j tag) w := by
  have bufsz : JCOP_BUFSZ = 1024 := rfl
  have length : (frame tag payload).length = 4 + payload.length := length_frame
  have announces : announced (UInt8.ofNat (payload.length / 256))
      (UInt8.ofNat (payload.length % 256)) = payload.length := announced_short short
  refine Gives.ask_bind _ (kernel_read h) ?_
  intro r w1 receives
  cases receives with
  | nothing _ none _ =>
    unfold Arrives at arrives
    rcases none with none | none | none
    · omega
    · omega
    · cases none
  | @part n w1 size _ choices connected =>
    by_cases whole : 4 + payload.length ≤ (w.choices 0).amount
    · rw [List.take_of_length_le (show (frame tag payload).length ≤ n by omega), length]
      have header : (j.fill 0 (frame tag payload)).len = payload.length := announces
      have tagged : ¬ ((j.fill 0 (frame tag payload)).JCOP_buffer 0 ≠ tag ∨
          (j.fill 0 (frame tag payload)).JCOP_buffer 1 ≠ 0) :=
        not_or.2 ⟨not_not_intro rfl, not_not_intro rfl⟩
      dsimp only
      rw [if_neg (by omega), if_neg tagged, header, if_pos (by omega)]
      exact gives_pure (by omega)
    · rcases arrives with arrives | ⟨header_only, rest⟩
      · exact absurd arrives whole
      obtain rfl : n = 4 := by omega
      have header : (j.fill 0 ((frame tag payload).take 4)).len = payload.length := announces
      have tagged : ¬ ((j.fill 0 ((frame tag payload).take 4)).JCOP_buffer 0 ≠ tag ∨
          (j.fill 0 ((frame tag payload).take 4)).JCOP_buffer 1 ≠ 0) :=
        not_or.2 ⟨not_not_intro rfl, not_not_intro rfl⟩
      have some : payload ≠ [] := by
        rintro rfl
        exact whole (Nat.le_of_eq header_only.symm)
      have positive : 0 < payload.length := List.length_pos_iff.2 some
      have four : (((frame tag payload).take 4).length : Int) = 4 := rfl
      have amount : payload.length ≤ (w1.choices 0).amount := by rwa [choices]
      dsimp only
      rw [four, if_neg (by omega), if_neg tagged, header, if_neg (by omega),
        if_neg (not_not_intro rfl)]
      exact outstanding_arrives connected some short amount

/-- What was read of a frame, if anything. -/
lemma Gets.of_frame {payload : List BYTE} {r : Int × Jcop} {w' : World σ}
    (h : Gets j tag received (frame tag payload) s w r w') :
    r.1 = -1 ∧ r.2.JCOP_socket = -1 ∧ w'.Idle s ∨ ∃ k : Nat, r.1 = 4 + (k : Int) ∧
      k ≤ payload.length ∧ (k = payload.length ↔ payload.length < 256) ∧ Arrives w.choices k ∧
      r.2.JCOP_socket = j.JCOP_socket ∧ r.2.bytes 4 k = payload.take k ∧
      w'.Connected j.JCOP_socket received (payload.drop k) s := by
  cases h with
  | failed closed idle => exact .inl ⟨rfl, closed, idle⟩
  | @got hi lo first rest ret j' w' cut length size arrives same bytes connected e =>
    have parts : hi = UInt8.ofNat (payload.length / 256) ∧
        lo = UInt8.ofNat (payload.length % 256) ∧ payload = first ++ rest := by
      unfold frame at cut
      rw [List.append_assoc] at cut
      obtain ⟨header, e⟩ := List.append_inj cut rfl
      cases header
      exact ⟨rfl, rfl, e⟩
    obtain ⟨rfl, rfl, e'⟩ := parts
    have taken : payload.take first.length = first := by rw [e', List.take_left' rfl]
    have left : payload.drop first.length = rest := by rw [e', List.drop_left' rfl]
    refine .inr ⟨first.length, e, ?_, ?_, arrives, same, ?_, ?_⟩
    · rw [e', List.length_append]
      exact Nat.le_add_right _ _
    · constructor
      · intro whole
        rw [whole] at length size
        exact announced_eq length size
      · intro short
        rw [length, announced_short short]
    · rw [taken]
      exact bytes
    · rw [left]
      exact connected

/-- The frame in the buffer is what `write` is asked to send. -/
lemma message_sent {apdu : List BYTE} :
    (j.fill 0 (frame 0x1 apdu)).bytes 0 (apdu.length + 4) = frame 0x1 apdu := by
  rw [Nat.add_comm, ← @length_frame 0x1]
  exact bytes_fill

/-- A frame with a short payload is a whole message. -/
lemma complete_frame {payload : List BYTE} (short : payload.length < 256) :
    complete (frame tag payload) = true := by
  have lo : (UInt8.ofNat (payload.length % 256)).toNat = payload.length := by
    rw [Nat.mod_eq_of_lt short, UInt8.toNat_ofNat', Nat.mod_eq_of_lt short]
  unfold complete
  rw [decide_eq_true_eq, length_frame]
  refine ⟨Nat.le_add_right _ _, ?_⟩
  show _ = 4 + 256 * (UInt8.ofNat (payload.length / 256)).toNat +
    (UInt8.ofNat (payload.length % 256)).toNat
  rw [Nat.div_eq_of_lt short, lo]
  rfl

/-- The simulator answers an APDU by the reply of its card. -/
lemma respond_apdu {apdu : List BYTE} : card.respond (frame 0x1 apdu) s =
    (frame 0x1 (card.answer apdu s).1, (card.answer apdu s).2) :=
  if_neg fun e => absurd (List.cons.inj e).1 (by decide)

/-- How the transmission of an APDU ends. -/
inductive Transmits (card : Card σ) (j : Jcop) (apdu : List BYTE) (s : σ) (w : World σ) :
    Reply × Jcop → World σ → Prop where
  | failed {j' w' s'} :
    j'.JCOP_socket = -1 →
    w'.Idle s' →
    s' = s ∨ apdu.length < 256 ∧ s' = (card.answer apdu s).2 →
    Transmits card j apdu s w (⟨IFD_COMMUNICATION_ERROR, none⟩, j') w'
  | replied {k j' w'} :
    apdu.length < 256 ∧ w.Alive ∧ 4 + apdu.length ≤ (w.choices 0).amount →
    k ≤ (card.answer apdu s).1.length →
    (k = (card.answer apdu s).1.length ↔ (card.answer apdu s).1.length < 256) →
    Arrives (fun i => w.choices (i + 1)) k →
    j'.JCOP_socket = j.JCOP_socket →
    w'.Connected j.JCOP_socket [] ((card.answer apdu s).1.drop k) (card.answer apdu s).2 →
    Transmits card j apdu s w (⟨IFD_SUCCESS, some ((card.answer apdu s).1.take k)⟩, j') w'

/-- If the entry point returns, then in one of these ways. -/
lemma transmit_returns {apdu : List BYTE} (opened : 0 ≤ j.JCOP_socket)
    (ready : w.Connected j.JCOP_socket [] [] s) :
    Returns (kernel card) (Transmits card j apdu s w) (IFDHTransmitToICC j apdu) w := by
  unfold IFDHTransmitToICC
  dsimp only
  rw [if_neg (Int.not_lt.2 opened)]
  split
  next long =>
    refine Returns.bind (jcop_close_returns ready.card) ?_
    rintro j' w' ⟨closed, idle⟩
    exact returns_pure.2 (.failed closed idle (.inl rfl))
  next short =>
    rw [ge_iff_le, Nat.not_le] at short
    change Returns _ _ (ask (Call.write _ ((j.fill 0 (frame 0x1 apdu)).bytes 0 _)) >>= _) _
    rw [message_sent]
    refine Returns.ask_bind _ (kernel_write (complete_frame short) ready) ?_
    intro a w1 sends
    have fails {j' : Jcop} {w' : World σ} {s' : σ} (h : w'.card = s')
        (done : s' = s ∨ s' = (card.answer apdu s).2) :
        Returns (kernel card) (Transmits card j apdu s w)
          (do let j' ← jcop_close j'; return (⟨IFD_COMMUNICATION_ERROR, none⟩, j')) w' := by
      refine Returns.bind (jcop_close_returns h) ?_
      rintro j' w' ⟨closed, idle⟩
      exact returns_pure.2 (.failed closed idle (done.imp_right fun e => ⟨short, e⟩))
    split
    next =>
      cases sends with
      | lost _ connected => exact fails connected.card (.inl rfl)
      | answered _ _ _ connected =>
        rw [respond_apdu] at connected
        exact fails connected.card (.inr rfl)
    next =>
      cases sends with
      | lost _ connected =>
        refine Returns.bind (jcop_read_gets connected) ?_
        rintro ⟨ret, j1⟩ w2 gets
        dsimp only
        cases gets with
        | got cut => cases cut
        | failed closed idle =>
          rw [if_pos (by decide)]
          exact returns_pure.2 (.failed closed idle (.inl rfl))
      | answered _ sent choices connected =>
        rw [respond_apdu] at connected
        refine Returns.bind (jcop_read_gets connected) ?_
        rintro ⟨ret, j1⟩ w2 gets
        dsimp only
        rcases gets.of_frame with
          ⟨rfl, closed, idle⟩ | ⟨k, rfl, part, whole, arrives, same, bytes, rest⟩
        · rw [if_pos (by decide)]
          exact returns_pure.2 (.failed closed idle (.inr ⟨short, rfl⟩))
        · have count : ((4 : Int) + k - 4).toNat = k := by omega
          dsimp only at bytes
          rw [choices] at arrives
          rw [if_neg (by omega), count, bytes]
          rw [length_frame] at sent
          exact returns_pure.2 (.replied ⟨short, sent⟩ part whole arrives same rest)

/-- Under these conditions the entry point returns a reply. -/
lemma transmit_gives {apdu : List BYTE} (opened : 0 ≤ j.JCOP_socket)
    (ready : w.Connected j.JCOP_socket [] [] s) (short : apdu.length < 256)
    (sent : w.Alive ∧ 4 + apdu.length ≤ (w.choices 0).amount)
    (replies : (card.answer apdu s).1.length < 256)
    (arrives : Arrives (fun i => w.choices (i + 1)) (card.answer apdu s).1.length) :
    Gives (kernel card) (fun r _ => ∃ bytes, r.1 = ⟨IFD_SUCCESS, some bytes⟩ ∧
      bytes.length = (card.answer apdu s).1.length) (IFDHTransmitToICC j apdu) w := by
  unfold IFDHTransmitToICC
  dsimp only
  rw [if_neg (Int.not_lt.2 opened), if_neg (Nat.not_le.2 short)]
  change Gives _ _ (ask (Call.write _ ((j.fill 0 (frame 0x1 apdu)).bytes 0 _)) >>= _) _
  rw [message_sent]
  refine Gives.ask_bind _ (kernel_write (complete_frame short) ready) ?_
  intro a w1 sends
  cases sends with
  | lost lost =>
    rw [length_frame] at lost
    exact absurd sent lost
  | answered written _ choices connected =>
    rw [respond_apdu] at connected
    rw [← choices] at arrives
    rw [if_neg (Int.not_lt.2 written)]
    refine Gives.bind (jcop_read_arrives connected replies arrives) ?_
    rintro ⟨ret, j1⟩ w2 e
    dsimp only at e ⊢
    rw [e, if_neg (by omega)]
    refine gives_pure ⟨_, rfl, ?_⟩
    unfold Jcop.bytes
    rw [List.length_map, List.length_range]
    omega

/-- The reply to an APDU reaches `pcscd` exactly if both are shorter than 256 bytes, the APDU is
sent as a whole while the simulator is there, and the reply comes at once or its header before the
rest. -/
theorem transmit_delivers_iff {apdu : List BYTE} (opened : 0 ≤ j.JCOP_socket)
    (ready : w.Connected j.JCOP_socket [] [] s) :
    (∃ j', ((IFDHTransmitToICC j apdu).run.run (kernel card) w).1 =
        some (⟨IFD_SUCCESS, some (card.answer apdu s).1⟩, j')) ↔
      (apdu.length < 256 ∧ w.Alive ∧ 4 + apdu.length ≤ (w.choices 0).amount) ∧
        (card.answer apdu s).1.length < 256 ∧
        Arrives (fun i => w.choices (i + 1)) (card.answer apdu s).1.length := by
  constructor
  · rintro ⟨j', e⟩
    have outcome := transmit_returns opened ready _ e
    generalize r : (_, j') = result at outcome
    cases outcome with
    | failed => cases r
    | @replied k _ _ sent part whole arrives _ _ =>
      have same : (card.answer apdu s).1 = (card.answer apdu s).1.take k :=
        Option.some.inj (congrArg (fun r => r.1.written) r)
      have length := congrArg List.length same
      rw [List.length_take_of_le part] at length
      rw [← length] at arrives
      exact ⟨sent, whole.1 length.symm, arrives⟩
  · rintro ⟨⟨short, sent⟩, replies, arrives⟩
    obtain ⟨⟨reply, j'⟩, e, ⟨bytes, rfl, length⟩, outcome⟩ :=
      (transmit_gives opened ready short sent replies arrives).and (transmit_returns opened ready)
    generalize r : (_, j') = result at outcome
    cases outcome with
    | failed => cases r
    | @replied k j2 _ _ part _ _ _ _ =>
      have same : bytes = (card.answer apdu s).1.take k :=
        Option.some.inj (congrArg (fun r => r.1.written) r)
      rw [same, List.length_take_of_le part] at length
      rw [same, length, List.take_length] at e
      exact ⟨j', e⟩

/-- A card that counts the APDUs since its reset. -/
def countingCard : Card Nat where
  reset := fun _ => ([0x3b, 0x00], 0)
  answer := fun _ n => ([UInt8.ofNat n, 0x90, 0x00], n + 1)

/-- An APDU is sent to a card that counts. -/
theorem transmit_delivers_counted :
    ∃ j', ((IFDHTransmitToICC { Jcop.init with JCOP_socket := 3 } [0x00, 0xa4]).run.run
      (kernel countingCard) ⟨some 3, some ⟨[], [], false⟩, 7, fun _ => ⟨1000, false⟩⟩).1 =
        some (⟨IFD_SUCCESS, some [7, 0x90, 0x00]⟩, j') :=
  (transmit_delivers_iff (by decide) ⟨rfl, ⟨false, rfl⟩, rfl⟩).2
    ⟨⟨by decide, ⟨fun _ e => by cases e; rfl, rfl⟩, by decide⟩, by decide, .inl (by decide)⟩

end TagEventor.Simulator
