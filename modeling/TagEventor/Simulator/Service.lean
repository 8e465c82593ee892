import TagEventor.Simulator.Exchanges

/-!
# The reader that `pcscd` sees

With a card whose ATRs and replies are short, the handler serves `pcscd` like a reader in which the
card is (`session_serves`): each reply is the card's reply to that APDU in its present state. A call
fails only if the reader is off or the APDU too long, or if one of the system calls of that very
call of `pcscd` fails, is cut, or comes after the simulator has gone away. Then the reader is off
until the card is powered up again, and the card has got the APDU at most once. Other actions than
powering up, such as `IFD_POWER_DOWN` and `IFD_RESET`, do nothing and succeed.
-/

namespace TagEventor.Simulator
open Interact Stoppable
variable {σ : Type}

/-- The simulator has left the connection. -/
def World.gone (w : World σ) : Bool := w.connection.any Connection.gone

/-- A system call fails, or does not get through what it is to write or what there is to read, or
the simulator goes away before it. -/
def Call.rough (q : Call) (w : World σ) : Bool :=
  (w.choices 0).dies ||
    match q with
    | .write _ bytes => (w.choices 0).amount < bytes.length
    | .read fd count =>
      (w.behind fd).any fun c => (w.choices 0).amount < min count c.pending.length
    | .close _ => false
    | .exit _ => false
    | _ => (w.choices 0).amount = 0

/-- What goes wrong in a call of `pcscd`: the simulator had gone away before it, or one of its
system calls is a rough one. -/
structure Trouble where
  gone : Bool
  rough : Bool
deriving DecidableEq

/-- A reader, and its card. -/
structure Reader (σ : Type) where
  on : Bool
  card : σ

/-- What a reader may reply to a call, by what goes wrong in it, and its state afterwards. -/
inductive Serves (card : Card σ) (t : Trouble) :
    Reader σ → Request → Reply → Reader σ → Prop where
  | channel {r} :
    Serves card t r .createChannel ⟨IFD_SUCCESS, none⟩ ⟨true, (card.reset r.card).2⟩
  | noChannel {r s} :
    t.rough = true →
    s = r.card ∨ s = (card.reset r.card).2 →
    Serves card t r .createChannel ⟨IFD_SUCCESS, none⟩ ⟨false, s⟩
  | closeChannel {r} :
    Serves card t r .closeChannel ⟨IFD_SUCCESS, none⟩ r
  | powered {r} :
    Serves card t r (.powerICC IFD_POWER_UP) ⟨IFD_SUCCESS, some (card.reset r.card).1⟩
      ⟨true, (card.reset r.card).2⟩
  | notPowered {r s} :
    t.rough = true →
    s = r.card ∨ s = (card.reset r.card).2 →
    Serves card t r (.powerICC IFD_POWER_UP) ⟨IFD_COMMUNICATION_ERROR, some []⟩ ⟨false, s⟩
  /-- `IFD_POWER_DOWN`, `IFD_RESET` or any other action -/
  | otherAction {r Action} :
    Action ≠ IFD_POWER_UP →
    Serves card t r (.powerICC Action) ⟨IFD_SUCCESS, none⟩ r
  | answered {s apdu} :
    Serves card t ⟨true, s⟩ (.transmitToICC apdu) ⟨IFD_SUCCESS, some (card.answer apdu s).1⟩
      ⟨true, (card.answer apdu s).2⟩
  | refused {r apdu} :
    r.on = false ∨ 256 ≤ apdu.length →
    Serves card t r (.transmitToICC apdu) ⟨IFD_COMMUNICATION_ERROR, none⟩ ⟨false, r.card⟩
  | unanswered {s s' apdu} :
    t.gone = true ∨ t.rough = true →
    s' = s ∨ apdu.length < 256 ∧ s' = (card.answer apdu s).2 →
    Serves card t ⟨true, s⟩ (.transmitToICC apdu) ⟨IFD_COMMUNICATION_ERROR, none⟩ ⟨false, s'⟩
  | present {s} :
    Serves card t ⟨true, s⟩ .iccPresence ⟨IFD_ICC_PRESENT, none⟩ ⟨true, s⟩
  | appeared {s} :
    Serves card t ⟨false, s⟩ .iccPresence ⟨IFD_ICC_PRESENT, none⟩ ⟨true, (card.reset s).2⟩
  | gone {s} :
    t.gone = true ∨ t.rough = true →
    Serves card t ⟨true, s⟩ .iccPresence ⟨IFD_ICC_NOT_PRESENT, none⟩ ⟨false, s⟩
  | absent {s s'} :
    t.rough = true →
    s' = s ∨ s' = (card.reset s).2 →
    Serves card t ⟨false, s⟩ .iccPresence ⟨IFD_ICC_NOT_PRESENT, none⟩ ⟨false, s'⟩

/-- The replies to some calls, one after the other, by what goes wrong in each of them. -/
inductive ServesAll (card : Card σ) :
    Reader σ → List Request → List Trouble → List Reply → Reader σ → Prop where
  | nil {r} :
    ServesAll card r [] [] [] r
  | cons {r r' r'' t troubles request requests reply replies} :
    Serves card t r request reply r' →
    ServesAll card r' requests troubles replies r'' →
    ServesAll card r (request :: requests) (t :: troubles) (reply :: replies) r''

/-- What goes wrong in the first call of `pcscd`. -/
def trouble (card : Card σ) (j : Jcop) (w : World σ) (request : Request) : Trouble :=
  ⟨w.gone, (serve j request).run.hits Call.rough (kernel card) w⟩

/-- What goes wrong in each call, one after the other. -/
def troubles (card : Card σ) : Jcop → World σ → List Request → List Trouble
  | _, _, [] => []
  | j, w, request :: requests =>
    trouble card j w request ::
      match (serve j request).run.run (kernel card) w with
      | (some (_, j), w) => troubles card j w requests
      | (none, _) => []

/-- The handler is as the reader is. -/
inductive Ready (j : Jcop) (w : World σ) : Reader σ → Prop where
  | on {s} :
    0 ≤ j.JCOP_socket →
    w.Connected j.JCOP_socket [] [] s →
    Ready j w ⟨true, s⟩
  | off {s} :
    j.JCOP_socket < 0 →
    w.Idle s →
    Ready j w ⟨false, s⟩

/-- The ATRs fit into `JCOP_atr`, and the length of a reply into one byte. -/
structure Card.Short (card : Card σ) : Prop where
  reset : ∀ s, (card.reset s).1.length ≤ MAX_ATR_SIZE
  answer : ∀ apdu s, (card.answer apdu s).1.length < 256

variable {card : Card σ} {w : World σ} {s : σ} {j : Jcop} {r : Reader σ}

/-- How powering up ends. -/
inductive Powers (card : Card σ) (s : σ) : Int × Jcop → World σ → Prop where
  | up {j' w'} :
    0 ≤ j'.JCOP_socket →
    w'.Connected j'.JCOP_socket [] [] (card.reset s).2 →
    (List.range j'.JCOP_atrl).map j'.JCOP_atr = (card.reset s).1 →
    Powers card s (IFD_SUCCESS, j') w'
  | down {ret j' w' s'} :
    ret ≠ IFD_SUCCESS →
    j'.JCOP_socket < 0 →
    w'.Idle s' →
    s' = s ∨ s' = (card.reset s).2 →
    Powers card s (ret, j') w'

/-- The simulator answers the request by the ATR. -/
lemma respond_atrRequest : card.respond atrRequest s =
    (frame 0x0 (card.reset s).1, (card.reset s).2) := if_pos rfl

/-- The connection is given up while the card is powered up. -/
lemma giveError_powers {j' : Jcop} {w' : World σ} {s' : σ} (h : w'.card = s')
    (done : s' = s ∨ s' = (card.reset s).2) :
    Returns (kernel card) (Powers card s) j'.giveError w' := by
  refine Returns.bind (jcop_close_returns h) ?_
  rintro j' w' ⟨closed, idle⟩
  refine returns_pure.2 (.down (by decide) ?_ idle done)
  rw [closed]
  decide

/-- Powering up without a socket ends in one of these ways. -/
lemma jcop_power_up_open_powers (short : card.Short) (idle : w.Idle s) :
    Returns (kernel card) (Powers card s) (jcop_power_up.open j) w := by
  refine Returns.ask_bind (fun a w => a.ret < 0 ∧ w.Idle s ∨ 0 ≤ a.ret ∧ w.Opened a.ret s)
    (kernel_socket idle) ?_
  intro a w1 socket
  dsimp only
  rcases socket with ⟨failed, idle⟩ | ⟨nonneg, opened⟩
  · rw [if_pos failed]
    exact returns_pure.2 (.down (by decide) failed idle (.inl rfl))
  rw [if_neg (Int.not_lt.2 nonneg)]
  refine Returns.ask_bind (fun _ w => w.Opened a.ret s) opened.chosen ?_
  intro hostinfo w2 opened
  split
  next =>
    refine Returns.bind (jcop_close_returns opened.card) ?_
    intro _ w3 _
    exact Returns.ask_bind (fun _ _ => True) trivial fun _ _ _ => returns_failure
  refine Returns.ask_bind (fun c w => c.ret < 0 ∧ w.Opened a.ret s ∨
    0 ≤ c.ret ∧ w.Connected a.ret [] [] s) (kernel_connect opened) ?_
  intro c w3 connect
  rcases connect with ⟨failed, opened⟩ | ⟨connected, ready⟩
  · rw [if_pos failed]
    exact giveError_powers opened.card (.inl rfl)
  rw [if_neg (Int.not_lt.2 connected)]
  have request {j : Jcop} : (j.fill 0 atrRequest).bytes 0 8 = atrRequest := bytes_fill
  rw [request]
  refine Returns.ask_bind _ (kernel_write (by rfl) ready) ?_
  intro b w4 sends
  split
  next =>
    cases sends with
    | lost _ lost => exact giveError_powers lost.card (.inl rfl)
    | answered _ _ _ answered =>
      rw [respond_atrRequest] at answered
      exact giveError_powers answered.card (.inr rfl)
  next =>
    cases sends with
    | lost _ lost =>
      refine Returns.bind (jcop_read_gets lost) ?_
      rintro ⟨ret, j1⟩ w5 gets
      cases gets with
      | got cut => cases cut
      | failed closed idle =>
        dsimp only
        rw [if_pos (by decide)]
        refine returns_pure.2 (.down (by decide) ?_ idle (.inl rfl))
        rw [closed]
        decide
    | answered _ _ _ answered =>
      rw [respond_atrRequest] at answered
      refine Returns.bind (jcop_read_gets answered) ?_
      rintro ⟨ret, j1⟩ w5 gets
      dsimp only
      rcases gets.of_frame with ⟨rfl, closed, idle⟩ | ⟨k, rfl, part, whole, _, same, bytes, rest⟩
      · rw [if_pos (by decide)]
        refine returns_pure.2 (.down (by decide) ?_ idle (.inr rfl))
        change j1.JCOP_socket = -1 at closed
        rw [closed]
        decide
      · have max : MAX_ATR_SIZE = 33 := rfl
        have atr := short.reset s
        obtain rfl := whole.2 (by omega)
        have count : ((4 : Int) + (card.reset s).1.length - 4).toNat = (card.reset s).1.length := by
          omega
        dsimp only at bytes same
        rw [List.take_length] at bytes
        rw [List.drop_length] at rest
        rw [if_neg (by omega), count, if_neg (Nat.not_lt.2 atr)]
        refine returns_pure.2 (.up ?_ ?_ ?_)
        · show 0 ≤ j1.JCOP_socket
          rw [same]
          exact nonneg
        · show w5.Connected j1.JCOP_socket _ _ _
          rw [same]
          exact rest
        · rw [bytes]
          have stored := @Memory.holds_store _ j1.JCOP_atr ⟨0, (card.reset s).1⟩
          exact range_of_holds stored

/-- The card is powered up, or it is not and something went wrong. -/
lemma jcop_power_up_powers (short : card.Short) (ready : Ready j w r) :
    Returns (kernel card) (Powers card r.card) (jcop_power_up j) w := by
  unfold jcop_power_up
  cases ready with
  | on opened connected =>
    rw [if_pos opened]
    refine Returns.bind (jcop_close_returns connected.card) ?_
    rintro j' w' ⟨_, idle⟩
    exact jcop_power_up_open_powers short idle
  | off closed idle =>
    rw [if_neg (Int.not_le.2 closed)]
    exact jcop_power_up_open_powers short idle

/-- The calls of the handler, if none of them is a rough one. -/
abbrev Smoothly {α : Type} (card : Card σ) (post : α → World σ → Prop) (p : Program α)
    (w : World σ) : Prop := Calmly Call.rough (kernel card) post p w

/-- The simulator does not go away before a call that is not rough. -/
lemma smooth_dies {q : Call} (smooth : q.rough w = false) : (w.choices 0).dies = false :=
  (Bool.or_eq_false_iff.1 smooth).1

/-- The simulator only goes away before a rough call. -/
lemma chosen_stays (stays : w.gone = false) (alive : (w.choices 0).dies = false) :
    w.chosen.gone = false := by
  unfold World.gone World.chosen at *
  rw [alive]
  cases e : w.connection with
  | none => rfl
  | some c =>
    rw [e] at stays
    show (c.gone || false) = false
    rw [Bool.or_false]
    exact stays

/-- The simulator at the other end is there. -/
lemma behind_stays {fd : Int} {c : Connection} (stays : w.gone = false)
    (behind : w.behind fd = some c) : c.gone = false := by
  unfold World.behind at behind
  split at behind
  · unfold World.gone at stays
    rw [behind] at stays
    exact stays
  · cases behind

/-- What is sent to the simulator does not make it go away. -/
lemma receive_gone {c : Connection} {sent : List BYTE} :
    (card.receive c sent s).1.gone = c.gone := by
  unfold Card.receive
  split
  · rfl
  split
  · rfl
  · rfl

/-- The simulator is still there after a call that is not rough. -/
lemma kernel_stays {q : Call} (smooth : q.rough w = false) (stays : w.gone = false) :
    (kernel card q w).2.gone = false := by
  have alive := chosen_stays stays (smooth_dies smooth)
  unfold kernel
  cases q with
  | gethostbyname => exact alive
  | close => rfl
  | exit => exact alive
  | socket =>
    dsimp only
    split
    · exact alive
    · exact alive
  | connect fd =>
    dsimp only
    split
    · exact alive
    · rfl
  | write fd bytes =>
    dsimp only
    split
    next => exact alive
    next c behind =>
      split
      · exact alive
      · exact receive_gone.trans (behind_stays alive behind)
  | read fd count =>
    dsimp only
    split
    next => exact alive
    next c behind =>
      split
      · exact alive
      split
      · exact alive
      · exact (behind_stays alive behind :)
  | select fd =>
    dsimp only
    split
    next => exact alive
    next =>
      split
      · exact alive
      · exact alive

/-- In a run without rough calls the simulator does not go away. -/
lemma run_stays {α : Type} {p : Prog Call Ans α}
    (smooth : p.hits Call.rough (kernel card) w = false) (stays : w.gone = false) :
    (p.run (kernel card) w).2.gone = false := by
  induction p generalizing w with
  | ret a => exact stays
  | ask q k ih =>
    obtain ⟨first, rest⟩ := Bool.or_eq_false_iff.1 smooth
    exact ih _ rest (kernel_stays first stays)

/-- What holds after a smooth run, and the simulator is still there. -/
lemma smooth_stays {α : Type} {post : α → World σ → Prop} {p : Program α}
    (h : Smoothly card post p w) (stays : w.gone = false) :
    Smoothly card (fun a w => post a w ∧ w.gone = false) p w := by
  intro smooth
  obtain ⟨a, e, done⟩ := h smooth
  exact ⟨a, e, done, run_stays smooth stays⟩

/-- There is a socket. -/
lemma socket_smooth (idle : w.Idle s) (smooth : Call.socket.rough w = false) :
    0 ≤ (kernel card .socket w).1.ret ∧
      (kernel card .socket w).2.Opened (kernel card .socket w).1.ret s := by
  rcases @kernel_socket _ card _ _ idle with ⟨failed, _⟩ | opened
  · have amount := of_decide_eq_false (Bool.or_eq_false_iff.1 smooth).2
    unfold kernel at failed
    obtain ⟨fd, e⟩ := Nat.exists_eq_succ_of_ne_zero amount
    rw [e] at failed
    exact absurd failed (Int.not_lt.2 (Int.natCast_nonneg fd))
  · exact opened

/-- The host is found. -/
lemma gethostbyname_smooth (smooth : Call.gethostbyname.rough w = false) :
    (kernel card .gethostbyname w).1.ret ≠ 0 := by
  have amount := of_decide_eq_false (Bool.or_eq_false_iff.1 smooth).2
  unfold kernel
  dsimp only
  rw [if_neg amount]
  decide

/-- The new connection is to a simulator that is there. -/
lemma connect_smooth {fd : Int} (opened : w.Opened fd s)
    (smooth : (Call.connect fd).rough w = false) :
    0 ≤ (kernel card (.connect fd) w).1.ret ∧
      (kernel card (.connect fd) w).2.Connected fd [] [] s ∧
      (kernel card (.connect fd) w).2.gone = false := by
  have amount := of_decide_eq_false (Bool.or_eq_false_iff.1 smooth).2
  unfold kernel
  dsimp only
  rw [if_neg (not_or.2 ⟨amount, not_not_intro opened.chosen.fd⟩)]
  exact ⟨Int.le_refl _, ⟨opened.fd, ⟨false, rfl⟩, opened.card⟩, rfl⟩

/-- A message is sent as a whole. -/
lemma write_smooth {fd : Int} {message : List BYTE} (whole : complete message = true)
    (h : w.Connected fd [] [] s) (stays : w.gone = false)
    (smooth : (Call.write fd message).rough w = false) :
    0 ≤ (kernel card (.write fd message) w).1.ret ∧
      (kernel card (.write fd message) w).2.Connected fd [] (card.respond message s).1
        (card.respond message s).2 ∧
      (kernel card (.write fd message) w).2.gone = false := by
  have there := @kernel_stays _ card _ _ smooth stays
  have sends := @kernel_write _ card _ _ _ _ whole h
  obtain ⟨alive, amount⟩ := Bool.or_eq_false_iff.1 smooth
  generalize kernel card (.write fd message) w = x at sends there ⊢
  obtain ⟨a, w'⟩ := x
  cases sends with
  | answered written _ _ connected => exact ⟨written, connected, there⟩
  | lost lost =>
    refine absurd ⟨⟨fun c e => ?_, alive⟩, Nat.not_lt.1 (of_decide_eq_false amount)⟩ lost
    unfold World.gone at stays
    rw [e] at stays
    exact stays

/-- Nothing can be read, as nothing was sent and the simulator is there. -/
lemma select_smooth {fd : Int} (h : w.Connected fd [] [] s) (stays : w.gone = false)
    (smooth : (Call.select fd).rough w = false) : (kernel card (.select fd) w).1.ret = 0 := by
  have amount := of_decide_eq_false (Bool.or_eq_false_iff.1 smooth).2
  have alive := chosen_stays stays (smooth_dies smooth)
  obtain ⟨gone, behind⟩ := h.chosen.behind
  have there : gone = false := behind_stays alive behind
  unfold kernel
  dsimp only
  rw [behind]
  dsimp only
  rw [if_neg amount, there, if_neg (by decide)]

/-- A frame with a short payload is read. -/
lemma jcop_read_smooth {received : List BYTE} {tag : BYTE} {payload : List BYTE}
    (h : w.Connected j.JCOP_socket received (frame tag payload) s)
    (short : payload.length < 256) :
    Smoothly card (fun r _ => r.1 = 4 + (payload.length : Int)) (jcop_read j tag) w := by
  intro smooth
  obtain ⟨first, _⟩ := Bool.or_eq_false_iff.1 smooth
  obtain ⟨_, amount⟩ := Bool.or_eq_false_iff.1 first
  obtain ⟨gone, behind⟩ := h.behind
  have bufsz : JCOP_BUFSZ = 1024 := rfl
  dsimp only at amount
  rw [behind, Option.any_some, decide_eq_false_iff_not, length_frame] at amount
  exact jcop_read_arrives h short (.inl (by omega))

/-- The card is powered up, and the simulator is still there. -/
lemma jcop_power_up_open_smooth (short : card.Short) (idle : w.Idle s) :
    Smoothly card (fun x w => x.1 = IFD_SUCCESS ∧ w.gone = false) (jcop_power_up.open j) w := by
  have max : MAX_ATR_SIZE = 33 := rfl
  refine Calmly.ask_bind (fun a w => 0 ≤ a.ret ∧ w.Opened a.ret s) (socket_smooth idle) ?_
  rintro a w1 ⟨nonneg, opened⟩
  dsimp only
  rw [if_neg (Int.not_lt.2 nonneg)]
  refine Calmly.ask_bind (fun b w => b.ret ≠ 0 ∧ w.Opened a.ret s)
    (fun smooth => ⟨gethostbyname_smooth smooth, opened.chosen⟩) ?_
  rintro hostinfo w2 ⟨found, opened⟩
  rw [if_neg found]
  refine Calmly.ask_bind (fun c w => 0 ≤ c.ret ∧ w.Connected a.ret [] [] s ∧ w.gone = false)
    (connect_smooth opened) ?_
  rintro c w3 ⟨connected, ready, stays⟩
  have request {j : Jcop} : (j.fill 0 atrRequest).bytes 0 8 = atrRequest := bytes_fill
  rw [if_neg (Int.not_lt.2 connected), request]
  refine Calmly.ask_bind (fun b w => 0 ≤ b.ret ∧ w.Connected a.ret []
    (card.respond atrRequest s).1 (card.respond atrRequest s).2 ∧ w.gone = false)
    (write_smooth (by rfl) ready stays) ?_
  rintro b w4 ⟨written, answered, stays⟩
  rw [respond_atrRequest] at answered
  rw [if_neg (Int.not_lt.2 written)]
  have atr := short.reset s
  refine Calmly.bind (smooth_stays (jcop_read_smooth answered (by omega)) stays) ?_
  rintro ⟨ret, j1⟩ w5 ⟨got, stays⟩
  dsimp only at got ⊢
  rw [if_neg (by omega), if_neg (by omega)]
  exact calmly_pure ⟨rfl, stays⟩

/-- The card is powered up, and the simulator is still there. -/
lemma jcop_power_up_smooth (short : card.Short) (ready : Ready j w r) :
    Smoothly card (fun x w => x.1 = IFD_SUCCESS ∧ w.gone = false) (jcop_power_up j) w := by
  unfold jcop_power_up
  cases ready with
  | on opened connected =>
    rw [if_pos opened]
    refine Calmly.ask_bind (fun _ w => w.Idle _) (fun _ => kernel_close connected.card) ?_
    intro _ w' idle
    exact jcop_power_up_open_smooth short idle
  | off closed idle =>
    rw [if_neg (Int.not_le.2 closed)]
    exact jcop_power_up_open_smooth short idle

/-- A short APDU gets a reply. -/
lemma transmit_smooth {apdu : List BYTE} (short : card.Short) (opened : 0 ≤ j.JCOP_socket)
    (connected : w.Connected j.JCOP_socket [] [] s) (stays : w.gone = false)
    (fits : apdu.length < 256) :
    Smoothly card (fun x _ => x.1.code = IFD_SUCCESS) (IFDHTransmitToICC j apdu) w := by
  unfold IFDHTransmitToICC
  dsimp only
  rw [if_neg (Int.not_lt.2 opened), if_neg (Nat.not_le.2 fits)]
  change Smoothly _ _ (ask (Call.write _ ((j.fill 0 (frame 0x1 apdu)).bytes 0 _)) >>= _) _
  rw [message_sent]
  refine Calmly.ask_bind (fun a w => 0 ≤ a.ret ∧ w.Connected j.JCOP_socket []
    (card.respond (frame 0x1 apdu) s).1 (card.respond (frame 0x1 apdu) s).2 ∧ w.gone = false)
    (write_smooth (complete_frame fits) connected stays) ?_
  rintro a w1 ⟨written, answered, _⟩
  rw [respond_apdu] at answered
  rw [if_neg (Int.not_lt.2 written)]
  refine Calmly.bind (jcop_read_smooth answered (short.answer apdu s)) ?_
  rintro ⟨ret, j1⟩ w2 got
  dsimp only at got ⊢
  rw [if_neg (by omega)]
  exact calmly_pure rfl

/-- The card is present. -/
lemma check_smooth (opened : 0 ≤ j.JCOP_socket) (connected : w.Connected j.JCOP_socket [] [] s)
    (stays : w.gone = false) :
    Smoothly card (fun x _ => x.1 = ⟨IFD_ICC_PRESENT, none⟩) (IFDHICCPresence.check j) w := by
  unfold IFDHICCPresence.check
  split
  next =>
    refine Calmly.ask_bind (fun a _ => a.ret = 0) (select_smooth connected stays) ?_
    intro a w1 nothing
    rw [nothing, if_neg (by decide), if_neg (by decide)]
    exact calmly_pure rfl
  next =>
    rw [if_neg (Int.not_lt.2 opened)]
    exact calmly_pure rfl

/-- The reply and the states after a call. -/
def Served (card : Card σ) (t : Trouble) (r : Reader σ) (request : Request) (reply : Reply × Jcop)
    (w : World σ) : Prop :=
  ∃ r', Serves card t r request reply.1 r' ∧ Ready reply.2 w r'

/-- How powering up ends, and that it does not fail by itself. -/
lemma jcop_power_up_ends (short : card.Short) (ready : Ready j w r) :
    Returns (kernel card) (fun x w' => (x.1 = IFD_SUCCESS ∧ w'.gone = false ∨
      (jcop_power_up j).run.hits Call.rough (kernel card) w = true) ∧ Powers card r.card x w')
      (jcop_power_up j) w :=
  (jcop_power_up_smooth short ready).returns.and (jcop_power_up_powers short ready)

/-- A reader is opened. -/
lemma createChannel_served (short : card.Short) (ready : Ready j w r) :
    Returns (kernel card) (Served card (trouble card j w .createChannel) r .createChannel)
      (IFDHCreateChannel j) w := by
  refine Returns.bind (jcop_power_up_ends short ready) ?_
  rintro ⟨ret, j'⟩ w' ⟨ends, powers⟩
  refine returns_pure.2 ?_
  cases powers with
  | up opened connected _ => exact ⟨_, .channel, .on opened connected⟩
  | down failed closed idle done =>
    have rough := ends.resolve_left fun up => failed up.1
    exact ⟨_, .noChannel (hits_of_bind rough) done, .off closed idle⟩

/-- The card is powered up, or nothing is done. -/
lemma powerICC_served {Action : Nat} (short : card.Short) (ready : Ready j w r) :
    Returns (kernel card) (Served card (trouble card j w (.powerICC Action)) r (.powerICC Action))
      (IFDHPowerICC j Action) w := by
  by_cases up : Action = IFD_POWER_UP
  · subst up
    refine Returns.bind (jcop_power_up_ends short ready) ?_
    rintro ⟨ret, j'⟩ w' ⟨ends, powers⟩
    dsimp only
    cases powers with
    | up opened connected atr =>
      rw [if_pos rfl, atr]
      exact returns_pure.2 ⟨_, .powered, .on opened connected⟩
    | down failed closed idle done =>
      rw [if_neg failed]
      have rough := ends.resolve_left fun up => failed up.1
      exact returns_pure.2 ⟨_, .notPowered (hits_of_bind rough) done, .off closed idle⟩
  · unfold IFDHPowerICC
    rw [if_neg up]
    exact returns_pure.2 ⟨r, .otherAction up, ready⟩

/-- A short APDU gets a reply, unless something goes wrong. -/
lemma transmit_ends {apdu : List BYTE} (short : card.Short) (opened : 0 ≤ j.JCOP_socket)
    (connected : w.Connected j.JCOP_socket [] [] s) :
    Returns (kernel card) (fun x _ => x.1.code = IFD_SUCCESS ∨ 256 ≤ apdu.length ∨
      (trouble card j w (.transmitToICC apdu)).gone = true ∨
      (trouble card j w (.transmitToICC apdu)).rough = true) (IFDHTransmitToICC j apdu) w := by
  by_cases fits : apdu.length < 256
  · cases there : w.gone with
    | true => exact fun _ _ => .inr (.inr (.inl there))
    | false =>
      exact (transmit_smooth short opened connected there fits).returns.mono fun _ _ =>
        Or.imp_right fun rough => .inr (.inr rough)
  · exact fun _ _ => .inr (.inl (Nat.not_lt.1 fits))

/-- An APDU gets its reply, or the reader is off. -/
lemma transmitToICC_served {apdu : List BYTE} (short : card.Short) (ready : Ready j w r) :
    Returns (kernel card)
      (Served card (trouble card j w (.transmitToICC apdu)) r (.transmitToICC apdu))
      (IFDHTransmitToICC j apdu) w := by
  cases ready with
  | @on s opened connected =>
    refine ((transmit_ends short opened connected).and (transmit_returns opened connected)).mono ?_
    rintro _ w' ⟨ends, transmits⟩
    cases transmits with
    | failed closed idle done =>
      have negative : (-1 : Int) < 0 := by decide
      rw [← closed] at negative
      rcases ends with success | long | wrong
      · cases success
      · obtain rfl := done.resolve_right fun done => absurd done.1 (Nat.not_lt.2 long)
        exact ⟨_, .refused (.inr long), .off negative idle⟩
      · exact ⟨_, .unanswered wrong done, .off negative idle⟩
    | @replied k j' w' sent part whole arrives same rest =>
      obtain rfl := whole.2 (short.answer apdu s)
      rw [List.take_length]
      rw [List.drop_length] at rest
      rw [← same] at opened rest
      exact ⟨_, .answered, .on opened rest⟩
  | off closed idle =>
    unfold IFDHTransmitToICC
    dsimp only
    rw [if_pos closed]
    exact returns_pure.2 ⟨_, .refused (.inl rfl), .off closed idle⟩

/-- The card stays present, or the reader is off. -/
def Checked (on : Bool) (s : σ) (reply : Reply × Jcop) (w : World σ) : Prop :=
  on = true ∧ reply.1 = ⟨IFD_ICC_PRESENT, none⟩ ∧ Ready reply.2 w ⟨true, s⟩ ∨
    reply.1 = ⟨IFD_ICC_NOT_PRESENT, none⟩ ∧ Ready reply.2 w ⟨false, s⟩

/-- Nothing is pending between the calls, so that what can be read is the end of the connection. -/
lemma check_checked {on : Bool} (ready : Ready j w ⟨on, s⟩) :
    Returns (kernel card) (Checked on s) (IFDHICCPresence.check j) w := by
  unfold IFDHICCPresence.check
  cases ready with
  | off closed idle =>
    rw [if_neg (by omega), if_pos closed]
    exact returns_pure.2 (.inr ⟨rfl, .off closed idle⟩)
  | on opened connected =>
    have gone {j' : Jcop} {w' : World σ} (h : w'.card = s) :
        Returns (kernel card) (Checked true s)
          (do let j' ← jcop_close j'; return (⟨IFD_ICC_NOT_PRESENT, none⟩, j')) w' := by
      refine Returns.bind (jcop_close_returns h) ?_
      rintro j' w' ⟨closed, idle⟩
      refine returns_pure.2 (.inr ⟨rfl, .off ?_ idle⟩)
      rw [closed]
      decide
    split
    next =>
      refine Returns.ask_bind (fun _ w => w.Connected _ _ _ _) (kernel_select connected) ?_
      intro a w1 connected
      split
      next => exact gone connected.card
      split
      next =>
        refine Returns.ask_bind _ (kernel_read connected) ?_
        intro b w2 receives
        cases receives with
        | nothing none _ connected =>
          dsimp only
          rw [if_pos none]
          exact gone connected.card
        | part _ some => exact absurd List.take_nil some
      next => exact returns_pure.2 (.inl ⟨rfl, rfl, .on opened connected⟩)
    next =>
      rw [if_neg (Int.not_lt.2 opened)]
      exact returns_pure.2 (.inl ⟨rfl, rfl, .on opened connected⟩)

/-- A card that was powered up is present. -/
lemma iccPresence_off_smooth (short : card.Short) (closed : j.JCOP_socket < 0) (idle : w.Idle s) :
    Smoothly card (fun x _ => x.1 = ⟨IFD_ICC_PRESENT, none⟩) (IFDHICCPresence j) w := by
  unfold IFDHICCPresence
  rw [if_pos closed]
  refine Calmly.bind ((jcop_power_up_smooth short (.off closed idle)).and
    (jcop_power_up_powers short (.off closed idle))) ?_
  rintro ⟨ret, j1⟩ w1 ⟨⟨success, stays⟩, powers⟩
  cases powers with
  | up opened connected _ => exact check_smooth opened connected stays
  | down failed => exact absurd success failed

/-- The card is present, or the reader is off. -/
lemma iccPresence_served (short : card.Short) (ready : Ready j w r) :
    Returns (kernel card) (Served card (trouble card j w .iccPresence) r .iccPresence)
      (IFDHICCPresence j) w := by
  have differ : (⟨IFD_ICC_NOT_PRESENT, none⟩ : Reply) ≠ ⟨IFD_ICC_PRESENT, none⟩ := by decide
  cases ready with
  | @on s opened connected =>
    have unfolded : IFDHICCPresence j = IFDHICCPresence.check j := if_neg (Int.not_lt.2 opened)
    have ends : Returns (kernel card) (fun x _ => x.1 = ⟨IFD_ICC_PRESENT, none⟩ ∨
        (trouble card j w .iccPresence).gone = true ∨
        (trouble card j w .iccPresence).rough = true) (IFDHICCPresence j) w := by
      cases there : w.gone with
      | true => exact fun _ _ => .inr (.inl there)
      | false =>
        have smooth := @check_smooth _ card _ _ _ opened connected there
        rw [← unfolded] at smooth
        exact smooth.returns.mono fun _ _ => Or.imp_right .inr
    have checked := @check_checked _ card _ _ _ _ (.on opened connected)
    rw [← unfolded] at checked
    refine (ends.and checked).mono ?_
    rintro ⟨reply, j'⟩ w' ⟨ends, ⟨_, rfl, ready⟩ | ⟨rfl, ready⟩⟩
    · exact ⟨_, .present, ready⟩
    · exact ⟨_, .gone (ends.resolve_left differ), ready⟩
  | @off s closed idle =>
    have ends := (iccPresence_off_smooth short closed idle).returns
    have checked : Returns (kernel card) (fun x w =>
        x.1 = ⟨IFD_ICC_PRESENT, none⟩ ∧ Ready x.2 w ⟨true, (card.reset s).2⟩ ∨
          x.1 = ⟨IFD_ICC_NOT_PRESENT, none⟩ ∧ ∃ s', (s' = s ∨ s' = (card.reset s).2) ∧
            Ready x.2 w ⟨false, s'⟩) (IFDHICCPresence j) w := by
      unfold IFDHICCPresence
      rw [if_pos closed]
      refine Returns.bind (jcop_power_up_powers short (.off closed idle)) ?_
      rintro ⟨ret, j1⟩ w1 powers
      cases powers with
      | up opened connected _ =>
        refine (check_checked (.on opened connected)).mono ?_
        rintro ⟨reply, j'⟩ w' (⟨_, rfl, ready⟩ | ⟨rfl, ready⟩)
        · exact .inl ⟨rfl, ready⟩
        · exact .inr ⟨rfl, _, .inr rfl, ready⟩
      | @down _ _ _ s' _ closed idle done =>
        refine (check_checked (.off closed idle)).mono ?_
        rintro ⟨reply, j'⟩ w' (⟨on, _⟩ | ⟨rfl, ready⟩)
        · cases on
        · exact .inr ⟨rfl, s', done, ready⟩
    refine (ends.and checked).mono ?_
    rintro ⟨reply, j'⟩ w' ⟨ends, ⟨rfl, ready⟩ | ⟨rfl, s', done, ready⟩⟩
    · exact ⟨_, .appeared, ready⟩
    · exact ⟨_, .absent (ends.resolve_left differ) done, ready⟩

/-- Every call is served. -/
lemma serve_served {request : Request} (short : card.Short) (ready : Ready j w r) :
    Returns (kernel card) (Served card (trouble card j w request) r request) (serve j request) w
    := by
  cases request with
  | createChannel => exact createChannel_served short ready
  | closeChannel => exact returns_pure.2 ⟨r, .closeChannel, ready⟩
  | powerICC Action => exact powerICC_served short ready
  | transmitToICC TxBuffer => exact transmitToICC_served short ready
  | iccPresence => exact iccPresence_served short ready

/-- All calls are served, one after the other. -/
lemma session_served {requests : List Request} (short : card.Short) (ready : Ready j w r) :
    Returns (kernel card) (fun replies w' => ∃ r',
      ServesAll card r requests (troubles card j w requests) replies.1 r' ∧
        Ready replies.2 w' r') (session j requests) w := by
  induction requests generalizing j w r with
  | nil => exact returns_pure.2 ⟨r, .nil, ready⟩
  | cons request requests ih =>
    refine Returns.bind_run ?_
    rintro ⟨reply, j1⟩ w1 ran
    obtain ⟨r1, serves, ready⟩ := serve_served short ready (reply, j1) (by rw [ran])
    rw [ran] at ready
    have first : troubles card j w (request :: requests) =
        trouble card j w request :: troubles card j1 w1 requests := by
      rw [troubles, ran]
    refine Returns.bind (ih ready) ?_
    rintro ⟨replies, j2⟩ w2 ⟨r2, all, ready⟩
    rw [first]
    exact returns_pure.2 ⟨r2, .cons serves all, ready⟩

/-- The replies to the calls of `pcscd` are those of a reader in which the card is, as long as the
handler does not exit: they only report a failure where something goes wrong. -/
theorem session_serves {requests replies} (short : card.Short) (idle : w.Idle s)
    (returned : ((session .init requests).run.run (kernel card) w).1 = some (replies, j)) :
    ∃ r, ServesAll card ⟨false, s⟩ requests (troubles card .init w requests) replies r := by
  obtain ⟨r, all, _⟩ := session_served short (.off (by decide) idle) _ returned
  exact ⟨r, all⟩

/-- The ATR and the replies of this card are short. -/
lemma countingCard_short : countingCard.Short where
  reset := fun _ => show 2 ≤ MAX_ATR_SIZE by decide
  answer := fun _ _ => show 3 < 256 by decide

/-- A card appears and gets an APDU, and nothing goes wrong. -/
theorem session_serves_counted :
    ∃ r, ServesAll countingCard ⟨false, 7⟩ [.iccPresence, .transmitToICC [0x00, 0xa4]]
      [⟨false, false⟩, ⟨false, false⟩]
      [⟨IFD_ICC_PRESENT, none⟩, ⟨IFD_SUCCESS, some [0, 0x90, 0x00]⟩] r :=
  @session_serves _ countingCard ⟨none, none, 7, fun _ => ⟨1000, false⟩⟩ 7 _
    [.iccPresence, .transmitToICC [0x00, 0xa4]] _ countingCard_short ⟨rfl, rfl, rfl⟩ rfl

end TagEventor.Simulator
