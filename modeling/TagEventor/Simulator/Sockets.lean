import TagEventor.Simulator.Handler

/-!
# What the handler does with its sockets

The order of the system calls as a protocol: there is one socket at a time, which is connected,
asked for the ATR before anything else, and closed exactly once; afterwards each `write` is asked to
send a whole frame, with a payload of fewer than 256 bytes. A `write` counts by what it is asked to
send, not by the number it returns, of which the handler only looks at the sign. Every sequence of
calls of `pcscd` keeps to the protocol, whatever the system calls return (`session_obeys`), up to an
ATR that does not fit into `JCOP_atr`, at which the model stops; and between two calls `JCOP_socket`
is the socket that is open.
-/

namespace TagEventor.Simulator
open Interact Stoppable

/-- A message to the simulator, and its answer. -/
def frame (tag : BYTE) (payload : List BYTE) : List BYTE :=
  [tag, 0, UInt8.ofNat (payload.length / 256), UInt8.ofNat (payload.length % 256)] ++ payload

section
variable {j : Jcop} {start : Nat} {bytes bytes' : List BYTE}

/-- The bytes that the buffer holds. -/
lemma bytes_of_holds (h : Memory.Holds j.JCOP_buffer start bytes) :
    j.bytes start bytes.length = bytes := by
  unfold Jcop.bytes
  apply List.ext_getElem
  · rw [List.length_map, List.length_range]
  · intro i hi hi'
    rw [List.getElem_map, List.getElem_range]
    exact h i hi'

/-- The bytes that an array holds. -/
lemma range_of_holds {mem : Nat → BYTE} (h : Memory.Holds mem 0 bytes) :
    (List.range bytes.length).map mem = bytes := by
  apply List.ext_getElem
  · rw [List.length_map, List.length_range]
  · intro i hi hi'
    rw [List.getElem_map, List.getElem_range]
    have found := h i hi'
    rwa [Nat.zero_add] at found

/-- The buffer holds what was written last. -/
lemma fill_holds : Memory.Holds (j.fill start bytes).JCOP_buffer start bytes := Memory.holds_store

/-- What was written to the buffer is sent. -/
lemma bytes_fill : (j.fill start bytes).bytes start bytes.length = bytes :=
  bytes_of_holds fill_holds

end

/-- What has become of the socket. -/
inductive Stage where
  | closed
  | opened (fd : Int)
  | connected (fd : Int)
  /-- the ATR was asked for -/
  | started (fd : Int)

/-- What the handler may ask for at each stage, and the stage after the answer. A `write` that does
not fail counts as whole. -/
def socketProtocol : Protocol Stage Call Ans where
  allowed m
    | .socket => m = .closed
    | .gethostbyname => True
    | .connect fd => m = .opened fd
    | .write fd bytes =>
      m = .connected fd ∧ bytes = atrRequest ∨
        m = .started fd ∧ ∃ payload, payload.length < 256 ∧ bytes = frame 0x1 payload
    | .read fd _ => m = .started fd
    | .select fd => m = .started fd
    | .close fd => m = .opened fd ∨ m = .connected fd ∨ m = .started fd
    | .exit _ => m = .closed
  next m q a :=
    match q with
    | .socket => if a.ret < 0 then .closed else .opened a.ret
    | .connect fd => if a.ret < 0 then m else .connected fd
    | .write fd _ => if a.ret < 0 then m else .started fd
    | .close _ => .closed
    | _ => m

/-- What `JCOP_socket` says of the socket. -/
def Jcop.stage (j : Jcop) : Stage :=
  if j.JCOP_socket < 0 then .closed else .started j.JCOP_socket

/-- The stage at the end of a part of the handler is the one that `JCOP_socket` says. -/
def Tracked {α : Type} (p : Program (α × Jcop)) (m : Stage) : Prop :=
  Obeys socketProtocol (fun m r => m = r.2.stage) p m

variable {j : Jcop} {m : Stage} {α : Type}

/-- Without a socket the stage is `closed`. -/
lemma stage_closed (closed : j.JCOP_socket < 0) : j.stage = .closed := if_pos closed

/-- Between two calls a socket that is open was asked for the ATR. -/
lemma stage_started (opened : 0 ≤ j.JCOP_socket) : j.stage = .started j.JCOP_socket :=
  if_neg (Int.not_lt.2 opened)

/-- A socket that is open may be closed. -/
lemma jcop_close_obeys
    (opened : m = .opened j.JCOP_socket ∨ m = .connected j.JCOP_socket ∨
      m = .started j.JCOP_socket) :
    Obeys socketProtocol (fun m j => m = .closed ∧ j.stage = .closed) (jcop_close j) m := by
  apply Obeys.ask_bind
  · exact opened
  intro _
  exact obeys_pure.2 ⟨rfl, rfl⟩

/-- The socket is closed, and an error returned. -/
lemma close_tracked {a : α}
    (opened : m = .opened j.JCOP_socket ∨ m = .connected j.JCOP_socket ∨
      m = .started j.JCOP_socket) :
    Tracked (do let j ← jcop_close j; return (a, j)) m := by
  apply (jcop_close_obeys opened).bind
  rintro _ j ⟨rfl, closed⟩
  exact obeys_pure.2 closed.symm

/-- The connection may be given up. -/
lemma giveUp_tracked (opened : m = .started j.JCOP_socket) : Tracked j.giveUp m :=
  close_tracked (.inr (.inr opened))

/-- The second read is allowed. -/
lemma outstanding_tracked {len : Nat} (opened : 0 ≤ j.JCOP_socket) :
    Tracked (jcop_read.outstanding j len) (.started j.JCOP_socket) := by
  apply Obeys.ask_bind
  · exact rfl
  intro r
  dsimp only
  split
  next => exact giveUp_tracked rfl
  split
  next => exact giveUp_tracked rfl
  next => exact obeys_pure.2 (stage_started opened).symm

/-- The reads are allowed. -/
lemma jcop_read_tracked {tag : BYTE} (opened : 0 ≤ j.JCOP_socket) :
    Tracked (jcop_read j tag) (.started j.JCOP_socket) := by
  apply Obeys.ask_bind
  · exact rfl
  intro r
  dsimp only
  split
  next => exact giveUp_tracked rfl
  split
  next => exact giveUp_tracked rfl
  split
  next => exact obeys_pure.2 (stage_started opened).symm
  split
  next => exact giveUp_tracked rfl
  next => exact outstanding_tracked opened

/-- Powering up keeps to the protocol from the socket on. -/
lemma jcop_power_up_open_tracked : Tracked (jcop_power_up.open j) .closed := by
  apply Obeys.ask_bind
  · exact rfl
  intro r
  split
  next failed =>
    refine obeys_pure.2 ?_
    rw [stage_closed failed]
    exact if_pos failed
  next opened =>
    rw [show socketProtocol.next .closed .socket r = .opened r.ret from if_neg opened]
    rw [Int.not_lt] at opened
    apply Obeys.ask_bind
    · exact trivial
    intro hostinfo
    split
    next =>
      apply (jcop_close_obeys (.inl rfl)).bind
      rintro _ _ ⟨rfl, _⟩
      apply Obeys.ask_bind
      · exact rfl
      intro _
      exact obeys_failure
    apply Obeys.ask_bind
    · exact rfl
    intro c
    show Obeys _ _ _ (if c.ret < 0 then Stage.opened r.ret else .connected r.ret)
    split
    next => exact close_tracked (.inl rfl)
    next =>
      apply Obeys.ask_bind
      · exact .inl ⟨rfl, bytes_fill⟩
      intro w
      show Obeys _ _ _ (if w.ret < 0 then Stage.connected r.ret else .started r.ret)
      split
      next => exact close_tracked (.inr (.inl rfl))
      next =>
        apply Obeys.bind
        · exact jcop_read_tracked opened
        rintro _ ⟨ret, j⟩ rfl
        dsimp only
        split
        next => exact obeys_pure.2 rfl
        split
        next => exact obeys_failure
        next => exact obeys_pure.2 rfl

/-- Powering up keeps to the protocol. -/
lemma jcop_power_up_tracked : Tracked (jcop_power_up j) j.stage := by
  unfold jcop_power_up
  split
  next opened =>
    rw [stage_started opened]
    apply (jcop_close_obeys (.inr (.inr rfl))).bind
    rintro _ j ⟨rfl, _⟩
    exact jcop_power_up_open_tracked
  next closed =>
    rw [stage_closed (Int.not_le.1 closed)]
    exact jcop_power_up_open_tracked

/-- The transmission of an APDU keeps to the protocol. -/
lemma transmitToICC_tracked {TxBuffer : List BYTE} :
    Tracked (IFDHTransmitToICC j TxBuffer) j.stage := by
  unfold IFDHTransmitToICC
  dsimp only
  split
  next => exact obeys_pure.2 rfl
  next opened =>
    rw [Int.not_lt] at opened
    rw [stage_started opened]
    split
    next => exact close_tracked (.inr (.inr rfl))
    next short =>
      apply Obeys.ask_bind
      · refine .inr ⟨rfl, TxBuffer, Nat.not_le.1 short, ?_⟩
        exact bytes_fill
      intro w
      show Obeys _ _ _ (if w.ret < 0 then Stage.started j.JCOP_socket else .started j.JCOP_socket)
      rw [ite_self]
      split
      next => exact close_tracked (.inr (.inr rfl))
      next =>
        apply Obeys.bind
        · exact jcop_read_tracked opened
        rintro _ ⟨ret, j⟩ rfl
        split
        next => exact obeys_pure.2 rfl
        next => exact obeys_pure.2 rfl

/-- The test for a card keeps to the protocol. -/
lemma check_tracked : Tracked (IFDHICCPresence.check j) j.stage := by
  unfold IFDHICCPresence.check
  split
  next opened =>
    have stage : j.stage = .started j.JCOP_socket := stage_started (Int.le_of_lt opened)
    rw [stage]
    apply Obeys.ask_bind
    · exact rfl
    intro r
    split
    next => exact close_tracked (.inr (.inr rfl))
    split
    next =>
      apply Obeys.ask_bind
      · exact rfl
      intro r
      split
      next => exact close_tracked (.inr (.inr rfl))
      next => exact obeys_pure.2 stage.symm
    next => exact obeys_pure.2 stage.symm
  next => exact obeys_pure.2 rfl

/-- Every call keeps to the protocol. -/
lemma serve_tracked {request : Request} : Tracked (serve j request) j.stage := by
  cases request with
  | createChannel =>
    apply Obeys.bind
    · exact jcop_power_up_tracked
    rintro _ ⟨_, j⟩ rfl
    exact obeys_pure.2 rfl
  | closeChannel => exact obeys_pure.2 rfl
  | powerICC Action =>
    show Tracked (IFDHPowerICC j Action) _
    unfold IFDHPowerICC
    split
    next =>
      apply Obeys.bind
      · exact jcop_power_up_tracked
      rintro _ ⟨ret, j⟩ rfl
      dsimp only
      split
      next => exact obeys_pure.2 rfl
      next => exact obeys_pure.2 rfl
    next => exact obeys_pure.2 rfl
  | transmitToICC TxBuffer => exact transmitToICC_tracked
  | iccPresence =>
    show Tracked (IFDHICCPresence j) _
    unfold IFDHICCPresence
    split
    next =>
      apply Obeys.bind
      · exact jcop_power_up_tracked
      rintro _ ⟨_, j⟩ rfl
      exact check_tracked
    next => exact check_tracked

/-- All calls keep to the protocol, one after the other. -/
lemma session_tracked {requests : List Request} : Tracked (session j requests) j.stage := by
  induction requests generalizing j with
  | nil => exact obeys_pure.2 rfl
  | cons request requests ih =>
    apply Obeys.bind
    · exact serve_tracked
    rintro _ ⟨reply, j⟩ rfl
    apply Obeys.bind
    · exact ih
    rintro _ ⟨replies, j⟩ rfl
    exact obeys_pure.2 rfl

end TagEventor.Simulator
