import TagEventor.Lib.Outcomes
import TagEventor.Simulator.Sockets

/-!
# The handler and the simulator

The system calls of the handler, as a connection to a simulator answers them. The simulator answers
a whole message by a frame, and its card keeps a state. The stream may be cut into pieces anywhere,
every call may fail, and the simulator may go away at any time, as the choices say.
-/

namespace TagEventor.Simulator
open Interact Stoppable
variable {σ : Type}

/-- The card of the simulator: the ATR after a reset, and the reply to an APDU. -/
structure Card (σ : Type) where
  reset : σ → List BYTE × σ
  answer : List BYTE → σ → List BYTE × σ

/-- The simulator's end of a connection. -/
structure Connection where
  /-- what has come of a message -/
  received : List BYTE
  /-- what was sent and not read -/
  pending : List BYTE
  gone : Bool

/-- How a system call goes: how much is done of it, and whether the simulator goes away before. -/
structure Choice where
  amount : Nat
  dies : Bool

/-- The state of the machine: the socket, the connection, the card, and how the calls will go. -/
structure World (σ : Type) where
  fd : Option Int
  connection : Option Connection
  card : σ
  choices : Nat → Choice

/-- A choice has been made. -/
def World.chosen (w : World σ) : World σ :=
  { w with
    connection := w.connection.map fun c => { c with gone := c.gone || (w.choices 0).dies }
    choices := fun n => w.choices (n + 1) }

/-- The connection behind a descriptor. -/
def World.behind (w : World σ) (fd : Int) : Option Connection :=
  if w.fd = some fd then w.connection else none

/-- As many bytes have come as the third and the fourth one say. -/
def complete (message : List BYTE) : Bool :=
  4 ≤ message.length ∧
    message.length = 4 + 256 * (message.getD 2 0).toNat + (message.getD 3 0).toNat

/-- What the simulator sends for a message. -/
def Card.respond (card : Card σ) (message : List BYTE) (s : σ) : List BYTE × σ :=
  if message = atrRequest then (frame 0x0 (card.reset s).1, (card.reset s).2)
  else (frame 0x1 (card.answer (message.drop 4) s).1, (card.answer (message.drop 4) s).2)

/-- The connection and the card after some bytes were sent to the simulator. -/
def Card.receive (card : Card σ) (c : Connection) (sent : List BYTE) (s : σ) : Connection × σ :=
  if c.gone then (c, s)
  else if complete (c.received ++ sent) then
    ({ c with
        received := []
        pending := c.pending ++ (card.respond (c.received ++ sent) s).1 },
      (card.respond (c.received ++ sent) s).2)
  else ({ c with received := c.received ++ sent }, s)

/-- How a system call is answered. -/
def kernel (card : Card σ) (q : Call) (w : World σ) : Ans × World σ :=
  let amount := (w.choices 0).amount
  let w := w.chosen
  match q with
  | .socket =>
    match amount with
    | 0 => (⟨-1, []⟩, w)
    | fd + 1 => (⟨fd, []⟩, { w with fd := some fd })
  | .gethostbyname => (⟨if amount = 0 then 0 else 1, []⟩, w)
  | .connect fd =>
    if amount = 0 ∨ w.fd ≠ some fd then (⟨-1, []⟩, w)
    else (⟨0, []⟩, { w with connection := some ⟨[], [], false⟩ })
  | .write fd bytes =>
    match w.behind fd with
    | none => (⟨-1, []⟩, w)
    | some c =>
      if amount = 0 then (⟨-1, []⟩, w)
      else
        let (c, s) := card.receive c (bytes.take amount) w.card
        (⟨(bytes.take amount).length, []⟩, { w with connection := some c, card := s })
  | .read fd count =>
    match w.behind fd with
    | none => (⟨-1, []⟩, w)
    | some c =>
      if amount = 0 then (⟨-1, []⟩, w)
      -- a call that waits in vain is interrupted at some time
      else if c.pending = [] then (⟨if c.gone then 0 else -1, []⟩, w)
      else
        let bytes := c.pending.take (min amount count)
        (⟨bytes.length, bytes⟩,
          { w with connection := some { c with pending := c.pending.drop (min amount count) } })
  | .select fd =>
    match w.behind fd with
    | none => (⟨-1, []⟩, w)
    | some c =>
      if amount = 0 then (⟨-1, []⟩, w)
      else (⟨if c.pending ≠ [] ∨ c.gone then 1 else 0, []⟩, w)
  | .close _ => (⟨0, []⟩, { w with fd := none, connection := none })
  | .exit _ => (⟨0, []⟩, w)

/-- There is no socket. -/
structure World.Idle (w : World σ) (s : σ) : Prop where
  fd : w.fd = none
  connection : w.connection = none
  card : w.card = s

/-- The socket is connected to the simulator. -/
structure World.Connected (w : World σ) (fd : Int) (received pending : List BYTE) (s : σ) :
    Prop where
  fd : w.fd = some fd
  connection : ∃ gone, w.connection = some ⟨received, pending, gone⟩
  card : w.card = s

variable {card : Card σ} {w : World σ} {fd : Int} {received pending : List BYTE} {s : σ}

/-- A choice leaves the connection there. -/
lemma World.Connected.chosen (h : w.Connected fd received pending s) :
    w.chosen.Connected fd received pending s := by
  obtain ⟨gone, e⟩ := h.connection
  refine ⟨h.fd, ⟨gone || (w.choices 0).dies, ?_⟩, h.card⟩
  unfold World.chosen
  rw [e]
  rfl

/-- The connection behind the socket. -/
lemma World.Connected.behind (h : w.Connected fd received pending s) :
    ∃ gone, w.behind fd = some ⟨received, pending, gone⟩ := by
  obtain ⟨gone, e⟩ := h.connection
  refine ⟨gone, ?_⟩
  unfold World.behind
  rw [if_pos h.fd, e]

/-- Nothing is read, or the beginning of what is pending. -/
inductive Receives (fd : Int) (count : Nat) (received pending : List BYTE) (s : σ)
    (w : World σ) : Ans → World σ → Prop where
  | nothing {ret w'} :
    ret ≤ 0 →
    (w.choices 0).amount = 0 ∨ count = 0 ∨ pending = [] →
    w'.Connected fd received pending s →
    Receives fd count received pending s w ⟨ret, []⟩ w'
  | part {n w'} :
    n = min (w.choices 0).amount count →
    pending.take n ≠ [] →
    w'.choices = (fun i => w.choices (i + 1)) →
    w'.Connected fd received (pending.drop n) s →
    Receives fd count received pending s w ⟨(pending.take n).length, pending.take n⟩ w'

/-- A read takes the beginning of what is pending, or nothing. -/
lemma kernel_read {count : Nat} (h : w.Connected fd received pending s) :
    Receives fd count received pending s w (kernel card (.read fd count) w).1
      (kernel card (.read fd count) w).2 := by
  obtain ⟨gone, behind⟩ := h.chosen.behind
  unfold kernel
  dsimp only
  rw [behind]
  dsimp only
  split
  next zero => exact .nothing (by decide) (.inl zero) h.chosen
  next amount =>
    split
    next none =>
      refine .nothing ?_ (.inr (.inr none)) h.chosen
      split <;> decide
    next some =>
      have read : World.Connected
          { w.chosen with connection := .some ⟨received, pending.drop (min _ count), gone⟩ } fd
          received (pending.drop (min (w.choices 0).amount count)) s :=
        ⟨h.chosen.fd, ⟨gone, rfl⟩, h.chosen.card⟩
      by_cases part : pending.take (min (w.choices 0).amount count) = []
      · rcases List.take_eq_nil_iff.1 part with zero | none
        · rw [zero] at read ⊢
          refine .nothing (Int.le_refl _) (.inr (.inl ?_)) read
          omega
        · exact absurd none some
      · exact .part rfl part rfl read

/-- The simulator is there when the next message is sent. -/
def World.Alive (w : World σ) : Prop :=
  (∀ c, w.connection = some c → c.gone = false) ∧ (w.choices 0).dies = false

/-- A message, or a part of it, is sent to a simulator that has read and answered the others. -/
inductive Sends (card : Card σ) (fd : Int) (message : List BYTE) (s : σ) (w : World σ) :
    Ans → World σ → Prop where
  | lost {a received w'} :
    ¬ (w.Alive ∧ message.length ≤ (w.choices 0).amount) →
    w'.Connected fd received [] s →
    Sends card fd message s w a w'
  | answered {a w'} :
    0 ≤ a.ret →
    w.Alive ∧ message.length ≤ (w.choices 0).amount →
    w'.choices = (fun i => w.choices (i + 1)) →
    w'.Connected fd [] (card.respond message s).1 (card.respond message s).2 →
    Sends card fd message s w a w'

/-- A message is complete at its end only. -/
lemma incomplete_take {message : List BYTE} {n : Nat} (whole : complete message = true)
    (less : n < message.length) : complete (message.take n) = false := by
  unfold complete at whole ⊢
  rw [decide_eq_true_eq] at whole
  rw [decide_eq_false_iff_not]
  rintro ⟨header, length⟩
  rw [List.length_take_of_le (Nat.le_of_lt less)] at header length
  have same {i : Nat} (hi : i < n) : (message.take n).getD i 0 = message.getD i 0 := by
    rw [List.getD_eq_getElem?_getD, List.getElem?_take_of_lt hi, ← List.getD_eq_getElem?_getD]
  rw [same (by omega), same (by omega)] at length
  omega

/-- A whole message is answered, or it is lost. -/
lemma kernel_write {message : List BYTE} (whole : complete message = true)
    (h : w.Connected fd [] [] s) :
    Sends card fd message s w (kernel card (.write fd message) w).1
      (kernel card (.write fd message) w).2 := by
  obtain ⟨gone, e⟩ := h.connection
  have behind : w.chosen.behind fd = some ⟨[], [], gone || (w.choices 0).dies⟩ := by
    unfold World.behind World.chosen
    rw [if_pos h.fd, e]
    rfl
  unfold kernel
  dsimp only
  rw [behind]
  dsimp only
  split
  next zero =>
    refine .lost ?_ h.chosen
    rintro ⟨_, amount⟩
    unfold complete at whole
    rw [decide_eq_true_eq] at whole
    omega
  next =>
    cases alive : gone || (w.choices 0).dies with
    | true =>
      refine .lost ?_ ⟨h.fd, ⟨true, rfl⟩, h.card⟩
      rintro ⟨⟨stays, lives⟩, _⟩
      rw [show gone = false from stays _ e, lives] at alive
      cases alive
    | false =>
      obtain ⟨stays, lives⟩ := Bool.or_eq_false_iff.1 alive
      by_cases sent : message.length ≤ (w.choices 0).amount
      · have received : card.receive ⟨[], [], false⟩ message s =
            (⟨[], (card.respond message s).1, false⟩, (card.respond message s).2) := by
          unfold Card.receive
          rw [List.nil_append, whole]
          rfl
        rw [List.take_of_length_le sent, show w.chosen.card = s from h.card, received]
        refine .answered (Int.natCast_nonneg _) ⟨⟨?_, lives⟩, sent⟩ rfl ⟨h.fd, ⟨false, rfl⟩, rfl⟩
        rintro c e'
        cases e.symm.trans e'
        exact stays
      · have received : card.receive ⟨[], [], false⟩ (message.take (w.choices 0).amount) s =
            (⟨message.take (w.choices 0).amount, [], false⟩, s) := by
          unfold Card.receive
          rw [List.nil_append, incomplete_take whole (Nat.lt_of_not_le sent)]
          rfl
        rw [show w.chosen.card = s from h.card, received]
        exact .lost (fun h => sent h.2) ⟨h.fd, ⟨false, rfl⟩, rfl⟩

/-- A test leaves everything as it is. -/
lemma kernel_select (h : w.Connected fd received pending s) :
    (kernel card (.select fd) w).2.Connected fd received pending s := by
  obtain ⟨gone, behind⟩ := h.chosen.behind
  unfold kernel
  dsimp only
  rw [behind]
  dsimp only
  split
  next => exact h.chosen
  next => exact h.chosen

/-- After a close there is no socket. -/
lemma kernel_close (h : w.card = s) : (kernel card (.close fd) w).2.Idle s := ⟨rfl, rfl, h⟩

/-- The socket is there. -/
structure World.Opened (w : World σ) (fd : Int) (s : σ) : Prop where
  fd : w.fd = some fd
  connection : w.connection = none
  card : w.card = s

/-- There is a socket, or the call fails. -/
lemma kernel_socket (h : w.Idle s) :
    (kernel card .socket w).1.ret < 0 ∧ (kernel card .socket w).2.Idle s ∨
      0 ≤ (kernel card .socket w).1.ret ∧
        (kernel card .socket w).2.Opened (kernel card .socket w).1.ret s := by
  have connection : w.chosen.connection = none := by
    unfold World.chosen
    rw [h.connection]
    rfl
  unfold kernel
  dsimp only
  cases (w.choices 0).amount with
  | zero => exact .inl ⟨Int.negSucc_lt_zero 0, h.fd, connection, h.card⟩
  | succ fd => exact .inr ⟨Int.natCast_nonneg _, rfl, connection, h.card⟩

/-- A choice leaves the socket there. -/
lemma World.Opened.chosen (h : w.Opened fd s) : w.chosen.Opened fd s := by
  refine ⟨h.fd, ?_, h.card⟩
  unfold World.chosen
  rw [h.connection]
  rfl

/-- There is a connection, or the call fails. -/
lemma kernel_connect (h : w.Opened fd s) :
    (kernel card (.connect fd) w).1.ret < 0 ∧ (kernel card (.connect fd) w).2.Opened fd s ∨
      0 ≤ (kernel card (.connect fd) w).1.ret ∧
        (kernel card (.connect fd) w).2.Connected fd [] [] s := by
  unfold kernel
  dsimp only
  split
  next => exact .inl ⟨Int.negSucc_lt_zero 0, h.chosen⟩
  next => exact .inr ⟨Int.le_refl _, h.chosen.fd, ⟨false, rfl⟩, h.chosen.card⟩

end TagEventor.Simulator
