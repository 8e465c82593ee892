import TagEventor.Jpcsc.Command
import TagEventor.Reader.Runs

/-!
# `Transmit`

The two native functions `NativeTransmit` of `jpcsc.c`, which send an APDU to a card, and the
methods of `Card.java` that call them. With T=0 the APDU is cut to what T=0 can send, and a second
command follows if the card asks for it. One function returns a new array, the other one writes into
an array of the caller; `transmits_alike` says that they do the same.

* An array of the caller stays the same, but for the one that is written to.
* `off + len` does not overflow.
-/

namespace TagEventor.Jpcsc
open Interact

/-- The size of the buffer on the stack. -/
def RECEIVE_BUFFER_SIZE : Nat := 260

/-- The protocols of a card. -/
inductive Protocol where
  | T0
  | T1
  | RAW
deriving DecidableEq

/-- The fields of a `Card` that `Transmit` reads. -/
structure Card where
  proto : Protocol
  t0getResponse : Bool
  resendOnWrongLe : Bool

/-- A new `Card`, when its protocol is known. -/
def Card.init (proto : Protocol) : Card := ⟨proto, true, true⟩

/-- How `Transmit` fails; `outside` is an access of native code outside of an array. -/
inductive Failed where
  | thrown (t : Thrown)
  | PCSCException (call : JString) (rv : LONG)
  | outside
deriving DecidableEq

/-- What a call of `SCardTransmit` leaves: `rv`, the buffer, and the number of bytes in it. -/
structure Received where
  rv : LONG
  cout : List BYTE
  clen : Nat

/-- `SCardTransmit` into a buffer from an offset on. -/
def transmitTo (send cout : List BYTE) (coff : Nat) : CardProg Received := do
  let answer ← SCardTransmit send (cout.length - coff)
  return ⟨answer.1, writeAt cout coff answer.2, answer.2.length⟩

/-- The command that fetches `n` bytes of a response. -/
def GET_RESPONSE : List BYTE := [0, 0xC0, 0, 0]

/-- The response whose length is in the buffer is fetched. -/
def t0_get_response (cout : List BYTE) (coff : Nat) : CardProg Received :=
  transmitTo (GET_RESPONSE ++ [cout.getD (coff + 1) 0]) cout coff

namespace Card

/-- With T=0, what is sent: nothing is sent behind the data. -/
def cut (c : Card) (cin : List BYTE) (joff jlen : Nat) : Nat :=
  let size := 5 + (cin.getD (joff + 4) 0).toNat
  if c.proto = .T0 ∧ size < jlen then size else jlen

/-- The second command, if there is one. -/
def afterTransmit (c : Card) (cin : List BYTE) (joff jlen : Nat) (r : Received) (coff : Nat) :
    CardProg Received :=
  if c.proto = .T0 ∧ r.clen = 2 then
    if r.cout.getD coff 0 = 0x6c ∧ c.resendOnWrongLe = true then
      -- the length is replaced by the one that the card names
      let cin := cin.set (joff + 4) (r.cout.getD (coff + 1) 0)
      transmitTo ((cin.drop joff).take jlen) r.cout coff
    else if r.cout.getD coff 0 = 0x61 ∧ c.t0getResponse = true then t0_get_response r.cout coff
    else return r
  else return r

/-- What both `NativeTransmit`s do, with a buffer `cout` from `coff` on; with T=0 the length byte is
read from the array, whatever the length of the APDU is. -/
def transmitInto (c : Card) (cin : List BYTE) (joff jlen : Nat) (cout : List BYTE) (coff : Nat) :
    CardProg (Except Failed Received) :=
  if c.proto = .T0 ∧ cin.length ≤ joff + 4 then return .error .outside
  else do
    let jlen := c.cut cin joff jlen
    let r ← transmitTo ((cin.drop joff).take jlen) cout coff
    let r ← c.afterTransmit cin joff jlen r coff
    return .ok r

end Card

/-- `pcscex_throw`, unless the last call succeeded. -/
def Received.check (r : Received) : Except Failed Received :=
  if r.rv ≠ SCARD_S_SUCCESS then .error (.PCSCException "SCardTransmit()".toList r.rv) else .ok r

namespace Card

/-- `NativeTransmit(in, off, len)`; the buffer is on the stack. -/
def NativeTransmit (c : Card) (stack : {cout : List BYTE // cout.length = RECEIVE_BUFFER_SIZE})
    (cin : List BYTE) (joff jlen : Nat) : CardProg (Except Failed (List BYTE)) := do
  let r ← c.transmitInto cin joff jlen stack 0
  return (r >>= Received.check).map fun r => r.cout.take r.clen

/-- `NativeTransmit(in, inoff, inlen, out, outoff)`: the number of bytes, and the array. -/
def NativeTransmitOut (c : Card) (cin : List BYTE) (inoff inlen : Nat) (out : List BYTE)
    (outoff : Nat) : CardProg (Except Failed Nat × List BYTE) := do
  let r ← c.transmitInto cin inoff inlen out outoff
  return ((r >>= Received.check).map Received.clen, (r.toOption.map Received.cout).getD out)

/-- `Transmit(in, off, len)`. -/
def Transmit (c : Card) (stack : {cout : List BYTE // cout.length = RECEIVE_BUFFER_SIZE})
    (cin : List BYTE) (off len : Int) : CardProg (Except Failed (List BYTE)) :=
  if off < 0 ∨ len < 0 ∨ off + len > cin.length then return .error (.thrown outOfBounds)
  else c.NativeTransmit stack cin off.toNat len.toNat

/-- `Transmit(in, inoff, len, out, outoff)`. -/
def TransmitOut (c : Card) (cin : List BYTE) (inoff len : Int) (out : List BYTE) (outoff : Int) :
    CardProg (Except Failed Nat × List BYTE) :=
  if inoff < 0 ∨ len < 0 ∨ inoff + len > cin.length then
    return (.error (.thrown (.ArrayIndexOutOfBoundsException
      (some "Transmit(): in params".toList))), out)
  else if outoff < 0 ∨ outoff > out.length then
    return (.error (.thrown (.ArrayIndexOutOfBoundsException
      (some "Transmit(): out params".toList))), out)
  else c.NativeTransmitOut cin inoff.toNat len.toNat out outoff.toNat

end Card

namespace Card

/-- The command that follows a reply, if there is one. -/
def followUp (c : Card) (cin : List BYTE) (joff jlen : Nat) (reply : List BYTE) :
    Option (List BYTE) :=
  if c.proto = .T0 ∧ reply.length = 2 then
    if reply.getD 0 0 = 0x6c ∧ c.resendOnWrongLe = true then
      some (((cin.set (joff + 4) (reply.getD 1 0)).drop joff).take jlen)
    else if reply.getD 0 0 = 0x61 ∧ c.t0getResponse = true then
      some (GET_RESPONSE ++ [reply.getD 1 0])
    else none
  else none

end Card

/-- The second call of `SCardTransmit`, if there is one. -/
def followedBy (room : Nat) (first : LONG × List BYTE) : Option (List BYTE) →
    CardProg (LONG × List BYTE)
  | none => return first
  | some tpdu => SCardTransmit tpdu room

/-- What both `NativeTransmit`s do without a buffer: the last return code, and what was received. -/
def Card.exchange (c : Card) (cin : List BYTE) (joff jlen room : Nat) :
    CardProg (LONG × List BYTE) := do
  let jlen := c.cut cin joff jlen
  let first ← SCardTransmit ((cin.drop joff).take jlen) room
  followedBy room first (c.followUp cin joff jlen first.2)

section
variable {c : Card} {cin cout recv tpdu : List BYTE} {joff jlen coff i : Nat} {rv : LONG}

/-- What was written is read. -/
lemma getD_writeAt (room : coff + recv.length ≤ cout.length) (inside : i < recv.length) :
    (writeAt cout coff recv).getD (coff + i) 0 = recv.getD i 0 := by
  rw [writeAt_eq room, List.append_assoc]
  have before : (cout.take coff).length = coff := by
    rw [List.length_take]
    omega
  rw [List.getD_eq_getElem?_getD, List.getElem?_append_right (by omega), before,
    Nat.add_sub_cancel_left, List.getElem?_append_left inside, List.getD_eq_getElem?_getD]

/-- Where no command follows, the reply is the result. -/
lemma afterTransmit_ret (room : coff + recv.length ≤ cout.length)
    (none : c.followUp cin joff jlen recv = none) :
    c.afterTransmit cin joff jlen ⟨rv, writeAt cout coff recv, recv.length⟩ coff =
      return ⟨rv, writeAt cout coff recv, recv.length⟩ := by
  unfold Card.followUp at none
  unfold Card.afterTransmit
  dsimp only
  split
  next two =>
    have first := @getD_writeAt cout recv coff 0 room (by omega)
    rw [Nat.add_zero] at first
    rw [if_pos two] at none
    rw [first]
    split
    next resend =>
      rw [if_pos resend] at none
      cases none
    next noResend =>
      rw [if_neg noResend] at none
      split
      next more =>
        rw [if_pos more] at none
        cases none
      next => rfl
  next => rfl

/-- Where a command follows, its reply is the result. -/
lemma afterTransmit_ask (room : coff + recv.length ≤ cout.length)
    (some : c.followUp cin joff jlen recv = some tpdu) :
    c.afterTransmit cin joff jlen ⟨rv, writeAt cout coff recv, recv.length⟩ coff =
      transmitTo tpdu (writeAt cout coff recv) coff := by
  unfold Card.followUp at some
  unfold Card.afterTransmit
  dsimp only
  split at some
  next two =>
    have first := @getD_writeAt cout recv coff 0 room (by omega)
    have second := @getD_writeAt cout recv coff 1 room (by omega)
    rw [Nat.add_zero] at first
    rw [if_pos two, first]
    split at some
    next resend =>
      cases some
      rw [if_pos resend, second]
    next noResend =>
      split at some
      next more =>
        cases some
        rw [if_neg noResend, if_pos more]
        unfold t0_get_response
        rw [second]
      next => cases some
  next => cases some

end

/-- No more is received than there is room for. -/
def Within {σ : Type} (answer : CardRequest → σ → (LONG × List BYTE) × σ) : Prop :=
  ∀ send capacity s, (answer (.transmit send capacity) s).1.2.length ≤ capacity

/-- What was received is in the buffer from the offset on, and nothing before it has changed. -/
structure Received.Shows (cout : List BYTE) (coff : Nat) (reply : LONG × List BYTE) (r : Received) :
    Prop where
  rv : r.rv = reply.1
  clen : r.clen = reply.2.length
  length : r.cout.length = cout.length
  before : r.cout.take coff = cout.take coff
  bytes : (r.cout.drop coff).take r.clen = reply.2

section
variable {σ : Type} {answer : CardRequest → σ → (LONG × List BYTE) × σ} {s : σ} {c : Card}
  {cin cout recv tpdu : List BYTE} {joff jlen coff : Nat} {rv : LONG} {reply : LONG × List BYTE}

/-- What was received is shown. -/
lemma shows_written (room : coff + reply.2.length ≤ cout.length) :
    Received.Shows cout coff reply ⟨reply.1, writeAt cout coff reply.2, reply.2.length⟩ where
  rv := rfl
  clen := rfl
  length := length_writeAt
  before := take_writeAt_behind (Nat.le_refl _)
  bytes := by
    have before : (cout.take coff).length = coff := by
      rw [List.length_take]
      omega
    dsimp only
    rw [writeAt_eq room, List.append_assoc, List.drop_left' before, List.take_left' rfl]

/-- The run of one exchange. -/
lemma transmitTo_run :
    (transmitTo tpdu cout coff).run answer s =
      let a := answer (.transmit tpdu (cout.length - coff)) s
      (⟨a.1.1, writeAt cout coff a.1.2, a.1.2.length⟩, a.2) := rfl

/-- The run of an exchange, with the command that may follow. -/
lemma exchange_run {room : Nat} :
    (c.exchange cin joff jlen room).run answer s =
      let jlen := c.cut cin joff jlen
      let a := answer (.transmit ((cin.drop joff).take jlen) room) s
      (followedBy room a.1 (c.followUp cin joff jlen a.1.2)).run answer a.2 := rfl

/-- With a buffer the same is sent, and what is received is found in the buffer. -/
lemma transmitInto_run (within : Within answer) (place : coff ≤ cout.length)
    (inside : ¬ (c.proto = .T0 ∧ cin.length ≤ joff + 4)) :
    ∃ r, (c.transmitInto cin joff jlen cout coff).run answer s =
        (.ok r, ((c.exchange cin joff jlen (cout.length - coff)).run answer s).2) ∧
      r.Shows cout coff ((c.exchange cin joff jlen (cout.length - coff)).run answer s).1 := by
  have fits (tpdu s) :
      coff + (answer (.transmit tpdu (cout.length - coff)) s).1.2.length ≤ cout.length := by
    have few := within tpdu (cout.length - coff) s
    omega
  unfold Card.transmitInto
  rw [if_neg inside, Prog.run_bind, transmitTo_run, exchange_run]
  dsimp only
  have room := fits ((cin.drop joff).take (c.cut cin joff jlen)) s
  generalize answer (.transmit ((cin.drop joff).take (c.cut cin joff jlen)) (cout.length - coff)) s
    = a at room ⊢
  cases e : c.followUp cin joff (c.cut cin joff jlen) a.1.2 with
  | none =>
    rw [afterTransmit_ret room e]
    exact ⟨_, rfl, shows_written room⟩
  | some tpdu =>
    have room' := fits tpdu a.2
    have length : (writeAt cout coff a.1.2).length = cout.length := length_writeAt
    rw [afterTransmit_ask room e, Prog.run_bind, transmitTo_run, length]
    have shown := @shows_written (writeAt cout coff a.1.2) coff
      (answer (.transmit tpdu (cout.length - coff)) a.2).1 (by rw [length]; exact room')
    refine ⟨_, rfl, shown.rv, shown.clen, shown.length.trans length, ?_, shown.bytes⟩
    exact shown.before.trans (take_writeAt_behind (Nat.le_refl _))

end

/-- The two functions end alike, and the array is changed from the offset on only. If the offsets
are refused, both throw the same exception, but with other messages. -/
inductive Alike (out : List BYTE) (outoff : Nat) :
    Except Failed (List BYTE) → Except Failed Nat × List BYTE → Prop where
  | returned {bytes out'} :
    out'.length = out.length →
    out'.take outoff = out.take outoff →
    (out'.drop outoff).take bytes.length = bytes →
    Alike out outoff (.ok bytes) (.ok bytes.length, out')
  | exception {call rv out'} :
    out'.length = out.length →
    out'.take outoff = out.take outoff →
    Alike out outoff (.error (.PCSCException call rv)) (.error (.PCSCException call rv), out')
  | thrown {message message'} :
    Alike out outoff (.error (.thrown (.ArrayIndexOutOfBoundsException message)))
      (.error (.thrown (.ArrayIndexOutOfBoundsException message')), out)
  | outside :
    Alike out outoff (.error .outside) (.error .outside, out)

/-- The result of an exchange. -/
def checked (reply : LONG × List BYTE) : Except Failed (List BYTE) :=
  if reply.1 ≠ SCARD_S_SUCCESS then .error (.PCSCException "SCardTransmit()".toList reply.1)
  else .ok reply.2

section
variable {σ : Type} {answer : CardRequest → σ → (LONG × List BYTE) × σ} {s : σ} {c : Card}
  {stack : {cout : List BYTE // cout.length = RECEIVE_BUFFER_SIZE}} {cin out : List BYTE}
  {joff jlen outoff : Nat}

/-- What is shown is checked alike. -/
lemma Received.Shows.checked {cout coff reply} {r : Received} (h : r.Shows cout coff reply) :
    (r.check.map fun r => (r.cout.drop coff).take r.clen) = checked reply := by
  unfold Received.check Jpcsc.checked
  rw [h.rv]
  split
  · rfl
  · exact congrArg Except.ok h.bytes

/-- An array that ends before the length byte is read beyond its end. -/
lemma nativeTransmit_outside (outside : c.proto = .T0 ∧ cin.length ≤ joff + 4) :
    c.NativeTransmit stack cin joff jlen = return .error .outside := by
  unfold Card.NativeTransmit Card.transmitInto
  rw [if_pos outside]
  rfl

/-- An array that ends before the length byte is read beyond its end. -/
lemma nativeTransmitOut_outside (outside : c.proto = .T0 ∧ cin.length ≤ joff + 4) :
    c.NativeTransmitOut cin joff jlen out outoff = return (.error .outside, out) := by
  unfold Card.NativeTransmitOut Card.transmitInto
  rw [if_pos outside]
  rfl

/-- With the buffer on the stack the result of the exchange is returned. -/
lemma nativeTransmit_run (within : Within answer)
    (inside : ¬ (c.proto = .T0 ∧ cin.length ≤ joff + 4)) :
    (c.NativeTransmit stack cin joff jlen).run answer s =
      let r := (c.exchange cin joff jlen RECEIVE_BUFFER_SIZE).run answer s
      (checked r.1, r.2) := by
  obtain ⟨r, e, shows⟩ := @transmitInto_run _ _ s c cin stack.1 joff jlen 0 within (Nat.zero_le _)
    inside
  rw [stack.2, Nat.sub_zero] at e shows
  unfold Card.NativeTransmit
  rw [Prog.run_bind, e]
  exact Prod.ext shows.checked rfl

/-- With an array of the caller the result of the exchange is found there. -/
lemma nativeTransmitOut_run (within : Within answer) (place : outoff ≤ out.length)
    (inside : ¬ (c.proto = .T0 ∧ cin.length ≤ joff + 4)) :
    ∃ result, (c.NativeTransmitOut cin joff jlen out outoff).run answer s =
        (result, ((c.exchange cin joff jlen (out.length - outoff)).run answer s).2) ∧
      Alike out outoff
        (checked ((c.exchange cin joff jlen (out.length - outoff)).run answer s).1) result := by
  obtain ⟨r, e, shows⟩ := @transmitInto_run _ _ s c cin out joff jlen outoff within place inside
  unfold Card.NativeTransmitOut
  rw [Prog.run_bind, e]
  refine ⟨(r.check.map Received.clen, r.cout), rfl, ?_⟩
  have bytes := shows.bytes
  unfold Received.check checked
  rw [shows.rv]
  split
  · exact .exception shows.length shows.before
  · show Alike out outoff (.ok _) (.ok r.clen, r.cout)
    rw [shows.clen] at bytes ⊢
    exact .returned shows.length shows.before bytes

end

/-- No more is received than there is room for. -/
lemma within_answerCard {env : Env} {slot hCard} : Within (answerCard env slot hCard) := by
  intro send capacity log
  show (if (env.SCardTransmit log slot send).2.length ≤ capacity then _ else _ :
    LONG × List BYTE).2.length ≤ capacity
  split
  next fits => exact fits
  next => exact Nat.zero_le _

/-- With as much room for the response, the two `Transmit`s send the same to the card and end alike,
whatever the card answers. -/
theorem transmits_alike {env : Env} {slot hCard log} {c : Card}
    {stack : {cout : List BYTE // cout.length = RECEIVE_BUFFER_SIZE}} {cin out : List BYTE}
    {off len : Int} {outoff : Nat} (room : out.length = outoff + RECEIVE_BUFFER_SIZE) :
    let r := (c.Transmit stack cin off len).run (answerCard env slot hCard) log
    let r' := (c.TransmitOut cin off len out outoff).run (answerCard env slot hCard) log
    r'.2 = r.2 ∧ Alike out outoff r.1 r'.1 := by
  intro r r'
  unfold r r' Card.Transmit Card.TransmitOut
  split
  next => exact ⟨rfl, .thrown⟩
  next =>
    rw [if_neg (by omega), Int.toNat_natCast]
    by_cases outside : c.proto = .T0 ∧ cin.length ≤ off.toNat + 4
    · rw [nativeTransmit_outside outside, nativeTransmitOut_outside outside]
      exact ⟨rfl, .outside⟩
    · have same : out.length - outoff = RECEIVE_BUFFER_SIZE := by omega
      obtain ⟨result, e, alike⟩ := @nativeTransmitOut_run _ _ log c cin out off.toNat len.toNat
        outoff within_answerCard (by omega) outside
      rw [nativeTransmit_run within_answerCard outside, e]
      rw [same] at e alike ⊢
      exact ⟨rfl, alike⟩

/-- A file is selected on a reader without a card, with the response behind two other bytes. -/
theorem transmits_alike_select :
    let c : Card := .init .T0
    let cin : List BYTE := [0x00, 0xa4, 0x02, 0x00, 0x02, 0x3f, 0x00]
    let out : List BYTE := List.replicate 262 0
    let env := plain [acr0] fun _ _ => none
    let r := (c.Transmit ⟨List.replicate 260 0, List.length_replicate⟩ cin 0 7).run
      (answerCard env 0 none) []
    let r' := (c.TransmitOut cin 0 7 out (2 : Nat)).run (answerCard env 0 none) []
    r'.2 = r.2 ∧ Alike out 2 r.1 r'.1 :=
  transmits_alike List.length_replicate

end TagEventor.Jpcsc
