import TagEventor.Lib.Memory
import TagEventor.Lib.Protocol
import TagEventor.Reader.Types

/-!
# The handler of the card simulator

`ifdhandler.c` of the reader `jcop_simul_ifdhandler`, which makes a card simulator behind a socket
look like a reader to `pcscd`: the system calls of its entry points, one after the other. The global
variables are passed on in `Jcop`. The logging is left out.

* `char` is signed.
* An ATR of more than `MAX_ATR_SIZE` bytes is copied beyond the end of `JCOP_atr`, over what lies
  behind it, and the code runs on; the model stops there.
* Of what `write` returns only the sign is looked at, here as in the source: a message that was cut
  counts as sent.
-/

namespace TagEventor.Simulator
open Interact Stoppable

/-- The size of `JCOP_buffer`. -/
def JCOP_BUFSZ : Nat := 1024
/-- The size of `JCOP_atr`. -/
def MAX_ATR_SIZE : Nat := 33

/-- The action to power up. -/
def IFD_POWER_UP : Nat := 500
/-- The call succeeded. -/
def IFD_SUCCESS : Int := 0
/-- The card could not be reached. -/
def IFD_COMMUNICATION_ERROR : Int := 612
/-- There is a card. -/
def IFD_ICC_PRESENT : Int := 615
/-- There is no card. -/
def IFD_ICC_NOT_PRESENT : Int := 616

/-- A system call. -/
inductive Call where
  | socket
  /-- `gethostbyname( JCOP_HOST )` -/
  | gethostbyname
  | connect (fd : Int)
  | write (fd : Int) (bytes : List BYTE)
  | read (fd : Int) (count : Nat)
  /-- `select` for the descriptor, without waiting -/
  | select (fd : Int)
  | close (fd : Int)
  | exit (status : Int)
deriving DecidableEq

/-- What a system call returns, and what it writes into the buffer. -/
structure Ans where
  ret : Int
  bytes : List BYTE

/-- A part of the handler, by the system calls it makes. -/
abbrev Program := Stoppable Call Ans

/-- One system call. -/
abbrev call (q : Call) : Program Ans := Stoppable.ask q

/-- The process ends. -/
def exit {α : Type} (status : Int) : Program α := do
  let _ ← call (.exit status)
  Alternative.failure

/-- The global variables. -/
structure Jcop where
  JCOP_socket : Int
  JCOP_buffer : Nat → BYTE
  JCOP_atr : Nat → BYTE
  JCOP_atrl : Nat

/-- The variables at the start of the process. -/
def Jcop.init : Jcop := ⟨-1, fun _ => 0, fun _ => 0, 0⟩

/-- Bytes are written into `JCOP_buffer` from a position on. -/
def Jcop.fill (j : Jcop) (start : Nat) (bytes : List BYTE) : Jcop :=
  { j with JCOP_buffer := Memory.store j.JCOP_buffer ⟨start, bytes⟩ }

/-- The bytes of `JCOP_buffer` from a position on. -/
def Jcop.bytes (j : Jcop) (start n : Nat) : List BYTE :=
  (List.range n).map fun i => j.JCOP_buffer (start + i)

/-- `(JCOP_buffer[2]&0xff << 8) + (JCOP_buffer[3]&0xff)`: the shift comes before the `&`. -/
def Jcop.len (j : Jcop) : Nat :=
  ((j.JCOP_buffer 2).toBitVec.signExtend 32 &&& 0xff <<< 8).toNat + (j.JCOP_buffer 3).toNat

/-- The socket is closed, and its descriptor forgotten. -/
def jcop_close (j : Jcop) : Program Jcop := do
  let _ ← call (.close j.JCOP_socket)
  return { j with JCOP_socket := -1 }

/-- `jcop_close(); return -1;` -/
def Jcop.giveUp (j : Jcop) : Program (Int × Jcop) := do
  let j ← jcop_close j
  return (-1, j)

/-- `jcop_read` from the outstanding data on. -/
def jcop_read.outstanding (j : Jcop) (len : Nat) : Program (Int × Jcop) := do
  let r ← call (.read j.JCOP_socket (JCOP_BUFSZ - 4))
  let j := j.fill 4 r.bytes
  if r.ret < 0 then j.giveUp
  else if r.ret ≠ len then j.giveUp
  else return (4 + r.ret, j)

/-- `jcop_read`; returns the number of bytes in `JCOP_buffer`. -/
def jcop_read (j : Jcop) (tag : BYTE) : Program (Int × Jcop) := do
  let r ← call (.read j.JCOP_socket JCOP_BUFSZ)
  let j := j.fill 0 r.bytes
  if r.ret < 4 then j.giveUp
  else if j.JCOP_buffer 0 ≠ tag ∨ j.JCOP_buffer 1 ≠ 0 then j.giveUp
  else if r.ret = j.len + 4 then return (r.ret, j)
  else if r.ret ≠ 4 then j.giveUp
  else jcop_read.outstanding j j.len

/-- `jcop_close(); return IFD_COMMUNICATION_ERROR;` -/
def Jcop.giveError (j : Jcop) : Program (Int × Jcop) := do
  let j ← jcop_close j
  return (IFD_COMMUNICATION_ERROR, j)

/-- The request for the ATR. -/
def atrRequest : List BYTE := [0x00, 0x21, 0, 4, 0, 0, 0, 0]

/-- `jcop_power_up` from the creation of the socket on. -/
def jcop_power_up.open (j : Jcop) : Program (Int × Jcop) := do
  let r ← call .socket
  let j := { j with JCOP_socket := r.ret }
  if r.ret < 0 then return (IFD_COMMUNICATION_ERROR, j)
  else
    let hostinfo ← call .gethostbyname
    if hostinfo.ret = 0 then
      let _ ← jcop_close j
      exit (-1)
    else
      let r ← call (.connect j.JCOP_socket)
      if r.ret < 0 then j.giveError
      else
        let j := j.fill 0 atrRequest
        let r ← call (.write j.JCOP_socket (j.bytes 0 8))
        if r.ret < 0 then j.giveError
        else
          let (ret, j) ← jcop_read j 0x0
          if ret < 4 then return (-1, j)
          else if (ret - 4).toNat > MAX_ATR_SIZE then Alternative.failure
          else
            let JCOP_atrl := (ret - 4).toNat
            let JCOP_atr := Memory.store j.JCOP_atr ⟨0, j.bytes 4 JCOP_atrl⟩
            return (IFD_SUCCESS, { j with JCOP_atr, JCOP_atrl })

/-- The connection is opened again, and the ATR read. -/
def jcop_power_up (j : Jcop) : Program (Int × Jcop) := do
  if j.JCOP_socket ≥ 0 then
    let j ← jcop_close j
    jcop_power_up.open j
  else jcop_power_up.open j

/-- What an entry point returns, and what it writes into the buffer of the caller; `none` if it
leaves the buffer and its length alone. -/
structure Reply where
  code : Int
  written : Option (List BYTE)
deriving DecidableEq

/-- A reader is opened; it does not matter whether its card can be reached. -/
def IFDHCreateChannel (j : Jcop) : Program (Reply × Jcop) := do
  let (_, j) ← jcop_power_up j
  return (⟨IFD_SUCCESS, none⟩, j)

/-- The socket stays open. -/
def IFDHCloseChannel (j : Jcop) : Program (Reply × Jcop) :=
  return (⟨IFD_SUCCESS, none⟩, j)

/-- The card is powered up; any other action does nothing. -/
def IFDHPowerICC (j : Jcop) (Action : Nat) : Program (Reply × Jcop) := do
  if Action = IFD_POWER_UP then
    let (ret, j) ← jcop_power_up j
    if ret = IFD_SUCCESS then
      return (⟨IFD_SUCCESS, some ((List.range j.JCOP_atrl).map j.JCOP_atr)⟩, j)
    else return (⟨IFD_COMMUNICATION_ERROR, some []⟩, j)
  else return (⟨IFD_SUCCESS, none⟩, j)

/-- An APDU is sent in a frame, and the reply is read. -/
def IFDHTransmitToICC (j : Jcop) (TxBuffer : List BYTE) : Program (Reply × Jcop) := do
  let TxLength := TxBuffer.length
  if j.JCOP_socket < 0 then return (⟨IFD_COMMUNICATION_ERROR, none⟩, j)
  else if TxLength ≥ 256 then
    let j ← jcop_close j
    return (⟨IFD_COMMUNICATION_ERROR, none⟩, j)
  else
    let header := [0x1, 0x0, UInt8.ofNat (TxLength / 256), UInt8.ofNat (TxLength % 256)]
    let j := j.fill 0 (header ++ TxBuffer)
    let r ← call (.write j.JCOP_socket (j.bytes 0 (TxLength + 4)))
    if r.ret < 0 then
      let j ← jcop_close j
      return (⟨IFD_COMMUNICATION_ERROR, none⟩, j)
    else
      let (ret, j) ← jcop_read j 0x1
      if ret < 0 then return (⟨IFD_COMMUNICATION_ERROR, none⟩, j)
      else return (⟨IFD_SUCCESS, some (j.bytes 4 (ret - 4).toNat)⟩, j)

/-- `IFDHICCPresence` from the test of the descriptor on. -/
def IFDHICCPresence.check (j : Jcop) : Program (Reply × Jcop) := do
  if j.JCOP_socket > 0 then
    let r ← call (.select j.JCOP_socket)
    if r.ret < 0 then
      let j ← jcop_close j
      return (⟨IFD_ICC_NOT_PRESENT, none⟩, j)
    else if r.ret = 1 then
      let r ← call (.read j.JCOP_socket JCOP_BUFSZ)
      let j := j.fill 0 r.bytes
      if r.ret ≤ 0 then
        let j ← jcop_close j
        return (⟨IFD_ICC_NOT_PRESENT, none⟩, j)
      else return (⟨IFD_ICC_PRESENT, none⟩, j)
    else return (⟨IFD_ICC_PRESENT, none⟩, j)
  else return (⟨if j.JCOP_socket < 0 then IFD_ICC_NOT_PRESENT else IFD_ICC_PRESENT, none⟩, j)

/-- A card that cannot be reached is powered up first. -/
def IFDHICCPresence (j : Jcop) : Program (Reply × Jcop) := do
  if j.JCOP_socket < 0 then
    let (_, j) ← jcop_power_up j
    IFDHICCPresence.check j
  else IFDHICCPresence.check j

/-- A call of `pcscd`. -/
inductive Request where
  | createChannel
  | closeChannel
  | powerICC (Action : Nat)
  | transmitToICC (TxBuffer : List BYTE)
  | iccPresence
deriving DecidableEq

/-- One call of `pcscd`. -/
def serve (j : Jcop) : Request → Program (Reply × Jcop)
  | .createChannel => IFDHCreateChannel j
  | .closeChannel => IFDHCloseChannel j
  | .powerICC Action => IFDHPowerICC j Action
  | .transmitToICC TxBuffer => IFDHTransmitToICC j TxBuffer
  | .iccPresence => IFDHICCPresence j

/-- The calls of `pcscd`, one after the other, and the replies. -/
def session (j : Jcop) : List Request → Program (List Reply × Jcop)
  | [] => return ([], j)
  | request :: requests => do
    let (reply, j) ← serve j request
    let (replies, j) ← session j requests
    return (reply :: replies, j)

end TagEventor.Simulator
