import TagEventor.Lib.Interact
import TagEventor.Reader.Types

/-!
# The world the library runs in

`Env` is everything outside of the program: pcscd, the readers and the cards. Each PC/SC function
is answered by a function of the whole history of calls (`List Call`), so an `Env` is an arbitrary
behaviour of the outside, reacting to all it has seen. `slot` in a call is the index in `readers[]`
it is made for.

`World` is the state of the program (`readerManager`, `previousTagList`), its heap and what it has
done so far: the log of its PC/SC and driver calls with their answers, the events it dispatched and
the calls of the callback. The heap is kept as three ledgers, one for each kind of block: the
reader name buffers, the arrays of tags, and the blocks attached to tags. A block is numbered by
the length of its ledger when it is allocated; `malloc` does not fail.

What PC/SC guarantees is built into the answers: `SCardConnect` fails on a `NULL` name and returns
a handle that is not open yet, `SCardListReaders` and `SCardTransmit` fail when the answer does not
fit into the buffer they are given.
-/

namespace TagEventor

/-- A call of PC/SC or of a driver, with its answer. -/
inductive Call where
  | SCardEstablishContext (rv : LONG)
  | SCardReleaseContext (rv : LONG)
  /-- `buffer` is the size of the buffer, `none` for the call that asks for the size -/
  | SCardListReaders (buffer : Option Nat) (rv : LONG) (names : List ReaderName)
  | SCardConnect (slot : Nat) (name : Option CString) (rv : LONG) (hCard : Option tCardHandle)
  | SCardDisconnect (slot : Nat) (hCard : Option tCardHandle) (rv : LONG)
  | SCardStatus (slot : Nat) (hCard : Option tCardHandle) (rv : LONG) (atr : List BYTE)
  | SCardTransmit (slot : Nat) (hCard : Option tCardHandle) (send : List BYTE) (rv : LONG)
      (recv : List BYTE)
  /-- the driver's check of the reader in `slot` -/
  | readerCheck (slot : Nat) (rv : LONG) (supported : Bool)
  /-- the driver's poll of the reader in `slot` -/
  | getTagList (slot : Nat) (rv : LONG) (tags : List tTag)
deriving DecidableEq

/-- A receive buffer: the bytes from its address on. -/
abbrev Buffer := Nat → BYTE

/-- The behaviour of everything outside of the program. -/
structure Env where
  SCardEstablishContext : List Call → LONG × Nat
  SCardReleaseContext : List Call → LONG
  SCardListReaders : List Call → LONG × List ReaderName
  SCardConnect : List Call → Nat → CString → LONG
  SCardDisconnect : List Call → Nat → LONG
  SCardStatus : List Call → Nat → LONG × List BYTE
  SCardTransmit : List Call → Nat → List BYTE → LONG × List BYTE
  /-- what a local buffer of a driver holds before anything is written to it -/
  stack : List Call → Nat → Buffer
  /-- what reading a name through a pointer into a freed block yields -/
  stale : List Call → CString

/-- The ledger of the name buffers after one is freed, if there is one. -/
def freeMsz (heap : List (Ledger.Entry Nat)) : Option Multistring → List (Ledger.Entry Nat)
  | none => heap
  | some msz => heap ++ [.release msz.block]

/-- A call of the callback that was passed to `tagListCheck`. -/
structure Callback where
  connected : Bool
  generalMessage : CString
  tagsMessage : CString
deriving DecidableEq

/-- The state of the program and what it has done so far. -/
structure World where
  readerManager : tReaderManager
  previousTagList : tTagList TagArray
  log : List Call
  events : List Event
  callbacks : List Callback
  mszHeap : List (Ledger.Entry Nat)
  tagHeap : List (Ledger.Entry Nat)
  dataHeap : List (Ledger.Entry DataPtr)

namespace World

/-- Log a call. -/
def record (w : World) (c : Call) : World := { w with log := w.log ++ [c] }

/-- `pManager->readers[i]`. -/
def reader (w : World) (i : Nat) : tReader := w.readerManager.readers i

/-- Assign to `pManager->readers[i]`. -/
def setReader (w : World) (i : Nat) (r : tReader) : World :=
  { w with readerManager :=
      { w.readerManager with readers := Function.update w.readerManager.readers i r } }

/-- The slot is made empty; nothing is released. -/
def RESET_READER (w : World) (i : Nat) : World := w.setReader i .reset

/-- `eventDispatch` of a reader or pcscd event. -/
def eventDispatch (w : World) (eventType : tEventType) (readerNumber : Nat) : World :=
  { w with events := w.events ++ [⟨eventType, none, readerNumber⟩] }

/-- `if ( pManager->mszReaders ) free( pManager->mszReaders )`. -/
def freeMszReaders (w : World) : World :=
  { w with mszHeap := freeMsz w.mszHeap w.readerManager.mszReaders }

/-- `pManager->mszReaders = malloc(...)`, with nothing written yet. -/
def mallocMszReaders (w : World) : World :=
  { w with
    mszHeap := w.mszHeap ++ [.acquire w.mszHeap.length]
    readerManager := { w.readerManager with mszReaders := some ⟨w.mszHeap.length, []⟩ } }

/-- The C string a name pointer designates: garbage once its block is no more the current one. -/
def cstr (env : Env) (w : World) (p : NamePtr) : CString :=
  match w.readerManager.mszReaders with
  | none => env.stale w.log
  | some msz => if msz.block = p.block then cstrAt msz.chars p.offset else env.stale w.log

/-- The string `pManager->readers[i].name` designates. -/
def nameText (env : Env) (w : World) (i : Nat) : Option CString :=
  (w.reader i).name.map (w.cstr env)

end World

/-- `SCardListReaders`: into a buffer of the given size, or asking for the size. -/
def SCardListReaders (env : Env) (buffer : Option Nat) (w : World) :
    (LONG × List ReaderName) × World :=
  let names := (env.SCardListReaders w.log).2
  let rv :=
    if (buffer.any fun size => size < (multiString names).length) ∧
        (env.SCardListReaders w.log).1 = SCARD_S_SUCCESS then
      SCARD_E_INSUFFICIENT_BUFFER
    else (env.SCardListReaders w.log).1
  ((rv, names), w.record (.SCardListReaders buffer rv names))

/-- The calls of `SCardConnect` made for a slot. -/
def connects (log : List Call) (slot : Nat) : Nat :=
  log.countP fun
    | .SCardConnect i _ _ _ => i = slot
    | _ => false

/-- `SCardConnect` on the name of slot `num`; on success the handle is stored in the slot. -/
def SCardConnect (env : Env) (num : Nat) (w : World) : LONG × World :=
  match w.nameText env num with
  | none =>
    (SCARD_E_UNKNOWN_READER, w.record (.SCardConnect num none SCARD_E_UNKNOWN_READER none))
  | some name =>
    let rv := env.SCardConnect w.log num name
    if rv = SCARD_S_SUCCESS then
      let hCard := some ⟨num, connects w.log num, name⟩
      (rv, (w.record (.SCardConnect num (some name) rv hCard)).setReader num
        { w.reader num with hCard })
    else (rv, w.record (.SCardConnect num (some name) rv none))

/-- `SCardDisconnect` of the handle in slot `i`. -/
def SCardDisconnect (env : Env) (i : Nat) (w : World) : LONG × World :=
  let rv := env.SCardDisconnect w.log i
  (rv, w.record (.SCardDisconnect i (w.reader i).hCard rv))

/-- A request to the card a driver works on. -/
inductive CardRequest where
  /-- `SCardTransmit` of some bytes, with the given room for the answer -/
  | transmit (send : List BYTE) (capacity : Nat)
  /-- `SCardStatus`, for the ATR -/
  | status
deriving DecidableEq

/-- A driver routine: it can reach nothing but the card it is called for. -/
abbrev CardProg := Interact.Prog CardRequest (LONG × List BYTE)

/-- An exchange with the card, with room for `capacity` bytes of the reply. -/
def SCardTransmit (send : List BYTE) (capacity : Nat) : CardProg (LONG × List BYTE) :=
  .ask (.transmit send capacity) .ret

/-- The ATR of the card. -/
def SCardStatus : CardProg (LONG × List BYTE) := .ask .status .ret

/-- How pcscd answers a request to the card in a slot. -/
def answerCard (env : Env) (slot : Nat) (hCard : Option tCardHandle) :
    CardRequest → List Call → (LONG × List BYTE) × List Call
  | .transmit send capacity, log =>
    let answer :=
      if (env.SCardTransmit log slot send).2.length ≤ capacity then env.SCardTransmit log slot send
      else (SCARD_E_INSUFFICIENT_BUFFER, [])
    (answer, log ++ [.SCardTransmit slot hCard send answer.1 answer.2])
  | .status, log =>
    let answer := env.SCardStatus log slot
    (answer, log ++ [.SCardStatus slot hCard answer.1 answer.2])

/-- Run a driver routine on the card of slot `i`. -/
def World.onCard {α : Type} (env : Env) (i : Nat) (p : CardProg α) (w : World) : α × World :=
  let r := p.run (answerCard env i (w.reader i).hCard) w.log
  (r.1, { w with log := r.2 })

end TagEventor
