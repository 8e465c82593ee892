import TagEventor.Reader.Multistring

/-!
# The connection machine

An abstract model of what the library keeps about its readers: which names it stores, which handles
it holds and which driver it assigned, as a deterministic machine that reads the log of calls and
answers (`Conn.next`). `Conn.Legal` says in which states the library makes a call. `Conn` forgets
how the functions of the library are put together; `Refinement` shows that each of them only
ever moves along this machine, by legal steps.
-/

namespace TagEventor

/-- What a slot of `readers[]` holds of a connection. -/
structure Slot where
  name : Option NamePtr
  hCard : Option tCardHandle
  pDriver : Option tReaderDriver
deriving DecidableEq

/-- The slot after `RESET_READER`. -/
def Slot.reset : Slot := ⟨none, none, none⟩

/-- The connection in a slot of `readers[]`. -/
def tReader.slot (r : tReader) : Slot := ⟨r.name, r.hCard, r.pDriver⟩

/-- The state of the machine. -/
structure Conn where
  log : List Call
  nbReaders : Nat
  slots : Nat → Slot
  mszReaders : Option Multistring
  mszHeap : List (Ledger.Entry Nat)

namespace Conn

/-- Nothing is listed and no handle is open. -/
def init : Conn := ⟨[], 0, fun _ => .reset, none, []⟩

/-- A call is logged. -/
def record (s : Conn) (c : Call) : Conn := { s with log := s.log ++ [c] }

/-- A slot is changed. -/
def setSlot (s : Conn) (i : Nat) (r : Slot) : Conn :=
  { s with slots := Function.update s.slots i r }

/-- The buffer of the names is freed. -/
def freeMszReaders (s : Conn) : Conn := { s with mszHeap := freeMsz s.mszHeap s.mszReaders }

/-- Replace the name buffer by a new one, with nothing written to it yet. -/
def renewMszReaders (s : Conn) : Conn :=
  let s := s.freeMszReaders
  { s with
    mszHeap := s.mszHeap ++ [.acquire s.mszHeap.length]
    mszReaders := some ⟨s.mszHeap.length, []⟩ }

/-- Take over a list of reader names into the current buffer. -/
def relist (s : Conn) (names : List ReaderName) : Conn :=
  match s.mszReaders with
  | none => s
  | some msz =>
    { s with
      nbReaders := names.length
      mszReaders := some { msz with chars := multiString names }
      slots := fun i =>
        if i < names.length then { s.slots i with name := some ⟨msz.block, nameOffset names i⟩ }
        else if i < s.nbReaders then .reset
        else s.slots i }

/-- The buffer is freed, and the pointer to it forgotten. -/
def dropMszReaders (s : Conn) : Conn := { s.freeMszReaders with mszReaders := none }

/-- The step of the machine on a call. -/
def next (s : Conn) (c : Call) : Conn :=
  let s := s.record c
  match c with
  | .SCardListReaders none rv _ =>
    if rv = SCARD_E_NO_READERS_AVAILABLE then { s.dropMszReaders with nbReaders := 0 } else s
  | .SCardListReaders (some _) rv names =>
    if rv = SCARD_S_SUCCESS then s.renewMszReaders.relist names else s.renewMszReaders
  | .SCardReleaseContext _ => s.dropMszReaders
  | .SCardConnect i _ _ none => s.setSlot i .reset
  | .SCardConnect i _ _ (some h) => s.setSlot i { s.slots i with hCard := some h }
  | .SCardDisconnect i _ _ => s.setSlot i .reset
  | .readerCheck i rv supported =>
    if rv = SCARD_S_SUCCESS then
      s.setSlot i { s.slots i with pDriver := if supported then some .acr122U else none }
    else s.setSlot i .reset
  | .getTagList i rv _ => if rv = SCARD_S_SUCCESS then s else s.setSlot i .reset
  | _ => s

/-- Whether a name pointer points into the current buffer. -/
def Live (s : Conn) (p : NamePtr) : Prop := ∃ msz ∈ s.mszReaders, msz.block = p.block

instance (s : Conn) (p : NamePtr) : Decidable (s.Live p) :=
  inferInstanceAs (Decidable (∃ msz ∈ s.mszReaders, msz.block = p.block))

/-- The name a live pointer designates. -/
def Designates (s : Conn) (p : NamePtr) (name : CString) : Prop :=
  ∃ msz ∈ s.mszReaders, msz.block = p.block ∧ cstrAt msz.chars p.offset = name

instance (s : Conn) (p : NamePtr) (name : CString) : Decidable (s.Designates p name) :=
  inferInstanceAs (Decidable (∃ msz ∈ s.mszReaders, _ ∧ _))

/-- The calls the library makes in a state. -/
def Legal (s : Conn) : Call → Prop
  | .SCardConnect i _ _ none => i < s.nbReaders ∧ (s.slots i).hCard = none
  | .SCardConnect i name rv (some h) =>
    i < s.nbReaders ∧ (s.slots i).hCard = none ∧ rv = SCARD_S_SUCCESS ∧
      h.slot = i ∧ h.serial = connects s.log i ∧ name = some h.reader ∧
      ∃ p, (s.slots i).name = some p ∧ (s.Live p → s.Designates p h.reader)
  | .SCardDisconnect i h _ => i < s.nbReaders ∧ h = (s.slots i).hCard ∧ h ≠ none
  | .readerCheck i _ _ => i < s.nbReaders ∧ (s.slots i).hCard ≠ none
  | .getTagList i _ _ =>
    i < s.nbReaders ∧ (s.slots i).hCard ≠ none ∧ (s.slots i).pDriver ≠ none
  | _ => True

/-- The legal steps of the machine, by what they do to the state. -/
inductive Step (s : Conn) : Call → Conn → Prop where
  | logged {c} : Step s c (s.record c)
  | reset {c} (i : Nat) : Step s c ((s.record c).setSlot i .reset)
  | opened {i rv} (h : tCardHandle)
    (legal : s.Legal (.SCardConnect i (some h.reader) rv (some h))) :
    Step s (.SCardConnect i (some h.reader) rv (some h))
      ((s.record (.SCardConnect i (some h.reader) rv (some h))).setSlot i
        { s.slots i with hCard := some h })
  | checked {c i} (driver : Option tReaderDriver) (listed : i < s.nbReaders) :
    Step s c ((s.record c).setSlot i { s.slots i with pDriver := driver })
  | emptied {names} : Step s (.SCardListReaders none SCARD_E_NO_READERS_AVAILABLE names)
      { (s.record (.SCardListReaders none SCARD_E_NO_READERS_AVAILABLE names)).dropMszReaders with
        nbReaders := 0 }
  | renewed {size rv names} (error : rv ≠ SCARD_S_SUCCESS) :
    Step s (.SCardListReaders (some size) rv names)
      (s.record (.SCardListReaders (some size) rv names)).renewMszReaders
  | relisted {size names} : Step s (.SCardListReaders (some size) SCARD_S_SUCCESS names)
      ((s.record (.SCardListReaders (some size) SCARD_S_SUCCESS names)).renewMszReaders.relist
        names)
  | released {rv} : Step s (.SCardReleaseContext rv)
      (s.record (.SCardReleaseContext rv)).dropMszReaders

/-- Every legal call makes one of these steps. -/
lemma step_next {s : Conn} {c} (legal : s.Legal c) : Step s c (s.next c) := by
  cases c with
  | SCardListReaders buffer rv names =>
    cases buffer with
    | none =>
      by_cases hrv : rv = SCARD_E_NO_READERS_AVAILABLE
      · subst hrv
        exact .emptied
      · simp only [next, if_neg hrv]
        exact .logged
    | some size =>
      by_cases hrv : rv = SCARD_S_SUCCESS
      · subst hrv
        exact .relisted
      · simp only [next, if_neg hrv]
        exact .renewed hrv
  | SCardReleaseContext rv => exact .released
  | SCardConnect i name rv hCard =>
    cases hCard with
    | none => exact .reset i
    | some hCard =>
      obtain rfl := legal.2.2.2.2.2.1
      exact .opened hCard legal
  | SCardDisconnect i hCard rv => exact .reset i
  | readerCheck i rv supported =>
    by_cases hrv : rv = SCARD_S_SUCCESS
    · simp only [next, if_pos hrv]
      exact .checked _ legal.1
    · simp only [next, if_neg hrv]
      exact .reset i
  | getTagList i rv tags =>
    by_cases hrv : rv = SCARD_S_SUCCESS
    · simp only [next, if_pos hrv]
      exact .logged
    · simp only [next, if_neg hrv]
      exact .reset i
  | _ => exact .logged

/-- Logging changes no slot. -/
@[simp] lemma record_slots {s c} : (record s c).slots = s.slots := rfl

/-- Every step logs its call. -/
@[simp] lemma next_log {s c} : (next s c).log = s.log ++ [c] := by
  unfold next
  cases c with
  | SCardListReaders buffer rv names =>
    cases buffer <;> simp only [dropMszReaders, renewMszReaders, freeMszReaders, relist, record] <;>
      split_ifs <;> rfl
  | SCardConnect i name rv h => cases h <;> rfl
  | readerCheck i rv supported => simp only [setSlot, record]; split_ifs <;> rfl
  | getTagList i rv tags => simp only [setSlot, record]; split_ifs <;> rfl
  | _ => rfl

/-- The log of the machine is what it has read. -/
lemma foldl_next_log {s : Conn} {l : List Call} : (l.foldl next s).log = s.log ++ l := by
  induction l generalizing s with
  | nil => simp
  | cons c l ih => simp [ih]

end Conn
end TagEventor
