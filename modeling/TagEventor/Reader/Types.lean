import Mathlib.Logic.Function.Basic
import TagEventor.Lib.Ledger

/-!
# Data types of the tag reader library

The types of `tagReaderTypes.h`, `tagReader.h` and `readerDriver.h`, and the return codes of PC/SC.

* A C string is the list of its characters before the terminator. The arrays that hold the texts,
  `uid`, `SAM_serial` and `SAM_id`, have no end here: what is written beyond the end of one is kept
  with the text and changes nothing else. `Reader.Slots` models what a text for the SAM overwrites.
* A pointer is represented by what it may point at: a block (numbered by the `malloc` call that
  returned it) and an offset, or the string literal of `testTag`; `NULL` is `none`. A `free` of
  anything else than a block in use is recorded, and the program goes on; in `Poll.Exact` it stops.
* `readers[]` and the other arrays are functions on indices. An index from `MAX_NUM_READERS` on
  lies outside of the C array: nothing here hides such an access.
* A card handle is opaque to the library. It is identified by the `SCardConnect` call that returned
  it: the slot of `readers[]` the call was made for, the number of that call among those of the
  slot, and the reader name the call was made with.
* The fields that only steer the logging (`libVerbosityLevel`, `runningInBackground`) are left out,
  as is all logging.
-/

namespace TagEventor

/-- A byte of a PC/SC buffer. -/
abbrev BYTE := UInt8

/-- A PC/SC return code. -/
abbrev LONG := UInt32

/-- A C string: its characters up to the terminating `'\0'`. -/
abbrev CString := List Char

/-- The call succeeded. -/
def SCARD_S_SUCCESS : LONG := 0
/-- There is no such context or card. -/
def SCARD_E_INVALID_HANDLE : LONG := 0x80100003
/-- A parameter is wrong. -/
def SCARD_E_INVALID_PARAMETER : LONG := 0x80100004
/-- There is less room than there are bytes. -/
def SCARD_E_INSUFFICIENT_BUFFER : LONG := 0x80100008
/-- There is no such reader. -/
def SCARD_E_UNKNOWN_READER : LONG := 0x80100009
/-- The exchange with the card failed. -/
def SCARD_F_COMM_ERROR : LONG := 0x80100013
/-- pcscd does not run. -/
def SCARD_E_NO_SERVICE : LONG := 0x8010001D
/-- There are no readers. -/
def SCARD_E_NO_READERS_AVAILABLE : LONG := 0x8010002E

/-- `MAX_NUM_READERS`, the length of `readers[]`. -/
def MAX_NUM_READERS : Nat := 6

/-- What the pointers of a `tTagContents` can point at. -/
inductive DataPtr where
  /-- the string literal `"Test Data"` of `testTag` -/
  | testData
  /-- a block returned by `malloc` -/
  | heap (block : Nat)
deriving DecidableEq

/-- What is attached to a tag. -/
structure tTagContents where
  pData : Option DataPtr
  dataSize : Nat
  extensionHook : Option DataPtr
deriving DecidableEq

/-- The contents the driver hands over: nothing was read from the tag. -/
def tTagContents.empty : tTagContents := ⟨none, 0, none⟩

/-- The kinds of tags. -/
inductive tTagType where
  | MIFARE_ULTRA
  | MIFARE_1K
  | MIFARE_MINI
  | MIFARE_4K
  | MIFARE_DESFIRE
  | JCOP30
  | GEMPLUS_MPCOS
  | UNKNOWN_TYPE
deriving DecidableEq

/-- A tag: its contents, its kind and its UID in hex digits. -/
structure tTag where
  contents : tTagContents
  tagType : tTagType
  uid : CString
deriving DecidableEq

/-- A `malloc`ed array of tags: the block and the entries written into it. -/
structure TagArray where
  block : Nat
  tags : List tTag
deriving DecidableEq

/-- A pointer into an array of tags. -/
structure TagPtr where
  block : Nat
  index : Nat
deriving DecidableEq

/-- `tTagList`; the manager's lists own their array, those of the readers point into it. -/
structure tTagList (P : Type) where
  pTags : Option P
  numTags : Nat
deriving DecidableEq

/-- The list of no tags. -/
def tTagList.empty {P : Type} : tTagList P := ⟨none, 0⟩

/-- The entries a loop `for (i = 0; i < numTags; i++)` visits. -/
def tTagList.entries (l : tTagList TagArray) : List tTag :=
  ((l.pTags.map TagArray.tags).getD []).take l.numTags

/-- The UIDs of the entries. -/
def tTagList.uids (l : tTagList TagArray) : List CString := l.entries.map tTag.uid

/-- A card handle, by the call of `SCardConnect` that returned it. -/
structure tCardHandle where
  slot : Nat
  serial : Nat
  reader : CString
deriving DecidableEq

/-- The drivers of `readerDriverTable`. -/
inductive tReaderDriver where
  | acr122U
deriving DecidableEq

/-- A pointer into a buffer of reader names. -/
structure NamePtr where
  block : Nat
  offset : Nat
deriving DecidableEq

/-- The buffer `mszReaders`: its block and the characters `SCardListReaders` put into it. -/
structure Multistring where
  block : Nat
  chars : List Char
deriving DecidableEq

/-- A slot of `readers[]`. -/
structure tReader where
  name : Option NamePtr
  hCard : Option tCardHandle
  pDriver : Option tReaderDriver
  driverDescriptor : Option CString
  SAM : Bool
  SAM_serial : CString
  SAM_id : CString
  scanning : Bool
  tagList : tTagList TagPtr
deriving DecidableEq

/-- What `RESET_READER` leaves. -/
def tReader.reset : tReader where
  name := none
  hCard := none
  pDriver := none
  driverDescriptor := none
  SAM := false
  SAM_serial := []
  SAM_id := []
  scanning := false
  tagList := .empty

/-- The reader manager: what is known of pcscd, of the readers and of their tags. -/
structure tReaderManager where
  nbReaders : Nat
  readers : Nat → tReader
  mszReaders : Option Multistring
  hContext : Option Nat
  tagList : tTagList TagArray
  readerSetting : BitVec 32

/-- All readers are asked for. -/
def READER_BIT_AUTO : BitVec 32 := 1#32

/-- The bits of `bitmap` that are set. -/
def tReaderManager.readersSettingBitmapBitTest (m : tReaderManager) (bitmap : BitVec 32) :
    BitVec 32 := m.readerSetting &&& bitmap

/-- `readersSettingBitmapNumberTest`; bit 0 is reserved for AUTO. -/
def tReaderManager.readersSettingBitmapNumberTest (m : tReaderManager) (bitNumber : Nat) :
    BitVec 32 := m.readerSetting &&& (1#32 <<< (bitNumber + 1))

/-- `automatic`, as every function of the library computes it. -/
def tReaderManager.automatic (m : tReaderManager) : Bool :=
  m.readersSettingBitmapBitTest READER_BIT_AUTO ≠ 0#32

/-- `automatic || readersSettingBitmapNumberTest( pManager, num )`. -/
def tReaderManager.wanted (m : tReaderManager) (num : Nat) : Bool :=
  m.automatic || m.readersSettingBitmapNumberTest num ≠ 0#32

/-- A reader name as pcscd reports it. -/
abbrev ReaderName := {s : CString // s ≠ [] ∧ '\x00' ∉ s}

/-- The multi-string of a list of reader names: each followed by a NUL, plus one final NUL. -/
def multiString (names : List ReaderName) : List Char :=
  names.flatMap (fun s => s.val ++ ['\x00']) ++ ['\x00']

/-- `strlen` of the string that starts at the head of the list. -/
def strlen (s : List Char) : Nat := (s.takeWhile (· ≠ '\x00')).length

/-- The C string found at an offset of a buffer. -/
def cstrAt (chars : List Char) (offset : Nat) : CString :=
  (chars.drop offset).takeWhile (· ≠ '\x00')

/-- The kinds of events. -/
inductive tEventType where
  | TAG_IN
  | TAG_OUT
  | READER_DETECTED
  | READER_CONNECTED_TO
  | READER_LOST
  | READER_DISCONNECT
  | PCSCD_CONNECT
  | PCSCD_FAIL
  | PCSCD_DISCONNECT
deriving DecidableEq

/-- A call of `eventDispatch`: the event, the UID of its tag (if it has one) and its reader. -/
structure Event where
  eventType : tEventType
  uid : Option CString
  readerNumber : Nat
deriving DecidableEq

end TagEventor
