import TagEventor.Reader.World

/-!
# The driver of the ACR122U

`acr122UDriver.c`, as programs that talk to one card (`CardProg`). A driver routine gets the name
text of its reader and the initial content of its local receive buffer as arguments; `pReader` is
returned with the fields the routine writes.
-/

namespace TagEventor

/-- The header of a command for the tags; its length follows. -/
def APDU_DIRECT_TRANSMIT : List BYTE := [0xff, 0x00, 0x00, 0x00]
/-- JCOP tags shall be found as emulating a DESFire. -/
def APDU_RATS_14443_4_OFF : List BYTE := [0xd4, 0x12, 0x24]
/-- Look for tags. -/
def APDU_POLL_MIFARE : List BYTE := [0xd4, 0x4a, 0x01, 0x00]
/-- Fetch a reply; its length follows. -/
def APDU_GET_RESPONSE : List BYTE := [0xff, 0xc0, 0x00, 0x00]
/-- Ask for the serial number of the SAM. -/
def APDU_GET_SAM_SERIAL : List BYTE := [0x80, 0x14, 0x00, 0x00, 0x08]
/-- Ask for the ID of the SAM. -/
def APDU_GET_SAM_ID : List BYTE := [0x80, 0x14, 0x04, 0x00, 0x06]
/-- Set how often a command is tried again. -/
def APDU_SET_RETRY : List BYTE := [0xd4, 0x32, 0x05, 0x00, 0x00, 0x00]
/-- Ask for the firmware of the reader. -/
def APDU_GET_READER_FIRMWARE : List BYTE := [0xff, 0x00, 0x48, 0x00, 0x00]

/-- The index of the first byte of a status word. -/
def SW1 : Nat := 0
/-- The index of the second byte of a status word. -/
def SW2 : Nat := 1
/-- The index of the number of tags in a reply. -/
def NUM_TAGS_FOUND : Nat := 2
/-- The index of the byte that tells the kind of a tag. -/
def SEL_RES_BYTE : Nat := 6
/-- The index of the length of a UID. -/
def UID_LENGTH : Nat := 7
/-- The index of the first byte of a UID. -/
def UID_START : Nat := 8

/-- A reply waits to be fetched. -/
def SW1_SUCCESS : BYTE := 0x61

/-- The size of the buffer for the replies of a check. -/
def MAX_FIRMWARE_STRING_LENGTH : Nat := 30
/-- A poll finds two tags at most. -/
def ACR122U_MAX_NUM_TAGS : Nat := 2

/-- `sizeof(pbRecvBuffer)` in `acr122UGetTagList`. -/
def RECV_BUFFER_SIZE : Nat := 40

/-- What the names of supported readers begin with. -/
def SUPPORTED_READER_NAME_ARRAY : List CString := ["ACS ACR 38U-CCID".toList]
/-- What the firmware of supported readers begins with. -/
def SUPPORTED_READER_FIRMWARE_ARRAY : List CString := ["ACR122U".toList]

/-- `sizeof` of an entry of these arrays: the size of a `const char *` on a 64-bit build. -/
def SIZEOF_POINTER : Nat := 8

/-- `SEL_RES_MIFARE_ULTRA` .. `SEL_RES_GEMPLUS_MPCOS`, as a `tTagType`. -/
def tagTypeOfSel (sel : BYTE) : tTagType :=
  if sel = 0x00 then .MIFARE_ULTRA
  else if sel = 0x08 then .MIFARE_1K
  else if sel = 0x09 then .MIFARE_MINI
  else if sel = 0x18 then .MIFARE_4K
  else if sel = 0x20 then .MIFARE_DESFIRE
  else if sel = 0x28 then .JCOP30
  else if sel = 0x98 then .GEMPLUS_MPCOS
  else .UNKNOWN_TYPE

/-- The SEL bytes whose targets are processed. -/
def isMifareSel (sel : BYTE) : Bool :=
  sel = 0x00 ∨ sel = 0x08 ∨ sel = 0x09 ∨ sel = 0x18 ∨ sel = 0x20

/-- The buffer after the bytes of an answer were written to its start. -/
def Buffer.fill (b : Buffer) (recv : List BYTE) : Buffer := fun i => recv.getD i (b i)

/-- `%02x` of a byte. -/
def hexByte (b : BYTE) : CString := [Nat.digitChar (b.toNat / 16), Nat.digitChar (b.toNat % 16)]

/-- `sPrintBufferHex`; the length is a signed `char`, so one from 128 on prints nothing. -/
def sPrintBufferHex (num : BYTE) (byteSource : Buffer) (start : Nat) : CString :=
  if num < 128 then (List.range num.toNat).flatMap fun j => hexByte (byteSource (start + j)) else []

/-- `strncmp( s, t, n ) == 0`. -/
def strncmpEq (s t : CString) (n : Nat) : Bool := s.take n = t.take n

/-- The C string at the start of a buffer whose byte `len` is the terminator. -/
def bufferString (b : Buffer) (len : Nat) : CString :=
  ((List.range len).map fun i => Char.ofNat (b i).toNat).takeWhile (· ≠ '\x00')

/-- `apduSend`; returns the code, the receive buffer and `*dwRecvLength`. -/
def apduSend (apdu : List BYTE) (pbRecvBuffer : Buffer) (dwRecvLength : Nat) :
    CardProg (LONG × Buffer × Nat) := do
  let rBufferMax := dwRecvLength
  let psuedoAPDU : Bool := apdu.head? = some 0xd4
  let header := if psuedoAPDU then APDU_DIRECT_TRANSMIT ++ [UInt8.ofNat apdu.length] else []
  let (rv, recv) ← SCardTransmit (header ++ apdu) dwRecvLength
  let pbRecvBuffer := pbRecvBuffer.fill recv
  if rv = SCARD_S_SUCCESS ∧ psuedoAPDU then
    -- command went OK?
    if pbRecvBuffer SW1 ≠ SW1_SUCCESS then
      return (SCARD_F_COMM_ERROR, pbRecvBuffer, recv.length)
    -- are there response bytes to get?
    else if pbRecvBuffer SW2 > 0 then
      let (rv, recv) ← SCardTransmit (APDU_GET_RESPONSE ++ [pbRecvBuffer SW2]) rBufferMax
      return (rv, pbRecvBuffer.fill recv, recv.length)
    else return (rv, pbRecvBuffer, 0)
  else return (rv, pbRecvBuffer, recv.length)

/-- The locals of `acr122UGetTagList`: the array it fills, the number of tags and the buffer. -/
structure TagPoll where
  pTags : Nat → tTag
  numTags : Nat
  pbRecvBuffer : Buffer

/-- Write the contents of `pTags[i]`. -/
def TagPoll.setContents (s : TagPoll) (i : Nat) (c : tTagContents) : TagPoll :=
  { s with pTags := Function.update s.pTags i { s.pTags i with contents := c } }

/-- Write the type and the UID of `pTags[numTags]`. -/
def TagPoll.setTag (s : TagPoll) (tagType : tTagType) (uid : CString) : TagPoll :=
  { s with pTags := Function.update s.pTags s.numTags { s.pTags s.numTags with tagType, uid } }

/-- What round `i` does with the answer in its buffer. -/
def TagPoll.process (s : TagPoll) (i : Nat) : TagPoll :=
  let b := s.pbRecvBuffer
  if b SW1 = 0xD5 ∧ b SW2 = 0x4B ∧ b NUM_TAGS_FOUND ≠ 0x00 then
    if isMifareSel (b SEL_RES_BYTE) then
      let s := s.setTag (tagTypeOfSel (b SEL_RES_BYTE)) (sPrintBufferHex (b UID_LENGTH) b UID_START)
      -- the first round counts its tag, the others compare it with the ones already listed
      if i = 0 then { s with numTags := s.numTags + 1 }
      else if ∃ other < s.numTags, (s.pTags i).uid = (s.pTags other).uid then s
      else { s with numTags := s.numTags + 1 }
    else s.setTag (tagTypeOfSel (b SEL_RES_BYTE)) "UID Unknown".toList
  else s

/-- The rounds `i`, .., `i + n - 1` of the loop of `acr122UGetTagList`. -/
def acr122UGetTagList.loop : Nat → Nat → LONG → TagPoll → CardProg (LONG × TagPoll)
  | 0, _, rv, s => return (rv, s)
  | n + 1, i, _, s => do
    let s := s.setContents i .empty
    let (rv, pbRecvBuffer, _) ← apduSend APDU_POLL_MIFARE s.pbRecvBuffer RECV_BUFFER_SIZE
    let s := { s with pbRecvBuffer }
    if rv = SCARD_S_SUCCESS then acr122UGetTagList.loop n (i + 1) rv (s.process i)
    else return (rv, s)

/-- `acr122UGetTagList`; returns the code, `pReader->tagList.numTags` and `pTags`. -/
def acr122UGetTagList (stack : Buffer) (pTags : Nat → tTag) :
    CardProg (LONG × Nat × (Nat → tTag)) := do
  let (rv, s) ← acr122UGetTagList.loop ACR122U_MAX_NUM_TAGS 0 SCARD_S_SUCCESS ⟨pTags, 0, stack⟩
  return (rv, s.numTags, s.pTags)

/-- `acr122UReaderCheck`; returns the code, `*pReaderSupported` and `*pReader`. -/
def acr122UReaderCheck (pReader : tReader) (name : CString) (stack : Buffer) :
    CardProg (LONG × Bool × tReader) := do
  -- first check the name reported by pcscd
  if ¬ SUPPORTED_READER_NAME_ARRAY.any (strncmpEq name · (SIZEOF_POINTER - 1)) then
    return (SCARD_S_SUCCESS, false, pReader)
  -- get the firmware version and check it is really an ACR122
  let (rv, buf, len) ← apduSend APDU_GET_READER_FIRMWARE stack MAX_FIRMWARE_STRING_LENGTH
  if rv ≠ SCARD_S_SUCCESS then return (rv, false, pReader)
  let buf : Buffer := Function.update buf len 0
  if ¬ SUPPORTED_READER_FIRMWARE_ARRAY.any
      (strncmpEq (bufferString buf len) · (SIZEOF_POINTER - 1)) then
    return (SCARD_S_SUCCESS, false, pReader)
  -- the ATR tells if there is a SAM in the reader
  let (_, atr) ← SCardStatus
  let (rv, buf, len) ← apduSend APDU_SET_RETRY buf MAX_FIRMWARE_STRING_LENGTH
  if rv ≠ SCARD_S_SUCCESS then return (rv, true, pReader)
  if atr.getD SW1 0 ≠ 0x3B ∨ atr.getD SW2 0 ≠ 0x00 then
    let (rv, buf, len) ← apduSend APDU_GET_SAM_SERIAL buf MAX_FIRMWARE_STRING_LENGTH
    if rv ≠ SCARD_S_SUCCESS then return (rv, true, pReader)
    let pReader := { pReader with SAM_serial := sPrintBufferHex (UInt8.ofNat len) buf 0 }
    let (rv, buf, len) ← apduSend APDU_GET_SAM_ID buf MAX_FIRMWARE_STRING_LENGTH
    if rv ≠ SCARD_S_SUCCESS then return (rv, true, pReader)
    let pReader := { pReader with SAM_id := sPrintBufferHex (UInt8.ofNat len) buf 0, SAM := true }
    -- turning RATS off; the capacity passed is what the exchange before left in `dwRecvLength`
    let _ ← apduSend APDU_RATS_14443_4_OFF buf len
    return (SCARD_S_SUCCESS, true, pReader)
  else
    let _ ← apduSend APDU_RATS_14443_4_OFF buf len
    return (SCARD_S_SUCCESS, true, pReader)

namespace tReaderDriver

/-- The entry point that checks a reader. -/
def readerCheck : tReaderDriver → tReader → CString → Buffer → CardProg (LONG × Bool × tReader)
  | acr122U => acr122UReaderCheck

/-- The entry point that polls for tags. -/
def getTagList : tReaderDriver → Buffer → (Nat → tTag) → CardProg (LONG × Nat × (Nat → tTag))
  | acr122U => acr122UGetTagList

/-- The name of a driver. -/
def driverDescriptor : tReaderDriver → CString
  | acr122U => "Andrew's acr122U driver".toList

/-- How many tags a driver finds at most. -/
def maxTags : tReaderDriver → Nat
  | acr122U => ACR122U_MAX_NUM_TAGS

end tReaderDriver

/-- The drivers, in the order in which they are tried. -/
def readerDriverTable : List tReaderDriver := [.acr122U]

end TagEventor
