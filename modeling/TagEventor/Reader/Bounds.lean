import TagEventor.Reader.Polled

/-!
# Where the bytes of a UID come from and go to

`acr122UGetTagList` takes the length of a UID from the answer of the card. It bounds neither the
bytes that are read from the receive buffer nor the text that is written into the `uid` of a tag.
Both stay in bounds exactly if the length is at most 9, or negative as a `char`, and does not go
beyond the bytes that were received (`uids_in_bounds_iff`).
-/

namespace TagEventor
open Interact

/-- `MAX_TAG_UID_SIZE`, the size of a `tUID`. -/
def MAX_TAG_UID_SIZE : Nat := 20

/-- The answer in the buffer says that a target was found. -/
def Buffer.Found (b : Buffer) : Prop := b SW1 = 0xD5 ∧ b SW2 = 0x4B ∧ b NUM_TAGS_FOUND ≠ 0x00

instance (b : Buffer) : Decidable b.Found := inferInstanceAs (Decidable (_ ∧ _ ∧ _))

/-- The SEL byte of the target that was found, and the text for its UID. -/
def Buffer.target (b : Buffer) : Option (BYTE × CString) :=
  if b.Found then
    some (b SEL_RES_BYTE,
      if isMifareSel (b SEL_RES_BYTE) then sPrintBufferHex (b UID_LENGTH) b UID_START
      else "UID Unknown".toList)
  else none

/-- Enter a target into the array in round `i`. -/
def TagPoll.enter (s : TagPoll) (i : Nat) : Option (BYTE × CString) → TagPoll
  | none => s
  | some (sel, text) =>
    let s := s.setTag (tagTypeOfSel sel) text
    if isMifareSel sel then
      if i = 0 then { s with numTags := s.numTags + 1 }
      else if ∃ other < s.numTags, (s.pTags i).uid = (s.pTags other).uid then s
      else { s with numTags := s.numTags + 1 }
    else s

/-- A reply is processed by entering the target it announces. -/
lemma process_enter {s : TagPoll} {i} : s.process i = s.enter i s.pbRecvBuffer.target := by
  unfold TagPoll.process Buffer.target
  dsimp only
  by_cases found : s.pbRecvBuffer.Found
  · refine (if_pos found).trans ?_
    rw [if_pos found]
    dsimp only [TagPoll.enter]
    split
    · rfl
    · rfl
  · exact (if_neg found).trans (by rw [if_neg found]; rfl)

/-- To enter a tag leaves the buffer alone. -/
@[simp] lemma enter_pbRecvBuffer {s : TagPoll} {i t} :
    (s.enter i t).pbRecvBuffer = s.pbRecvBuffer := by
  unfold TagPoll.enter
  split
  · rfl
  dsimp only
  split_ifs <;> rfl

/-- The answers to the polls of a call that do not fail: the buffer with the answer, and its
length. -/
def acr122UGetTagList.polls : Nat → Buffer → CardProg (List (Buffer × Nat))
  | 0, _ => return []
  | n + 1, buf => do
    let (rv, buf, len) ← apduSend APDU_POLL_MIFARE buf RECV_BUFFER_SIZE
    if rv = SCARD_S_SUCCESS then return (buf, len) :: (← acr122UGetTagList.polls n buf)
    else return []

/-- Enter what was found in the polls from round `i` on. -/
def TagPoll.enterAll (s : TagPoll) (i : Nat) : List (Buffer × Nat) → TagPoll
  | [] => s
  | (buf, _) :: polls =>
    (({ s.setContents i .empty with pbRecvBuffer := buf } : TagPoll).enter i buf.target).enterAll
      (i + 1) polls

/-- The number of tags, and the type and the UID of every entry, listed or not. -/
def TagPoll.written (s : TagPoll) : Nat × (Nat → tTagType × CString) :=
  (s.numTags, fun j => ((s.pTags j).tagType, (s.pTags j).uid))

/-- The contents and the buffer are no part of what is written for a tag. -/
lemma written_setContents {s : TagPoll} {i c buf} :
    ({ s.setContents i c with pbRecvBuffer := buf } : TagPoll).written = s.written := by
  simp only [TagPoll.written, TagPoll.setContents]
  congr 1
  funext j
  by_cases hj : j = i
  · subst hj
    simp
  · simp [hj]

/-- All that is written into the array comes from the polls. -/
lemma loop_polls {σ : Type} {answer : CardRequest → σ → (LONG × List BYTE) × σ} {n i rv}
    {s : TagPoll} {t : σ} :
    ((acr122UGetTagList.loop n i rv s).run answer t).1.2.written =
      (s.enterAll i ((acr122UGetTagList.polls n s.pbRecvBuffer).run answer t).1).written := by
  induction n generalizing i rv s t with
  | zero => rfl
  | succ n ih =>
    rw [acr122UGetTagList.loop, acr122UGetTagList.polls, Prog.run_bind, Prog.run_bind]
    rw [show (s.setContents i .empty).pbRecvBuffer = s.pbRecvBuffer from rfl]
    generalize (apduSend APDU_POLL_MIFARE s.pbRecvBuffer RECV_BUFFER_SIZE).run answer t = r
    obtain ⟨⟨rv, buf, len⟩, t1⟩ := r
    dsimp only
    by_cases ok : rv = SCARD_S_SUCCESS
    · rw [if_pos ok, if_pos ok, ih, process_enter, Prog.run_bind]
      rw [enter_pbRecvBuffer]
      rfl
    · rw [if_neg ok, if_neg ok]
      exact written_setContents

/-- The positions of the bytes `sPrintBufferHex` reads. -/
def hexPositions (num : BYTE) (start : Nat) : List Nat :=
  if num < 128 then List.range' start num.toNat else []

/-- The text is made of the bytes at these positions. -/
lemma sPrintBufferHex_positions {num : BYTE} {b : Buffer} {start} :
    sPrintBufferHex num b start = (hexPositions num start).flatMap fun p => hexByte (b p) := by
  unfold sPrintBufferHex hexPositions
  split
  · rw [List.range'_eq_map_range, List.flatMap_map]
  · rfl

/-- Two digits for each byte, unless the number is negative as a `char`. -/
lemma sPrintBufferHex_length {num : BYTE} {b : Buffer} {start} :
    (sPrintBufferHex num b start).length = if num < 128 then 2 * num.toNat else 0 := by
  unfold sPrintBufferHex
  split
  · induction num.toNat with
    | zero => rfl
    | succ n ih =>
      rw [List.range_succ, List.flatMap_append, List.length_append, ih]
      rfl
  · rfl

/-- The positions of the UID bytes a round reads. -/
def Buffer.uidPositions (b : Buffer) : List Nat :=
  if b.Found ∧ isMifareSel (b SEL_RES_BYTE) = true then hexPositions (b UID_LENGTH) UID_START
  else []

/-- The text for the UID, with its NUL, fits into a `tUID`, and the UID lies in the first `len`
bytes of the buffer. -/
structure UidInBounds (b : Buffer) (len : Nat) : Prop where
  fits : ∀ t ∈ b.target, t.2.length + 1 ≤ MAX_TAG_UID_SIZE
  received : ∀ p ∈ b.uidPositions, p < len

instance (b : Buffer) (len : Nat) : Decidable (UidInBounds b len) :=
  decidable_of_iff ((∀ t ∈ b.target, t.2.length + 1 ≤ MAX_TAG_UID_SIZE) ∧
    ∀ p ∈ b.uidPositions, p < len) ⟨fun h => ⟨h.1, h.2⟩, fun h => ⟨h.1, h.2⟩⟩

/-- The length of the UID of a target whose bytes are printed. -/
def UidFits (b : Buffer) (len : Nat) : Prop :=
  b.Found → isMifareSel (b SEL_RES_BYTE) = true →
    b UID_LENGTH = 0 ∨ 128 ≤ b UID_LENGTH ∨
      b UID_LENGTH ≤ 9 ∧ UID_START + (b UID_LENGTH).toNat ≤ len

/-- The bytes that are printed lie in the buffer. -/
lemma hexPositions_lt {num : BYTE} {start len} :
    (∀ p ∈ hexPositions num start, p < len) ↔
      num = 0 ∨ 128 ≤ num ∨ start + num.toNat ≤ len := by
  unfold hexPositions
  have zero : num = 0 ↔ num.toNat = 0 := by
    rw [← UInt8.toNat_inj]
    rfl
  rw [zero, UInt8.le_iff_toNat_le]
  split
  next signed =>
    rw [UInt8.lt_iff_toNat_lt] at signed
    constructor
    · intro h
      by_cases pos : num.toNat = 0
      · exact .inl pos
      · have last := h (start + (num.toNat - 1)) (List.mem_range'_1.2 (by omega))
        omega
    · intro h p hp
      have range := List.mem_range'_1.1 hp
      have : (128 : BYTE).toNat = 128 := rfl
      omega
  next signed =>
    rw [UInt8.lt_iff_toNat_lt, Nat.not_lt] at signed
    exact iff_of_true nofun (.inr (.inl signed))

/-- The text of a UID fits into a `tUID` if it has at most 9 bytes. -/
lemma sPrintBufferHex_fits {num : BYTE} {b : Buffer} {start} :
    (sPrintBufferHex num b start).length + 1 ≤ MAX_TAG_UID_SIZE ↔ num ≤ 9 ∨ 128 ≤ num := by
  have nine : num ≤ 9 ↔ num.toNat ≤ 9 := UInt8.le_iff_toNat_le
  have signed : 128 ≤ num ↔ 128 ≤ num.toNat := UInt8.le_iff_toNat_le
  rw [sPrintBufferHex_length, nine, signed, MAX_TAG_UID_SIZE]
  split
  next h =>
    have h : num.toNat < 128 := UInt8.lt_iff_toNat_lt.1 h
    omega
  next h =>
    have h : 128 ≤ num.toNat := Nat.le_of_not_lt fun lt => h (UInt8.lt_iff_toNat_lt.2 lt)
    omega

/-- An answer is dealt with in bounds iff its UID is short enough. -/
lemma uidInBounds_iff {b : Buffer} {len} : UidInBounds b len ↔ UidFits b len := by
  by_cases h : b.Found ∧ isMifareSel (b SEL_RES_BYTE) = true
  · have target : b.target =
        some (b SEL_RES_BYTE, sPrintBufferHex (b UID_LENGTH) b UID_START) := by
      rw [Buffer.target, if_pos h.1, if_pos h.2]
    have positions : b.uidPositions = hexPositions (b UID_LENGTH) UID_START := if_pos h
    have zero : b UID_LENGTH = 0 → b UID_LENGTH ≤ 9 := by
      intro e
      rw [e]
      decide
    constructor
    · intro bounds _ _
      have fits := sPrintBufferHex_fits.1 (bounds.fits _ target)
      have received := bounds.received
      rw [positions, hexPositions_lt] at received
      tauto
    · intro fits
      have short := fits h.1 h.2
      constructor
      · intro t ht
        rw [target] at ht
        cases ht
        exact sPrintBufferHex_fits.2 (by tauto)
      · rw [positions, hexPositions_lt]
        tauto
  · have unread : b.uidPositions = [] := if_neg h
    refine iff_of_true ⟨fun t ht => ?_, ?_⟩ fun found known => absurd ⟨found, known⟩ h
    · -- the text is the constant one
      unfold Buffer.target at ht
      split at ht
      next found =>
        cases ht
        rw [if_neg fun known => h ⟨found, known⟩]
        exact Nat.le_of_ble_eq_true rfl
      next => cases ht
    · rw [unread]
      exact nofun

/-- A call writes what its polls enter. -/
lemma getTagList_polls {σ : Type} {answer : CardRequest → σ → (LONG × List BYTE) × σ}
    {stack : Buffer} {pTags} {s : σ} :
    let x := ((acr122UGetTagList stack pTags).run answer s).1
    (x.2.1, fun j => ((x.2.2 j).tagType, (x.2.2 j).uid)) =
      (TagPoll.enterAll ⟨pTags, 0, stack⟩ 0
        ((acr122UGetTagList.polls ACR122U_MAX_NUM_TAGS stack).run answer s).1).written := by
  have h := @loop_polls _ answer ACR122U_MAX_NUM_TAGS 0 SCARD_S_SUCCESS ⟨pTags, 0, stack⟩ s
  unfold acr122UGetTagList
  rw [Prog.run_bind]
  exact h

/-- What a call writes into the array of tags comes from its polls, and it stays in bounds there iff
every UID that is found is short enough. -/
theorem uids_in_bounds_iff {σ : Type} {answer : CardRequest → σ → (LONG × List BYTE) × σ}
    {stack : Buffer} {pTags} {s : σ} :
    let x := ((acr122UGetTagList stack pTags).run answer s).1
    let polls := ((acr122UGetTagList.polls ACR122U_MAX_NUM_TAGS stack).run answer s).1
    (x.2.1, fun j => ((x.2.2 j).tagType, (x.2.2 j).uid)) =
        (TagPoll.enterAll ⟨pTags, 0, stack⟩ 0 polls).written ∧
      ((∀ p ∈ polls, UidInBounds p.1 p.2) ↔ ∀ p ∈ polls, UidFits p.1 p.2) :=
  ⟨getTagList_polls, forall₂_congr fun _ _ => uidInBounds_iff⟩

/-- The answers to a poll that finds a tag with a UID of ten bytes, and nothing afterwards. -/
def tripleSizeUid : List (LONG × List BYTE) :=
  [(SCARD_S_SUCCESS, [SW1_SUCCESS, 18]),
    (SCARD_S_SUCCESS, [0xD5, 0x4B, 1, 1, 0x00, 0x04, 0x08, 10, 0x88, 1, 2, 3, 4, 5, 6, 7, 8, 9]),
    (SCARD_F_COMM_ERROR, [])]

/-- The text for a UID of ten bytes takes 21 characters. -/
theorem uid_overruns_tripleSizeUid :
    ¬ ∀ p ∈ ((acr122UGetTagList.polls ACR122U_MAX_NUM_TAGS fun _ => 0).run
        (inOrder fun n => tripleSizeUid.getD n (SCARD_F_COMM_ERROR, [])) []).1,
      UidInBounds p.1 p.2 := by
  decide +kernel

end TagEventor
