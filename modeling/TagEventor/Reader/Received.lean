import Mathlib.Data.List.GetD
import TagEventor.Reader.Bounds
import TagEventor.Reader.Exchange

/-!
# What is decoded was received

`acr122UGetTagList` and `apduSend` work on a buffer on the stack, whose length of valid bytes they
do not look at. The bytes that were received since the call began are a prefix of the buffer
(`overwrite`); `OnlyReceived` says that every byte that decides something lies in it. The outcome
of a call is independent of what the stack held before exactly in this case
(`independent_iff_onlyReceived`).
-/

namespace TagEventor
open Interact

/-- The bytes at the start of a buffer, after an answer was written over them. -/
def overwrite (recv known : List BYTE) : List BYTE := recv ++ known.drop recv.length

/-- No byte is forgotten. -/
lemma length_overwrite {recv known : List BYTE} :
    known.length ≤ (overwrite recv known).length := by
  rw [overwrite, List.length_append, List.length_drop]
  exact Nat.sub_le_iff_le_add'.1 (Nat.le_refl _)

/-- An answer is written over what was received before. -/
lemma fill_fill {b : Buffer} {known recv} :
    (b.fill known).fill recv = b.fill (overwrite recv known) := by
  funext i
  simp only [Buffer.fill, overwrite]
  by_cases hi : i < recv.length
  · rw [List.getD_append _ _ _ _ hi, List.getD_eq_getElem _ _ hi, List.getD_eq_getElem _ _ hi]
  · rw [List.getD_append_right _ _ _ _ (Nat.le_of_not_lt hi),
      List.getD_eq_default _ _ (Nat.le_of_not_lt hi), List.getD_eq_getElem?_getD,
      List.getD_eq_getElem?_getD, List.getElem?_drop, Nat.add_sub_cancel' (Nat.le_of_not_lt hi)]

/-- A received byte does not depend on what the buffer held before. -/
lemma fill_of_lt {b : Buffer} {known : List BYTE} {i} (hi : i < known.length) :
    b.fill known i = known.getD i 0 := by
  rw [Buffer.fill, List.getD_eq_getElem _ _ hi, List.getD_eq_getElem _ _ hi]

/-- Behind the received bytes the buffer is as it was. -/
lemma fill_of_ge {b : Buffer} {known : List BYTE} {i} (hi : known.length ≤ i) :
    b.fill known i = b i := List.getD_eq_default _ _ hi

/-- What `apduSend` makes of the received bytes, if it need not look at any other: the code, the
bytes received then, and the number of answers used up. -/
def sendReceived (answers : Nat → LONG × List BYTE) (n : Nat) (known : List BYTE) :
    Option (LONG × List BYTE × Nat) :=
  let known := overwrite (answers n).2 known
  if (answers n).1 ≠ SCARD_S_SUCCESS then some ((answers n).1, known, n + 1)
  else if known.length ≤ SW1 then none
  else if known.getD SW1 0 ≠ SW1_SUCCESS then some (SCARD_F_COMM_ERROR, known, n + 1)
  else if known.length ≤ SW2 then none
  else if known.getD SW2 0 = 0 then some (SCARD_S_SUCCESS, known, n + 1)
  else some ((answers (n + 1)).1, overwrite (answers (n + 1)).2 known, n + 2)

/-- The received bytes tell if there is a target, and its UID if it has one. -/
def Decodable (known : List BYTE) : Prop :=
  known.getD SW1 0 = 0xD5 → known.getD SW2 0 = 0x4B →
    NUM_TAGS_FOUND < known.length ∧
      (known.getD NUM_TAGS_FOUND 0 ≠ 0 → SEL_RES_BYTE < known.length ∧
        (isMifareSel (known.getD SEL_RES_BYTE 0) = true → UID_LENGTH < known.length ∧
          (known.getD UID_LENGTH 0 < 128 →
            UID_START + (known.getD UID_LENGTH 0).toNat ≤ known.length)))

instance (known : List BYTE) : Decidable (Decodable known) :=
  inferInstanceAs (Decidable (_ → _ → _))

/-- Every byte that decides about one of the next polls was received. -/
def OnlyReceived (answers : Nat → LONG × List BYTE) : Nat → Nat → List BYTE → Prop
  | 0, _, _ => True
  | m + 1, n, known =>
    match sendReceived answers n known with
    | none => False
    | some (rv, known, n) =>
      rv = SCARD_S_SUCCESS → Decodable known ∧ OnlyReceived answers m n known

/-- The ways in which an exchange ends that looks at received bytes only. -/
inductive ReceivedOutcome (answers : Nat → LONG × List BYTE) (n : Nat) (known : List BYTE) :
    LONG × List BYTE × Nat → Prop where
  | error :
    (answers n).1 ≠ SCARD_S_SUCCESS →
    ReceivedOutcome answers n known ((answers n).1, overwrite (answers n).2 known, n + 1)
  | refused :
    (answers n).1 = SCARD_S_SUCCESS →
    SW1 < (overwrite (answers n).2 known).length →
    (overwrite (answers n).2 known).getD SW1 0 ≠ SW1_SUCCESS →
    ReceivedOutcome answers n known (SCARD_F_COMM_ERROR, overwrite (answers n).2 known, n + 1)
  | empty :
    (answers n).1 = SCARD_S_SUCCESS →
    SW2 < (overwrite (answers n).2 known).length →
    (overwrite (answers n).2 known).getD SW1 0 = SW1_SUCCESS →
    (overwrite (answers n).2 known).getD SW2 0 = 0 →
    ReceivedOutcome answers n known (SCARD_S_SUCCESS, overwrite (answers n).2 known, n + 1)
  | fetched :
    (answers n).1 = SCARD_S_SUCCESS →
    SW2 < (overwrite (answers n).2 known).length →
    (overwrite (answers n).2 known).getD SW1 0 = SW1_SUCCESS →
    (overwrite (answers n).2 known).getD SW2 0 ≠ 0 →
    ReceivedOutcome answers n known
      ((answers (n + 1)).1, overwrite (answers (n + 1)).2 (overwrite (answers n).2 known), n + 2)

/-- The exchange ends in one of these ways. -/
lemma sendReceived_outcome {answers : Nat → LONG × List BYTE} {n known x}
    (h : sendReceived answers n known = some x) : ReceivedOutcome answers n known x := by
  unfold sendReceived at h
  dsimp only at h
  split at h
  next error =>
    cases h
    exact .error error
  next ok =>
  have ok := not_not.1 ok
  split at h
  next => cases h
  next sw1 =>
  split at h
  next refused =>
    cases h
    exact .refused ok (Nat.lt_of_not_le sw1) refused
  next accepted =>
  have accepted := not_not.1 accepted
  split at h
  next => cases h
  next sw2 =>
  split at h
  next zero =>
    cases h
    exact .empty ok (Nat.lt_of_not_le sw2) accepted zero
  next some =>
    cases h
    exact .fetched ok (Nat.lt_of_not_le sw2) accepted some

/-- An exchange that succeeds has received the two bytes that decided so. -/
lemma sendReceived_two {answers : Nat → LONG × List BYTE} {n known x}
    (h : sendReceived answers n known = some x) (success : x.1 = SCARD_S_SUCCESS) :
    2 ≤ x.2.1.length := by
  cases sendReceived_outcome h with
  | error error => exact absurd success error
  | refused => cases success
  | empty _ two => exact two
  | fetched _ two => exact Nat.le_trans two length_overwrite

/-- The request for the targets in the field. -/
abbrev sendPoll : CardRequest := .transmit (directTransmit APDU_POLL_MIFARE) RECV_BUFFER_SIZE

/-- The request for the `n` bytes of a reply to it. -/
abbrev sendFetch (n : BYTE) : CardRequest := .transmit (getResponse n) RECV_BUFFER_SIZE

section
variable {answers : Nat → LONG × List BYTE} {known : List BYTE} {asked : List CardRequest}

/-- The answer to a poll that succeeds. -/
lemma inOrder_poll (ok : (answers asked.length).1 = SCARD_S_SUCCESS) :
    inOrder answers sendPoll asked =
      ((SCARD_S_SUCCESS, (answers asked.length).2), asked ++ [sendPoll]) := by
  rw [inOrder, ← ok]

/-- The answer to the request for its reply. -/
lemma inOrder_fetch {c} :
    inOrder answers (sendFetch c) (asked ++ [sendPoll]) =
      (((answers (asked.length + 1)).1, (answers (asked.length + 1)).2),
        asked ++ [sendPoll] ++ [sendFetch c]) := by
  rw [inOrder, List.length_append]
  rfl

/-- An exchange that looks at received bytes only does not depend on the others. -/
lemma apduSend_received {rv known' n}
    (h : sendReceived answers asked.length known = some (rv, known', n)) :
    ∃ qs len, (asked ++ qs).length = n ∧ ∀ stack : Buffer,
      (apduSend APDU_POLL_MIFARE (stack.fill known) RECV_BUFFER_SIZE).run (inOrder answers) asked =
        ((rv, stack.fill known', len), asked ++ qs) := by
  have byte : ∀ (stack : Buffer) {i}, i < (overwrite (answers asked.length).2 known).length →
      (stack.fill known).fill (answers asked.length).2 i =
        (overwrite (answers asked.length).2 known).getD i 0 := fun stack i hi => by
    rw [fill_fill, fill_of_lt hi]
  cases sendReceived_outcome h with
  | error error =>
    have first : inOrder answers sendPoll asked =
        (((answers asked.length).1, (answers asked.length).2), asked ++ [sendPoll]) := rfl
    refine ⟨[sendPoll], (answers asked.length).2.length, by simp, fun stack => ?_⟩
    rw [apduSend_error rfl first error, fill_fill]
  | refused ok one refused =>
    refine ⟨[sendPoll], (answers asked.length).2.length, by simp, fun stack => ?_⟩
    rw [apduSend_refused rfl (inOrder_poll ok) ((byte stack one).trans_ne refused), fill_fill]
  | empty ok two accepted zero =>
    refine ⟨[sendPoll], 0, by simp, fun stack => ?_⟩
    have one := Nat.lt_trans (show SW1 < SW2 by decide) two
    rw [apduSend_empty rfl (inOrder_poll ok) ((byte stack one).trans accepted)
      ((byte stack two).trans zero), fill_fill]
  | fetched ok two accepted some =>
    refine ⟨[sendPoll, sendFetch ((overwrite (answers asked.length).2 known).getD SW2 0)],
      (answers (asked.length + 1)).2.length, by simp, fun stack => ?_⟩
    have one := Nat.lt_trans (show SW1 < SW2 by decide) two
    rw [apduSend_fetched rfl (inOrder_poll ok) ((byte stack one).trans accepted)
      ((byte stack two).trans_ne some) inOrder_fetch, byte stack two, @fill_fill stack known,
      @fill_fill stack, List.append_assoc]
    rfl

/-- The buffer on the stack makes the exchange fetch `c` bytes, if it decides. -/
def pretend (c : BYTE) : Buffer := fun i => if i = SW1 then SW1_SUCCESS else c

/-- An exchange that looks at other bytes fetches as many bytes as they say. -/
lemma apduSend_unreceived (h : sendReceived answers asked.length known = none) {c : BYTE}
    (hc : c ≠ 0) :
    ((apduSend APDU_POLL_MIFARE ((pretend c).fill known) RECV_BUFFER_SIZE).run (inOrder answers)
      asked).2 = asked ++ [sendPoll, sendFetch c] := by
  unfold sendReceived at h
  dsimp only at h
  split at h
  next => cases h
  next ok =>
  have bytes : ((pretend c).fill known).fill (answers asked.length).2 SW1 = SW1_SUCCESS ∧
      ((pretend c).fill known).fill (answers asked.length).2 SW2 = c := by
    rw [fill_fill]
    split at h
    next sw1 =>
      exact ⟨fill_of_ge sw1, fill_of_ge (Nat.le_trans sw1 (by decide))⟩
    next sw1 =>
    rw [fill_of_lt (Nat.lt_of_not_le sw1)]
    split at h
    next => cases h
    next accepted =>
    split at h
    next sw2 =>
      exact ⟨not_not.1 accepted, fill_of_ge sw2⟩
    next =>
    split at h
    next => cases h
    next => cases h
  rw [apduSend_fetched rfl (inOrder_poll (not_not.1 ok)) bytes.1 (bytes.2.trans_ne hc)
    inOrder_fetch, bytes.2, List.append_assoc]
  rfl

end

/-- Two buffers that agree on the bytes that are looked at, one after the other, have the same
target. -/
lemma target_congr {b b' : Buffer} (sw1 : b SW1 = b' SW1) (sw2 : b SW2 = b' SW2)
    (count : b SW1 = 0xD5 → b SW2 = 0x4B → b NUM_TAGS_FOUND = b' NUM_TAGS_FOUND)
    (sel : b.Found → b SEL_RES_BYTE = b' SEL_RES_BYTE)
    (uid : b.Found → isMifareSel (b SEL_RES_BYTE) = true → b UID_LENGTH = b' UID_LENGTH ∧
      ∀ p ∈ hexPositions (b UID_LENGTH) UID_START, b p = b' p) :
    b.target = b'.target := by
  have found : b.Found ↔ b'.Found := by
    unfold Buffer.Found
    rw [← sw1, ← sw2]
    refine and_congr_right fun d5 => and_congr_right fun b4 => ?_
    rw [count d5 b4]
  by_cases h : b.Found
  swap
  · rw [Buffer.target, Buffer.target, if_neg h, if_neg (mt found.2 h)]
  rw [Buffer.target, Buffer.target, if_pos h, if_pos (found.1 h), ← sel h]
  by_cases mifare : isMifareSel (b SEL_RES_BYTE) = true
  swap
  · rw [if_neg mifare, if_neg mifare]
  obtain ⟨length, bytes⟩ := uid h mifare
  -- the UIDs are the same, byte by byte
  have text : sPrintBufferHex (b UID_LENGTH) b UID_START =
      sPrintBufferHex (b' UID_LENGTH) b' UID_START := by
    rw [← length, sPrintBufferHex_positions, sPrintBufferHex_positions]
    apply List.flatMap_congr
    intro p hp
    rw [bytes p hp]
  rw [if_pos mifare, if_pos mifare, text]

/-- What is decoded from received bytes does not depend on the others. -/
lemma target_received {known : List BYTE} (two : 2 ≤ known.length) (h : Decodable known)
    {stack stack' : Buffer} : (stack.fill known).target = (stack'.fill known).target := by
  have known_eq : ∀ {i}, i < known.length → stack.fill known i = known.getD i 0 := fill_of_lt
  have agree : ∀ {i}, i < known.length → stack.fill known i = stack'.fill known i :=
    fun hi => (fill_of_lt hi).trans (fill_of_lt hi).symm
  have sw1 : SW1 < known.length := Nat.lt_of_lt_of_le (by decide) two
  have sw2 : SW2 < known.length := Nat.lt_of_lt_of_le (by decide) two
  unfold Decodable at h
  rw [← known_eq sw1, ← known_eq sw2] at h
  -- the bytes from the SEL byte on, if a target is found
  have rest := fun found : (stack.fill known).Found =>
    (h found.1 found.2.1).2 (known_eq (h found.1 found.2.1).1 ▸ found.2.2)
  apply target_congr
  · exact agree sw1
  · exact agree sw2
  · exact fun d5 b4 => agree (h d5 b4).1
  · exact fun found => agree (rest found).1
  · intro found mifare
    obtain ⟨sel, uid⟩ := rest found
    obtain ⟨length, bytes⟩ := uid (known_eq sel ▸ mifare)
    rw [← known_eq length] at bytes
    refine ⟨agree length, fun p hp => agree (hexPositions_lt.2 ?_ p hp)⟩
    by_cases signed : stack.fill known UID_LENGTH < 128
    · exact .inr (.inr (bytes signed))
    · exact .inr (.inl (UInt8.not_lt.1 signed))

/-- The buffer on the stack completes every answer to a target whose UID goes on with `c`. -/
def complete (c : BYTE) : Buffer := fun i =>
  if UID_START ≤ i then c else if i = SEL_RES_BYTE then 0 else 1

/-- What is not decidable from the received bytes is completed to a target with a UID that has a
byte from the stack. -/
lemma complete_uid {known : List BYTE} (two : 2 ≤ known.length) (h : ¬ Decodable known) :
    ∃ sel num j, isMifareSel sel = true ∧ num < 128 ∧ j < num.toNat ∧ ∀ c,
      ((complete c).fill known).Found ∧ (complete c).fill known SEL_RES_BYTE = sel ∧
        (complete c).fill known UID_LENGTH = num ∧
        (complete c).fill known (UID_START + j) = c := by
  have agree : ∀ {stack : Buffer} {i}, i < known.length →
      stack.fill known i = known.getD i 0 := fill_of_lt
  have header : ∀ c, ∀ i < UID_START, (complete c).fill known i = (complete 0).fill known i :=
    fun c i hi => by
      rw [Buffer.fill, Buffer.fill, complete, complete, if_neg (Nat.not_le.2 hi),
        if_neg (Nat.not_le.2 hi)]
  unfold Decodable at h
  push Not at h
  obtain ⟨b1, b2, h⟩ := h
  have found : ((complete 0).fill known).Found := by
    refine ⟨?_, ?_, ?_⟩
    · rw [agree (Nat.lt_of_lt_of_le (by decide) two), b1]
    · rw [agree (Nat.lt_of_lt_of_le (by decide) two), b2]
    · by_cases count : NUM_TAGS_FOUND < known.length
      · rw [agree count]
        exact (h count).1
      · rw [fill_of_ge (Nat.le_of_not_lt count)]
        decide
  have mifare : isMifareSel ((complete 0).fill known SEL_RES_BYTE) = true := by
    by_cases sel : SEL_RES_BYTE < known.length
    · rw [agree sel]
      exact ((h (Nat.lt_trans (by decide) sel)).2 sel).1
    · rw [fill_of_ge (Nat.le_of_not_lt sel)]
      decide
  -- the UID ends behind the received bytes
  have uid : (complete 0).fill known UID_LENGTH < 128 ∧
      known.length - UID_START < ((complete 0).fill known UID_LENGTH).toNat := by
    by_cases length : UID_LENGTH < known.length
    · rw [agree length]
      obtain ⟨signed, ends⟩ :=
        ((h (Nat.lt_trans (by decide) length)).2 (Nat.lt_trans (by decide) length)).2 length
      exact ⟨signed, Nat.sub_lt_left_of_lt_add length (by omega)⟩
    · have short := Nat.le_of_not_lt length
      have none : known.length - UID_START = 0 :=
        Nat.sub_eq_zero_of_le (Nat.le_trans short (by decide))
      rw [fill_of_ge short, none]
      decide
  refine ⟨(complete 0).fill known SEL_RES_BYTE, (complete 0).fill known UID_LENGTH,
    known.length - UID_START, mifare, uid.1, uid.2, fun c => ⟨?_, header c _ (by decide),
      header c _ (by decide), ?_⟩⟩
  · unfold Buffer.Found
    rw [header c _ (by decide), header c _ (by decide), header c _ (by decide)]
    exact found
  · rw [fill_of_ge (Nat.sub_le_iff_le_add'.1 (Nat.le_refl _))]
    exact if_pos (Nat.le_add_right _ _)

/-- Equal texts were printed from equal bytes. -/
lemma sPrintBufferHex_injective {num : BYTE} {b b' : Buffer} {start j} (signed : num < 128)
    (h : sPrintBufferHex num b start = sPrintBufferHex num b' start) (hj : j < num.toNat) :
    b (start + j) = b' (start + j) := by
  have e : ∀ b : Buffer, sPrintBufferHex num b start =
      hexText ((List.range num.toNat).map fun j => b (start + j)) := fun b => by
    rw [sPrintBufferHex, if_pos signed, hexText, List.flatMap_map]
  rw [e, e] at h
  exact List.map_inj_left.1 (hexText_injective h) j (List.mem_range.2 hj)

/-- Then two contents of the stack make a difference to the UID. -/
lemma target_complete {known : List BYTE} (two : 2 ≤ known.length) (h : ¬ Decodable known) :
    ∃ sel text text', isMifareSel sel = true ∧ text ≠ text' ∧
      ((complete 0).fill known).target = some (sel, text) ∧
      ((complete 1).fill known).target = some (sel, text') := by
  obtain ⟨sel, num, j, mifare, signed, hj, hc⟩ := complete_uid two h
  have target : ∀ c, ((complete c).fill known).target =
      some (sel, sPrintBufferHex num ((complete c).fill known) UID_START) := fun c => by
    obtain ⟨found, hsel, hnum, -⟩ := hc c
    rw [Buffer.target, if_pos found, hsel, if_pos mifare, hnum]
  refine ⟨sel, _, _, mifare, fun e => ?_, target 0, target 1⟩
  have byte := sPrintBufferHex_injective signed e hj
  rw [(hc 0).2.2.2, (hc 1).2.2.2] at byte
  exact absurd byte (by decide)

/-- The types and UIDs of the tags listed so far. -/
def TagPoll.tags (s : TagPoll) : List (tTagType × CString) :=
  (List.range s.written.1).map s.written.2

/-- What is written behind the tags is none of them yet. -/
lemma tags_setTag {s : TagPoll} {tagType uid} : (s.setTag tagType uid).tags = s.tags := by
  apply List.map_congr_left
  intro j hj
  have lt : j < s.numTags := List.mem_range.1 hj
  simp only [TagPoll.written]
  rw [setTag_of_lt lt]

/-- Counting the entry behind the list appends it. -/
lemma tags_count {s : TagPoll} {tagType uid} :
    ({ s.setTag tagType uid with numTags := s.numTags + 1 } : TagPoll).tags =
      s.tags ++ [(tagType, uid)] := by
  have e : ({ s.setTag tagType uid with numTags := s.numTags + 1 } : TagPoll).tags =
      (s.setTag tagType uid).tags ++ [(((s.setTag tagType uid).pTags s.numTags).tagType,
        ((s.setTag tagType uid).pTags s.numTags).uid)] := by
    simp only [TagPoll.tags, TagPoll.written, List.range_succ, List.map_append]
    rfl
  rw [e, tags_setTag, setTag_self]

/-- A target of a known kind is listed, unless its UID is. -/
lemma tags_enter {s : TagPoll} {i sel text} (place : s.numTags = i ∨ s.numTags = 0)
    (mifare : isMifareSel sel = true) :
    (s.enter i (some (sel, text))).tags =
      if text ∈ s.tags.map Prod.snd then s.tags else s.tags ++ [(tagTypeOfSel sel, text)] := by
  have uids : s.tags.map Prod.snd = s.listed.map tTag.uid := by
    simp [TagPoll.tags, TagPoll.written, TagPoll.listed]
  have listed := @exists_uid_iff s i (tagTypeOfSel sel) text place
  simp only [TagPoll.enter]
  rw [if_pos mifare, uids]
  by_cases hi : i = 0
  · subst hi
    have none : s.listed = [] := by
      rw [TagPoll.listed, place.elim id id]
      rfl
    rw [if_pos rfl, none, List.map_nil, if_neg List.not_mem_nil]
    exact tags_count
  · rw [if_neg hi]
    by_cases hu : text ∈ s.listed.map tTag.uid
    · rw [if_pos (listed.2 hu), if_pos hu]
      exact tags_setTag
    · rw [if_neg (fun h => hu (listed.1 h)), if_neg hu]
      exact tags_count

/-- What is listed stays at its place. -/
lemma tags_enter_prefix {s : TagPoll} {i t} : s.tags <+: (s.enter i t).tags := by
  have set : ∀ tagType uid, s.tags <+: (s.setTag tagType uid).tags :=
    fun _ _ => ⟨[], by rw [tags_setTag, List.append_nil]⟩
  have count : ∀ tagType uid, s.tags <+:
      ({ s.setTag tagType uid with numTags := s.numTags + 1 } : TagPoll).tags := fun _ _ => by
    rw [tags_count]
    exact List.prefix_append ..
  cases t with
  | none => exact List.prefix_refl _
  | some t =>
    unfold TagPoll.enter
    dsimp only
    split_ifs
    · exact count _ _
    · exact set _ _
    · exact count _ _
    · exact set _ _

/-- A reply enters one tag at most. -/
lemma enter_numTags_le {s : TagPoll} {i t} : (s.enter i t).numTags ≤ s.numTags + 1 := by
  cases t with
  | none => exact Nat.le_succ _
  | some t =>
    unfold TagPoll.enter
    dsimp only
    split_ifs
    · exact Nat.le_refl _
    · exact Nat.le_succ _
    · exact Nat.le_refl _
    · exact Nat.le_succ _

/-- The contents and the buffer are no part of the tags. -/
lemma tags_setContents {s : TagPoll} {i c buf} :
    ({ s.setContents i c with pbRecvBuffer := buf } : TagPoll).tags = s.tags := by
  rw [TagPoll.tags, written_setContents]
  rfl

/-- The loop only adds tags. -/
lemma loop_extends {n i rv} {s : TagPoll} {l} (h : l <+: s.tags) :
    (acr122UGetTagList.loop n i rv s).Ensures fun x => l <+: x.2.tags := by
  induction n generalizing i rv s with
  | zero => exact h
  | succ n ih =>
    refine Prog.ensures_true.bind fun ⟨rv, buf, len⟩ _ => ?_
    have h : l <+: ({ s.setContents i .empty with pbRecvBuffer := buf } : TagPoll).tags := by
      rw [tags_setContents]
      exact h
    dsimp only
    split
    · rw [process_enter]
      exact ih (h.trans tags_enter_prefix)
    · exact h

/-- The state with another buffer. -/
def TagPoll.over (s : TagPoll) (b : Buffer) : TagPoll := { s with pbRecvBuffer := b }

/-- A tag is entered alike whatever is in the buffer. -/
lemma enter_over {s : TagPoll} {b i t} : (s.over b).enter i t = (s.enter i t).over b := by
  cases t with
  | none => rfl
  | some t =>
    unfold TagPoll.enter TagPoll.over
    dsimp only [TagPoll.setTag]
    split_ifs <;> rfl

/-- The rounds of a call: its code, the tags that are listed, and all that was transmitted. -/
def roundsOn (answers : Nat → LONG × List BYTE) (n i : Nat) (rv : LONG) (s : TagPoll)
    (asked : List CardRequest) : (LONG × List (tTagType × CString)) × List CardRequest :=
  let x := (acr122UGetTagList.loop n i rv s).run (inOrder answers) asked
  ((x.1.1, x.1.2.tags), x.2)

section
variable {answers : Nat → LONG × List BYTE} {known : List BYTE} {asked : List CardRequest}
  {m i : Nat} {rv rv' : LONG} {s : TagPoll}

/-- A round after the exchange. -/
lemma roundsOn_succ {stack : Buffer} {rv' buf len asked'}
    (h : (apduSend APDU_POLL_MIFARE stack RECV_BUFFER_SIZE).run (inOrder answers) asked =
      ((rv', buf, len), asked')) :
    roundsOn answers (m + 1) i rv (s.over stack) asked =
      if rv' = SCARD_S_SUCCESS then
        roundsOn answers m (i + 1) rv' (((s.setContents i .empty).enter i buf.target).over buf)
          asked'
      else ((rv', s.tags), asked') := by
  unfold roundsOn
  rw [acr122UGetTagList.loop, Prog.run_bind]
  rw [show ((s.over stack).setContents i .empty).pbRecvBuffer = stack from rfl, h]
  dsimp only
  split
  · rw [process_enter, ← enter_over]
    rfl
  · show ((rv', ((s.setContents i .empty).over buf).tags), asked') = _
    rw [TagPoll.over, tags_setContents]

/-- The rounds do not take back what was transmitted. -/
lemma roundsOn_asked : asked <+: (roundsOn answers m i rv s asked).2 := by
  unfold roundsOn
  apply Prog.run_path (R := fun l l' : List CardRequest => l <+: l')
  · exact List.prefix_refl
  · exact fun h h' => h.trans h'
  · exact fun _ _ => List.prefix_append ..

/-- Rounds that look at received bytes only do not depend on the others. -/
lemma roundsOn_received (h : OnlyReceived answers m asked.length known) {stack stack' : Buffer} :
    roundsOn answers m i rv (s.over (stack.fill known)) asked =
      roundsOn answers m i rv (s.over (stack'.fill known)) asked := by
  induction m generalizing i rv s asked known with
  | zero => rfl
  | succ m ih =>
    rw [OnlyReceived] at h
    split at h
    next => exact h.elim
    next rv' known' n hsend =>
    obtain ⟨qs, len, hlen, hrun⟩ := apduSend_received hsend
    rw [roundsOn_succ (hrun stack), roundsOn_succ (hrun stack')]
    by_cases ok : rv' = SCARD_S_SUCCESS
    swap
    · rw [if_neg ok, if_neg ok]
    obtain ⟨decodable, rest⟩ := h ok
    rw [if_pos ok, if_pos ok,
      @target_received known' (sendReceived_two hsend ok) decodable stack stack']
    exact ih (hlen ▸ rest)

/-- The rounds only add tags. -/
lemma roundsOn_tags {b} : s.tags <+: (roundsOn answers m i rv (s.over b) asked).1.2 :=
  (loop_extends (s := s.over b) (List.prefix_refl _)).run _ _

/-- Two lists that begin alike and differ in the element that follows have no common extension. -/
lemma prefix_inj {α : Type} {l l' : List α} {a b : α} (h : l ++ [a] <+: l')
    (h' : l ++ [b] <+: l') : a = b := by
  have e : l ++ [a] = l ++ [b] :=
    (List.prefix_of_prefix_length_le h h' (by simp)).eq_of_length (by simp)
  simpa using e

/-- Two different UIDs make a difference to a list of at most one tag. -/
lemma append_new_inj {tags : List (tTagType × CString)} {tagType text text'}
    (short : tags.length ≤ 1)
    (h : (if text ∈ tags.map Prod.snd then tags else tags ++ [(tagType, text)]) =
      if text' ∈ tags.map Prod.snd then tags else tags ++ [(tagType, text')]) : text = text' := by
  have longer : ∀ t : tTagType × CString, tags ≠ tags ++ [t] := fun t e => by
    simpa using congrArg List.length e
  split at h
  next known =>
    split at h
    next known' =>
      cases tags with
      | nil => cases known
      | cons t rest =>
        obtain rfl : rest = [] := List.length_eq_zero_iff.1 (by simpa using short)
        rw [List.map_singleton, List.mem_singleton] at known known'
        exact known.trans known'.symm
    next => exact absurd h (longer _)
  next =>
    split at h
    next => exact absurd h.symm (longer _)
    next => simpa using h

/-- The exchange of rounds that do not depend on what the buffer held before looks at received bytes
only: else the transmissions would tell the difference. -/
lemma sendReceived_of_independent
    (h : ∀ stack stack' : Buffer, roundsOn answers (m + 1) i rv (s.over (stack.fill known)) asked =
      roundsOn answers (m + 1) i rv (s.over (stack'.fill known)) asked) :
    sendReceived answers asked.length known ≠ none := by
  intro hsend
  have fetches : ∀ c : BYTE, c ≠ 0 → asked ++ [sendPoll] ++ [sendFetch c] <+:
      (roundsOn answers (m + 1) i rv (s.over ((pretend c).fill known)) asked).2 := fun c hc => by
    have he := apduSend_unreceived hsend hc
    rw [List.append_assoc]
    generalize hr : (apduSend APDU_POLL_MIFARE ((pretend c).fill known) RECV_BUFFER_SIZE).run
      (inOrder answers) asked = r at he
    obtain ⟨⟨rv', buf, len⟩, asked'⟩ := r
    cases he
    rw [roundsOn_succ hr]
    split
    · exact roundsOn_asked
    · exact List.prefix_refl _
  have one := fetches 1 (by decide)
  rw [h (pretend 1) (pretend 2)] at one
  exact absurd (prefix_inj one (fetches 2 (by decide))) (by decide)

/-- What is decoded in rounds that do not depend on what the buffer held before was received, if the
next round is the first one or the last one: else the UIDs would tell the difference. -/
lemma decodable_of_independent {known' n} (place : s.numTags = i ∨ s.numTags = 0)
    (round : i = 0 ∨ m = 0 ∧ s.numTags ≤ 1)
    (hsend : sendReceived answers asked.length known = some (SCARD_S_SUCCESS, known', n))
    (h : ∀ stack stack' : Buffer, roundsOn answers (m + 1) i rv (s.over (stack.fill known)) asked =
      roundsOn answers (m + 1) i rv (s.over (stack'.fill known)) asked) : Decodable known' := by
  by_contra undecided
  obtain ⟨qs, len, hlen, hrun⟩ := apduSend_received hsend
  obtain ⟨sel, text, text', mifare, ne, t0, t1⟩ :=
    target_complete (sendReceived_two hsend rfl) undecided
  have h := h (complete 0) (complete 1)
  rw [roundsOn_succ (hrun _), roundsOn_succ (hrun _), if_pos rfl, if_pos rfl, t0, t1] at h
  have place' : (s.setContents i .empty).numTags = i ∨ (s.setContents i .empty).numTags = 0 :=
    place
  have tags : (s.setContents i .empty).tags = s.tags :=
    @tags_setContents s i .empty s.pbRecvBuffer
  have entered := fun text => @tags_enter (s.setContents i .empty) i sel text place' mifare
  rw [tags] at entered
  rcases round with rfl | ⟨rfl, short⟩
  · -- the first tag stays the first one
    have none : s.tags = [] := by
      rw [TagPoll.tags, TagPoll.written, place.elim id id]
      rfl
    rw [none] at entered
    have first : ∀ c text, [] ++ [(tagTypeOfSel sel, text)] <+: (roundsOn answers m (0 + 1)
        SCARD_S_SUCCESS (((s.setContents 0 .empty).enter 0 (some (sel, text))).over
          ((complete c).fill known')) (asked ++ qs)).1.2 := fun c text => by
      have e := entered text
      rw [List.map_nil, if_neg List.not_mem_nil] at e
      rw [← e]
      exact roundsOn_tags
    have last := first 1 text'
    rw [← h] at last
    exact ne (congrArg Prod.snd (prefix_inj (first 0 text) last))
  · -- there are no rounds left
    have same := (entered text).symm.trans
      ((congrArg (fun x => x.1.2) h).trans (entered text'))
    refine ne (append_new_inj ?_ same)
    rw [TagPoll.tags, List.length_map, List.length_range]
    exact short

/-- Rounds that do not depend on what the buffer held before look at received bytes only, if the
next round is the first one or the last one. -/
lemma received_of_independent (place : s.numTags = i ∨ s.numTags = 0)
    (round : i = 0 ∨ m = 0 ∧ s.numTags ≤ 1)
    (h : ∀ stack stack' : Buffer, roundsOn answers (m + 1) i rv (s.over (stack.fill known)) asked =
      roundsOn answers (m + 1) i rv (s.over (stack'.fill known)) asked) :
    ∃ rv' known' n, sendReceived answers asked.length known = some (rv', known', n) ∧
      (rv' = SCARD_S_SUCCESS → Decodable known') := by
  obtain ⟨⟨rv', known', n⟩, hsend⟩ := Option.ne_none_iff_exists'.1 (sendReceived_of_independent h)
  refine ⟨rv', known', n, hsend, ?_⟩
  rintro rfl
  exact decodable_of_independent place round hsend h

end

/-- A call: its code, the types and UIDs of the tags it lists, and what it transmits. -/
def listTags (answers : Nat → LONG × List BYTE) (stack : Buffer) (pTags : Nat → tTag) :
    (LONG × List (tTagType × CString)) × List CardRequest :=
  let x := (acr122UGetTagList stack pTags).run (inOrder answers) []
  ((x.1.1, (List.range x.1.2.1).map fun j => ((x.1.2.2 j).tagType, (x.1.2.2 j).uid)), x.2)

/-- A call makes its rounds from an empty list on. -/
lemma listTags_roundsOn {answers : Nat → LONG × List BYTE} {stack : Buffer} {pTags} :
    listTags answers stack pTags = roundsOn answers ACR122U_MAX_NUM_TAGS 0 SCARD_S_SUCCESS
      (TagPoll.over ⟨pTags, 0, stack⟩ (stack.fill [])) [] := by
  unfold listTags roundsOn acr122UGetTagList
  rw [Prog.run_bind]
  rfl

/-- The answers to two polls; the reply of twelve bytes to the first one is cut off before the UID,
and the second one finds nothing. -/
def cutOff : List (LONG × List BYTE) :=
  [(SCARD_S_SUCCESS, [SW1_SUCCESS, 12]),
    (SCARD_S_SUCCESS, [0xD5, 0x4B, 1, 1, 0x00, 0x04, 0x08, 4]),
    (SCARD_S_SUCCESS, [SW1_SUCCESS, 3]),
    (SCARD_S_SUCCESS, [0xD5, 0x4B, 0])]

end TagEventor
