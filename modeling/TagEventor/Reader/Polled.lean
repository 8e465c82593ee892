import TagEventor.Reader.Driver

/-!
# The tags a driver lists

`acr122UGetTagList` polls twice. The result of a poll is an error, no answer, an answer without a
target, or a target (`PollReply`); the driver lists one tag for each UID among the targets whose SEL
byte it knows, in the order in which they appear first (`acr122UGetTagList_polled`). A round writes
at the end of the list and compares at its own number, which are the same place unless the list is
still empty (`process_listed`).
-/

namespace TagEventor
open Interact

/-- The hexadecimal text of a UID. -/
def hexText (bytes : List BYTE) : CString := bytes.flatMap hexByte

/-- Different digits are printed differently. -/
lemma digitChar_injective {a b : Nat} (ha : a < 16) (hb : b < 16)
    (h : Nat.digitChar a = Nat.digitChar b) : a = b := by
  have digits : ∀ a < 16, ∀ b < 16, Nat.digitChar a = Nat.digitChar b → a = b := by decide
  exact digits a ha b hb h

/-- Different bytes are printed differently. -/
lemma hexByte_injective {a b : BYTE} (h : hexByte a = hexByte b) : a = b := by
  simp only [hexByte, List.cons.injEq, and_true] at h
  have ha := a.toNat_lt
  have hb := b.toNat_lt
  have high := digitChar_injective (by omega) (by omega) h.1
  have low := digitChar_injective (by omega) (by omega) h.2
  apply UInt8.toNat_inj.1
  omega

/-- Different UIDs have different texts. -/
lemma hexText_injective {l l' : List BYTE} (h : hexText l = hexText l') : l = l' := by
  induction l generalizing l' with
  | nil =>
    cases l' with
    | nil => rfl
    | cons b l' => cases h
  | cons a l ih =>
    cases l' with
    | nil => cases h
    | cons b l' =>
      simp only [hexText, List.flatMap_cons] at h
      obtain ⟨hb, ht⟩ := List.append_inj h rfl
      rw [hexByte_injective hb, ih ht]

/-- The result of a poll for tags. -/
inductive PollReply where
  | error (rv : LONG) (failed : rv ≠ SCARD_S_SUCCESS)
  /-- there is nothing to get: `61 00` -/
  | empty
  /-- an answer that does not say that a tag was found -/
  | other (b0 b1 : BYTE) (strange : ¬ (b0 = 0xD5 ∧ b1 = 0x4B))
  | noTarget
  | target (count number sens1 sens2 sel : BYTE) (uid : List BYTE) (found : count ≠ 0)
      (short : uid.length ≤ 9)

namespace PollReply

/-- The return code of a poll. -/
def code : PollReply → LONG
  | error rv _ => rv
  | _ => SCARD_S_SUCCESS

/-- The bytes the answer begins with; a target is complete with them. -/
def bytes : PollReply → List BYTE
  | error _ _ => []
  | empty => [SW1_SUCCESS, 0x00]
  | other b0 b1 _ => [b0, b1]
  | noTarget => [0xD5, 0x4B, 0x00]
  | target count number sens1 sens2 sel uid _ _ =>
    [0xD5, 0x4B, count, number, sens1, sens2, sel, UInt8.ofNat uid.length] ++ uid

/-- The SEL byte and the UID of a target of one of the known kinds. -/
def mifare : PollReply → Option (BYTE × List BYTE)
  | target _ _ _ _ sel uid _ _ => if isMifareSel sel then some (sel, uid) else none
  | _ => none

/-- The answer is at the start of a buffer. -/
def InBuffer (r : PollReply) (buf : Buffer) : Prop :=
  ∀ i, ∀ h : i < r.bytes.length, buf i = r.bytes[i]

/-- Polling for tags has the result `r`, when the card is in the state `s`. -/
def Answers {σ : Type} (r : PollReply) (answer : CardRequest → σ → (LONG × List BYTE) × σ)
    (s s' : σ) : Prop :=
  ∀ buf, ∃ buf' len, r.InBuffer buf' ∧
    (apduSend APDU_POLL_MIFARE buf RECV_BUFFER_SIZE).run answer s = ((r.code, buf', len), s')

end PollReply

/-- The tag of a target. -/
def tagOf (t : BYTE × List BYTE) : tTag := ⟨.empty, tagTypeOfSel t.1, hexText t.2⟩

/-- One tag for each UID among the targets, in the order in which they appear first. -/
def tagsPolled (replies : List PollReply) : List tTag :=
  ((replies.filterMap PollReply.mifare).eraseDupsBy fun t t' => t.2 = t'.2).map tagOf

/-- The tags listed so far. -/
def TagPoll.listed (s : TagPoll) : List tTag := (List.range s.numTags).map s.pTags

/-- The bytes are printed as many as their number is as an unsigned `char`, unless that is negative
as a signed one. -/
lemma sPrintBufferHex_signed {bytes : List BYTE} {buf start}
    (h : ∀ i, ∀ hi : i < bytes.length, buf (start + i) = bytes[i]) :
    sPrintBufferHex (UInt8.ofNat bytes.length) buf start =
      if bytes.length % 256 < 128 then hexText (bytes.take (bytes.length % 256)) else [] := by
  have signed : UInt8.ofNat bytes.length < 128 ↔ bytes.length % 256 < 128 := by
    rw [UInt8.lt_iff_toNat_lt, UInt8.toNat_ofNat']
    rfl
  unfold sPrintBufferHex
  simp only [signed, UInt8.toNat_ofNat']
  congr 1
  rw [hexText, ← List.flatMap_map]
  congr 1
  apply List.ext_getElem
  · simp [Nat.mod_le]
  · intro i hi _
    have inside : i < bytes.length := Nat.lt_of_lt_of_le (by simpa using hi) (Nat.mod_le _ _)
    simp [h i inside]

/-- The hexadecimal text of the bytes that are found in the buffer. -/
lemma sPrintBufferHex_eq {uid : List BYTE} {buf start} (short : uid.length ≤ 9)
    (h : ∀ i, ∀ hi : i < uid.length, buf (start + i) = uid[i]) :
    sPrintBufferHex (UInt8.ofNat uid.length) buf start = hexText uid := by
  have whole : uid.length % 256 = uid.length :=
    Nat.mod_eq_of_lt (Nat.lt_of_le_of_lt short (by decide))
  rw [sPrintBufferHex_signed h, whole, if_pos (Nat.lt_of_le_of_lt short (by decide)),
    List.take_length]

/-- What a target leaves in the buffer is what the driver decodes. -/
lemma mifare_inBuffer {r : PollReply} {buf} (hb : r.InBuffer buf) (ok : r.code = SCARD_S_SUCCESS) :
    match r.mifare with
    | some t =>
      (buf SW1 = 0xD5 ∧ buf SW2 = 0x4B ∧ buf NUM_TAGS_FOUND ≠ 0x00) ∧
        isMifareSel (buf SEL_RES_BYTE) = true ∧ buf SEL_RES_BYTE = t.1 ∧
        sPrintBufferHex (buf UID_LENGTH) buf UID_START = hexText t.2
    | none =>
      (buf SW1 = 0xD5 ∧ buf SW2 = 0x4B ∧ buf NUM_TAGS_FOUND ≠ 0x00) →
        isMifareSel (buf SEL_RES_BYTE) = false := by
  cases r with
  | error rv failed => exact absurd ok failed
  | empty =>
    intro h
    rw [hb SW1 (by decide)] at h
    exact absurd h.1 (by decide)
  | other b0 b1 strange =>
    intro h
    rw [hb SW1 Nat.zero_lt_two, hb SW2 Nat.one_lt_two] at h
    exact absurd ⟨h.1, h.2.1⟩ strange
  | noTarget =>
    intro h
    rw [hb NUM_TAGS_FOUND (by decide)] at h
    exact absurd rfl h.2.2
  | target count number sens1 sens2 sel uid found short =>
    have hlen : (PollReply.target count number sens1 sens2 sel uid found short).bytes.length =
        8 + uid.length := by
      simp only [PollReply.bytes, List.length_append, List.length_cons, List.length_nil]
    have header : ∀ i < 8, i < (PollReply.target count number sens1 sens2 sel uid found
        short).bytes.length := by
      intro i hi
      rw [hlen]
      exact Nat.lt_add_right _ hi
    have hsel : buf SEL_RES_BYTE = sel := hb SEL_RES_BYTE (header _ (by decide))
    simp only [PollReply.mifare]
    by_cases known : isMifareSel sel = true
    · rw [if_pos known]
      refine ⟨⟨?_, ?_, ?_⟩, ?_, ?_, ?_⟩
      · exact hb SW1 (header _ (by decide))
      · exact hb SW2 (header _ (by decide))
      · rw [hb NUM_TAGS_FOUND (header _ (by decide))]
        exact found
      · rw [hsel]
        exact known
      · exact hsel
      · rw [hb UID_LENGTH (header _ (by decide))]
        apply sPrintBufferHex_eq short
        intro i hi
        rw [hb (UID_START + i) (by rw [hlen]; exact Nat.add_lt_add_left hi 8)]
        simp only [PollReply.bytes, UID_START]
        rw [List.getElem_append_right (by simp)]
        simp
    · rw [if_neg known]
      intro _
      rw [hsel]
      exact Bool.eq_false_iff.2 known

/-- The entry that is written. -/
lemma setTag_self {s : TagPoll} {tagType uid} : (s.setTag tagType uid).pTags s.numTags =
    { s.pTags s.numTags with tagType, uid } := Function.update_self ..

/-- Writing behind the list does not change it. -/
lemma setTag_of_lt {s : TagPoll} {tagType uid i} (hi : i < s.numTags) :
    (s.setTag tagType uid).pTags i = s.pTags i :=
  Function.update_of_ne (Nat.ne_of_lt hi) _ _

/-- What is written behind the listed tags is not listed yet. -/
lemma listed_setTag {s : TagPoll} {tagType uid} : (s.setTag tagType uid).listed = s.listed := by
  apply List.map_congr_left
  intro i hi
  exact setTag_of_lt (List.mem_range.1 hi)

/-- The comparison with the entries before finds the UID iff it is listed. -/
lemma exists_uid_iff {s : TagPoll} {i tagType uid} (place : s.numTags = i ∨ s.numTags = 0) :
    (∃ other < (s.setTag tagType uid).numTags, ((s.setTag tagType uid).pTags i).uid =
      ((s.setTag tagType uid).pTags other).uid) ↔ uid ∈ s.listed.map tTag.uid := by
  rw [TagPoll.listed, List.map_map, List.mem_map]
  constructor
  · rintro ⟨other, lt, e⟩
    have lt : other < s.numTags := lt
    refine ⟨other, List.mem_range.2 lt, ?_⟩
    have hi : s.numTags = i := place.resolve_right (Nat.ne_of_gt (Nat.zero_lt_of_lt lt))
    rw [setTag_of_lt lt, ← hi, setTag_self] at e
    exact e.symm
  · rintro ⟨other, lt, e⟩
    have lt := List.mem_range.1 lt
    refine ⟨other, lt, ?_⟩
    have hi : s.numTags = i := place.resolve_right (Nat.ne_of_gt (Nat.zero_lt_of_lt lt))
    rw [setTag_of_lt lt, ← hi, setTag_self]
    exact e.symm

/-- Counting the entry behind the list appends it. -/
lemma listed_count {s : TagPoll} :
    ({ s with numTags := s.numTags + 1 } : TagPoll).listed = s.listed ++ [s.pTags s.numTags] := by
  rw [TagPoll.listed, List.range_succ, List.map_append]
  rfl

/-- The state of the driver when it processes the answer of round `i`: everything it has written so
far has no contents, and it writes where it compares, or compares with nothing. -/
structure TagPoll.Ready (s : TagPoll) (i : Nat) : Prop where
  contents : ∀ j ≤ i, (s.pTags j).contents = .empty
  place : s.numTags = i ∨ s.numTags = 0

/-- There are no more tags than rounds. -/
lemma TagPoll.Ready.le {s : TagPoll} {i} (h : s.Ready i) : s.numTags ≤ i := by
  rcases h.place with e | e
  · exact Nat.le_of_eq e
  · exact e ▸ Nat.zero_le i

/-- At first no tag is listed. -/
lemma TagPoll.Ready.listed {s : TagPoll} (h : s.Ready 0) : s.listed = [] := by
  rw [TagPoll.listed, Nat.le_zero.1 h.le]
  rfl

/-- A round lists the tag of a target unless its UID is listed already. -/
lemma process_listed {s : TagPoll} {i} {r : PollReply} (ready : s.Ready i)
    (hb : r.InBuffer s.pbRecvBuffer) (ok : r.code = SCARD_S_SUCCESS) :
    (s.process i).listed =
        match r.mifare with
        | some t =>
          if hexText t.2 ∈ s.listed.map tTag.uid then s.listed else s.listed ++ [tagOf t]
        | none => s.listed := by
  have decoded := mifare_inBuffer hb ok
  cases hm : r.mifare with
  | none =>
    simp only [hm] at decoded
    unfold TagPoll.process
    dsimp only
    split
    next found =>
      rw [decoded found]
      simp only [Bool.false_eq_true, if_false]
      exact listed_setTag
    · rfl
  | some t =>
    simp only [hm] at decoded
    obtain ⟨found, known, hsel, htext⟩ := decoded
    rw [hsel] at known
    unfold TagPoll.process
    simp only [if_pos found, hsel, htext, known, if_true]
    have counted : ({ s.setTag (tagTypeOfSel t.1) (hexText t.2) with
        numTags := s.numTags + 1 } : TagPoll).listed = s.listed ++ [tagOf t] := by
      refine (listed_count (s := s.setTag _ _)).trans ?_
      rw [listed_setTag, show (s.setTag _ _).numTags = s.numTags from rfl, setTag_self]
      show s.listed ++ [⟨(s.pTags s.numTags).contents, _, _⟩] = _
      rw [ready.contents _ ready.le]
      rfl
    by_cases hi : i = 0
    · subst hi
      rw [if_pos rfl, if_neg (by rw [ready.listed]; exact List.not_mem_nil)]
      exact counted
    · rw [if_neg hi]
      have listed := @exists_uid_iff s i (tagTypeOfSel t.1) (hexText t.2) ready.place
      by_cases hu : hexText t.2 ∈ s.listed.map tTag.uid
      · rw [if_pos (listed.2 hu), if_pos hu]
        exact listed_setTag
      · rw [if_neg (fun h => hu (listed.1 h)), if_neg hu]
        exact counted

/-- A reply leaves the contents of the entries alone. -/
lemma process_contents {s : TagPoll} {i j} :
    ((s.process i).pTags j).contents = (s.pTags j).contents := by
  have set : ∀ tagType uid, ((s.setTag tagType uid).pTags j).contents = (s.pTags j).contents := by
    intro tagType uid
    by_cases hj : j = s.numTags
    · rw [hj, setTag_self]
    · exact congrArg tTag.contents (Function.update_of_ne hj _ _)
  unfold TagPoll.process
  dsimp only
  split_ifs <;> first | exact set _ _ | rfl

/-- A round counts at most one tag. -/
lemma process_numTags_le {s : TagPoll} {i} (h : s.numTags ≤ i) :
    (s.process i).numTags ≤ i + 1 := by
  unfold TagPoll.process
  dsimp only
  split_ifs <;> (try simp only [TagPoll.setTag]) <;> omega

/-- The contents that are written. -/
lemma setContents_self {s : TagPoll} {i c} : ((s.setContents i c).pTags i).contents = c := by
  simp [TagPoll.setContents]

/-- The contents of the other entries. -/
lemma setContents_of_ne {s : TagPoll} {i j c} (h : j ≠ i) :
    (s.setContents i c).pTags j = s.pTags j := Function.update_of_ne h _ _

/-- From round `i` on, the array holds no contents and at most one tag for each round. -/
lemma loop_ensures {n i rv} {s : TagPoll} (hn : s.numTags ≤ i)
    (hc : ∀ j < i, (s.pTags j).contents = .empty) :
    (acr122UGetTagList.loop n i rv s).Ensures fun x =>
      x.2.numTags ≤ i + n ∧ ∀ j < x.2.numTags, (x.2.pTags j).contents = .empty := by
  induction n generalizing i rv s with
  | zero => exact ⟨hn, fun j hj => hc j (Nat.lt_of_lt_of_le hj hn)⟩
  | succ n ih =>
    have hc' : ∀ j < i + 1, ((s.setContents i .empty).pTags j).contents = .empty := by
      intro j hj
      rcases Nat.lt_succ_iff_lt_or_eq.1 hj with hj | rfl
      · rw [setContents_of_ne (Nat.ne_of_lt hj)]
        exact hc j hj
      · exact setContents_self
    refine Prog.ensures_true.bind fun ⟨rv, buf, len⟩ _ => ?_
    dsimp only
    split
    · rw [← Nat.add_assoc, Nat.add_right_comm]
      apply ih
      · exact process_numTags_le (s := { s.setContents i .empty with pbRecvBuffer := buf }) hn
      · intro j hj
        rw [process_contents]
        exact hc' j hj
    · refine ⟨Nat.le_add_right_of_le hn, fun j hj => ?_⟩
      exact hc' j (Nat.lt_succ_of_lt (Nat.lt_of_lt_of_le hj hn))

/-- Whatever the reader answers, the tags listed are at most as many as the array has room for, and
their contents are `NULL`. -/
lemma acr122UGetTagList_ensures {stack pTags} :
    (acr122UGetTagList stack pTags).Ensures fun x =>
      x.2.1 ≤ ACR122U_MAX_NUM_TAGS ∧ ∀ j < x.2.1, (x.2.2 j).contents = .empty := by
  have loop := @loop_ensures ACR122U_MAX_NUM_TAGS 0 SCARD_S_SUCCESS ⟨pTags, 0, stack⟩
    (Nat.le_refl 0) fun j hj => absurd hj (Nat.not_lt_zero j)
  refine loop.bind fun x hx => ?_
  rw [Nat.zero_add] at hx
  exact hx

/-- A round that polls with success goes on to the next one. -/
lemma run_loop_succ {σ : Type} {answer : CardRequest → σ → (LONG × List BYTE) × σ} {n i rv}
    {s : TagPoll} {r : PollReply} {t t' : σ} (h : r.Answers answer t t') :
    ∃ buf, r.InBuffer buf ∧ (acr122UGetTagList.loop (n + 1) i rv s).run answer t =
      let s' : TagPoll := { s.setContents i .empty with pbRecvBuffer := buf }
      if r.code = SCARD_S_SUCCESS then
        (acr122UGetTagList.loop n (i + 1) r.code (s'.process i)).run answer t'
      else ((r.code, s'), t') := by
  obtain ⟨buf, len, hb, e⟩ := h (s.setContents i .empty).pbRecvBuffer
  refine ⟨buf, hb, ?_⟩
  rw [acr122UGetTagList.loop, Prog.run_bind, e]
  dsimp only
  split
  · rfl
  · rfl

/-- The first round starts with the empty list. -/
lemma ready_first {pTags : Nat → tTag} {stack buf : Buffer} :
    ({ (⟨pTags, 0, stack⟩ : TagPoll).setContents 0 .empty with
      pbRecvBuffer := buf } : TagPoll).Ready 0 where
  contents := by
    intro j hj
    rw [Nat.le_zero.1 hj]
    exact setContents_self
  place := .inl rfl

/-- The second round compares at the end of the list, or the list is empty. -/
lemma ready_second {s : TagPoll} {buf : Buffer} (h : s.Ready 0) :
    ({ (s.process 0).setContents 1 .empty with pbRecvBuffer := buf } : TagPoll).Ready 1 where
  contents := by
    intro j hj
    by_cases h1 : j = 1
    · rw [h1]
      exact setContents_self
    · have hj : j ≤ 0 := by omega
      show (((s.process 0).setContents 1 .empty).pTags j).contents = _
      rw [setContents_of_ne h1, process_contents]
      exact h.contents j hj
  place := by
    have hs := Nat.le_zero.1 h.le
    show (s.process 0).numTags = 1 ∨ (s.process 0).numTags = 0
    unfold TagPoll.process
    dsimp only
    split_ifs <;> simp [TagPoll.setTag, hs]

/-- What is written behind the listed tags is not listed. -/
lemma listed_setContents {s : TagPoll} {i c buf} (hi : s.numTags ≤ i) :
    ({ s.setContents i c with pbRecvBuffer := buf } : TagPoll).listed = s.listed := by
  apply List.map_congr_left
  intro j hj
  exact Function.update_of_ne (Nat.ne_of_lt (Nat.lt_of_lt_of_le (List.mem_range.1 hj) hi)) _ _

/-- A single reply yields its tag, if it has one. -/
lemma tagsPolled_single {r : PollReply} :
    tagsPolled [r] =
      match r.mifare with
      | some t => if hexText t.2 ∈ ([] : List tTag).map tTag.uid then [] else [] ++ [tagOf t]
      | none => [] := by
  cases h : r.mifare <;> simp [tagsPolled, h, List.eraseDupsBy_cons]

/-- Listing the targets of two polls one after the other lists one tag for each UID. -/
lemma tagsPolled_pair {r1 r2 : PollReply} :
    tagsPolled [r1, r2] =
      match r2.mifare with
      | some t =>
        if hexText t.2 ∈ (tagsPolled [r1]).map tTag.uid then tagsPolled [r1]
        else tagsPolled [r1] ++ [tagOf t]
      | none => tagsPolled [r1] := by
  have hne : ∀ t t' : BYTE × List BYTE, hexText t.2 = hexText t'.2 ↔ t.2 = t'.2 :=
    fun t t' => ⟨hexText_injective, congrArg hexText⟩
  cases h1 : r1.mifare with
  | none => cases h2 : r2.mifare <;> simp [tagsPolled, h1, h2, List.eraseDupsBy_cons]
  | some t =>
    cases h2 : r2.mifare with
    | none => simp [tagsPolled, h1, h2, List.eraseDupsBy_cons]
    | some t' =>
      by_cases e : t'.2 = t.2
      · simp [tagsPolled, h1, h2, List.eraseDupsBy_cons, e, tagOf]
      · simp [tagsPolled, h1, h2, List.eraseDupsBy_cons, e, tagOf, hne]

/-- If neither poll is an error, the driver lists one tag for each UID among the targets of the
known kinds, in the order in which they appear first; otherwise it returns the first error. -/
theorem acr122UGetTagList_polled {σ : Type} {answer : CardRequest → σ → (LONG × List BYTE) × σ}
    {s s1 s2 : σ} {r1 r2 : PollReply} {stack : Buffer} {pTags : Nat → tTag}
    (h1 : r1.Answers answer s s1) (h2 : r1.code = SCARD_S_SUCCESS → r2.Answers answer s1 s2) :
    let result := ((acr122UGetTagList stack pTags).run answer s).1
    result.1 = (if r1.code ≠ SCARD_S_SUCCESS then r1.code else r2.code) ∧
      (result.1 = SCARD_S_SUCCESS → result.2.1 ≤ ACR122U_MAX_NUM_TAGS ∧
        (List.range result.2.1).map result.2.2 = tagsPolled [r1, r2]) := by
  intro result
  obtain ⟨buf1, hb1, e1⟩ := @run_loop_succ _ answer 1 0 SCARD_S_SUCCESS ⟨pTags, 0, stack⟩ _ _ _ h1
  have hresult : result = _ := congrArg Prod.fst Prog.run_bind
  rw [show ACR122U_MAX_NUM_TAGS = 1 + 1 from rfl, e1] at hresult
  by_cases ok1 : r1.code = SCARD_S_SUCCESS
  swap
  · simp only [if_neg ok1] at hresult
    rw [hresult, if_pos ok1]
    exact ⟨rfl, fun h => absurd h ok1⟩
  simp only [if_pos ok1] at hresult
  have ready1 := @ready_first pTags stack buf1
  have listed1 := process_listed ready1 hb1 ok1
  generalize ({ (⟨pTags, 0, stack⟩ : TagPoll).setContents 0 .empty with
    pbRecvBuffer := buf1 } : TagPoll) = t1 at hresult ready1 listed1
  rw [ready1.listed, ← tagsPolled_single] at listed1
  -- the second poll, with the list of the first one
  obtain ⟨buf2, hb2, e2⟩ := @run_loop_succ _ answer 0 1 r1.code (t1.process 0) _ _ _ (h2 ok1)
  rw [e2] at hresult
  rw [if_neg (not_not.2 ok1)]
  by_cases ok2 : r2.code = SCARD_S_SUCCESS
  swap
  · simp only [if_neg ok2] at hresult
    rw [hresult]
    exact ⟨rfl, fun h => absurd h ok2⟩
  simp only [if_pos ok2] at hresult
  have ready2 := @ready_second t1 buf2 ready1
  have listed2 := process_listed ready2 hb2 ok2
  rw [listed_setContents (process_numTags_le ready1.le), listed1, ← tagsPolled_pair] at listed2
  generalize ({ (t1.process 0).setContents 1 .empty with
    pbRecvBuffer := buf2 } : TagPoll) = t2 at hresult ready2 listed2
  rw [hresult]
  exact ⟨rfl, fun _ => ⟨process_numTags_le ready2.le, listed2⟩⟩

/-- The request that polls for tags, as it is transmitted. -/
def pollRequest : List BYTE :=
  APDU_DIRECT_TRANSMIT ++ [UInt8.ofNat APDU_POLL_MIFARE.length] ++ APDU_POLL_MIFARE

/-- A card that keeps an answer of `n` bytes pending and delivers it when it is asked for it. -/
lemma answers_of_pending {σ : Type} {answer : CardRequest → σ → (LONG × List BYTE) × σ}
    {s s1 s2 : σ} {r : PollReply} {n : BYTE} {recv : List BYTE} (pending : 0 < n)
    (ok : r.code = SCARD_S_SUCCESS) (starts : r.bytes <+: recv)
    (first : answer (.transmit pollRequest RECV_BUFFER_SIZE) s =
      ((SCARD_S_SUCCESS, [SW1_SUCCESS, n]), s1))
    (second : answer (.transmit (APDU_GET_RESPONSE ++ [n]) RECV_BUFFER_SIZE) s1 =
      ((SCARD_S_SUCCESS, recv), s2)) : r.Answers answer s s2 := by
  intro buf
  refine ⟨(buf.fill [SW1_SUCCESS, n]).fill recv, recv.length, ?_, ?_⟩
  · intro i hi
    have hr : i < recv.length := Nat.lt_of_lt_of_le hi starts.length_le
    rw [starts.getElem hi, Buffer.fill, List.getD_eq_getElem?_getD, List.getElem?_eq_getElem hr]
    rfl
  · have sw1 : buf.fill [SW1_SUCCESS, n] SW1 = SW1_SUCCESS := rfl
    have sw2 : buf.fill [SW1_SUCCESS, n] SW2 = n := rfl
    have transmit : ∀ send t, (SCardTransmit send RECV_BUFFER_SIZE).run answer t =
        answer (.transmit send RECV_BUFFER_SIZE) t := fun _ _ => rfl
    have pseudo : decide (APDU_POLL_MIFARE.head? = some 0xd4) = true := rfl
    unfold apduSend
    simp only [pseudo, if_true, Prog.run_bind, transmit]
    rw [show APDU_DIRECT_TRANSMIT ++ [UInt8.ofNat APDU_POLL_MIFARE.length] ++ APDU_POLL_MIFARE =
      pollRequest from rfl, first]
    simp only [true_and, if_true, sw1, sw2, ne_eq, not_true_eq_false, if_false, if_pos pending,
      Prog.run_bind, transmit, second, ok]
    rfl

/-- A Mifare 1K tag with the UID `abcd`. -/
def mifare1K : PollReply := .target 1 1 0 4 0x08 [0xab, 0xcd] (by decide) (by decide)

/-- A reader that finds one tag whenever it is polled. -/
def oneTag : CardRequest → Unit → (LONG × List BYTE) × Unit
  | .transmit send _, _ =>
    if send = pollRequest then ((SCARD_S_SUCCESS, [SW1_SUCCESS, 0x0A]), ())
    else ((SCARD_S_SUCCESS, mifare1K.bytes), ())
  | .status, _ => ((SCARD_S_SUCCESS, []), ())

/-- The tag that both polls find is listed once. -/
theorem acr122UGetTagList_oneTag :
    let result := ((acr122UGetTagList (fun _ => 0) fun _ => ⟨.empty, .UNKNOWN_TYPE, []⟩).run
      oneTag ()).1
    result.1 = SCARD_S_SUCCESS ∧ (List.range result.2.1).map result.2.2 =
      [⟨.empty, .MIFARE_1K, "abcd".toList⟩] := by
  have polled : mifare1K.Answers oneTag () () :=
    answers_of_pending (n := 0x0A) (by decide) rfl (List.prefix_refl _) rfl rfl
  have listed := @acr122UGetTagList_polled _ _ _ _ _ _ _ (fun _ => 0)
    (fun _ => ⟨.empty, .UNKNOWN_TYPE, []⟩) polled fun _ => polled
  exact ⟨listed.1, (listed.2 listed.1).2.trans (by decide)⟩

end TagEventor
