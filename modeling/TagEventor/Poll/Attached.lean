import TagEventor.Poll.Contents
import TagEventor.Poll.Context

/-!
# Tags without contents

The drivers hand over every tag without contents. `processTagLists` attaches contents to a tag that
is new and copies them from the previous entry otherwise, so a list whose tags all have contents
stays so from one successful poll to the next. But a poll that fails after it has read the readers
leaves the tags it read in the list as they are; the next poll takes them for known tags and copies
nothing. This is the only way a listed tag can be without contents (`attached_iff`).
-/

namespace TagEventor

/-- Contents have been attached. -/
structure tTagContents.Attached (c : tTagContents) : Prop where
  dataSize : 0 < c.dataSize
  pData : c.pData ≠ none
  extensionHook : c.extensionHook ≠ none

instance (c : tTagContents) : Decidable c.Attached :=
  decidable_of_iff (0 < c.dataSize ∧ c.pData ≠ none ∧ c.extensionHook ≠ none)
    ⟨fun ⟨h, h', h''⟩ => ⟨h, h', h''⟩, fun ⟨h, h', h''⟩ => ⟨h, h', h''⟩⟩

/-- Every listed tag carries its contents. -/
def Attached (w : World) : Prop :=
  ∀ t ∈ w.readerManager.tagList.entries, t.contents.Attached

instance (w : World) : Decidable (Attached w) := inferInstanceAs (Decidable (∀ _ ∈ _, _))

/-- A tag that was just read carries nothing. -/
lemma attached_empty : ¬ tTagContents.Attached .empty := fun h => h.pData rfl

/-- The first loop copies contents from every previous entry, missing or not. -/
lemma outLoop_current {ps : List tTag} {s : Diff} :
    (outLoop ps s).2.current = s.current.map (copyAll ps) := by
  induction ps generalizing s with
  | nil =>
    have hid : copyAll [] = id := rfl
    rw [hid, List.map_id]
    rfl
  | cons p ps ih =>
    simp only [outLoop]
    split <;> simp only [ih, List.map_map] <;> rfl

/-- A tag whose UID was there before gets the contents of a previous entry. -/
lemma copyAll_found {ps : List tTag} {c : tTag} (h : c.uid ∈ uidsOf ps) :
    ∃ p ∈ ps, p.uid = c.uid ∧ (copyAll ps c).contents = p.contents := by
  induction ps generalizing c with
  | nil => cases h
  | cons p ps ih =>
    by_cases hps : c.uid ∈ uidsOf ps
    · obtain ⟨q, hq, hu, hc⟩ := @ih (copyContents p c) (by rwa [copyContents_uid])
      exact ⟨q, List.mem_cons_of_mem _ hq, hu.trans copyContents_uid, hc⟩
    · have hp : p.uid = c.uid := ((List.mem_cons.1 h).resolve_right hps).symm
      have copied : (copyContents p c).contents = p.contents := by rw [copyContents, if_pos hp]
      refine ⟨p, List.mem_cons_self, hp, ?_⟩
      refine @copyAll_contents ps _ _ (fun q hq hu => ?_) (.inl copied)
      rw [copyContents_uid] at hu
      exact absurd (hu ▸ List.mem_map_of_mem hq) hps

/-- The second loop attaches contents to the tags that were not there before. -/
lemma inLoop_attached {previous cs : List tTag} {s : Bool × World} :
    (∀ t ∈ (inLoop previous cs s).1, t.contents.Attached) ↔
      ∀ c ∈ cs, c.uid ∈ uidsOf previous → c.contents.Attached := by
  induction cs generalizing s with
  | nil =>
    apply iff_of_true
    · intro t ht
      cases ht
    · intro c hc
      cases hc
  | cons c cs ih =>
    have hany : (previous.any fun p => p.uid = c.uid) = decide (c.uid ∈ uidsOf previous) := by
      rw [← any_uid]
      simp only [eq_comm]
    simp only [inLoop, hany]
    by_cases h : c.uid ∈ uidsOf previous
    · simp only [decide_eq_true h, if_true, List.forall_mem_cons, ih]
      exact and_congr_left fun _ => ⟨fun hc _ => hc, fun hc => hc h⟩
    · simp only [decide_eq_false h, Bool.false_eq_true, if_false, List.forall_mem_cons, ih]
      refine and_congr_left fun _ => iff_of_true
        ⟨Nat.succ_pos _, Option.some_ne_none _, Option.some_ne_none _⟩ fun hu => ?_
      exact absurd hu h

/-- After a comparison every tag carries contents iff those that were there before do. -/
lemma processTagLists_attached {callBack} {w : World} :
    Attached (processTagLists callBack w) ↔
      ∀ c ∈ w.readerManager.tagList.entries, c.uid ∈ w.previousTagList.uids →
        (copyAll w.previousTagList.entries c).contents.Attached := by
  have current : w.outs.2.current =
      w.readerManager.tagList.entries.map (copyAll w.previousTagList.entries) := outLoop_current
  have previous : uidsOf w.outs.1 = w.previousTagList.uids := uidsOf_eq ins_spec.1
  rw [Attached, processTagLists_entries, World.ins, inLoop_attached, current, previous,
    List.forall_mem_map]
  simp only [copyAll_uid]

/-- If all previous tags carry contents, all listed ones do. -/
lemma processTagLists_keeps {callBack} {w : World}
    (h : ∀ p ∈ w.previousTagList.entries, p.contents.Attached) :
    Attached (processTagLists callBack w) := by
  refine processTagLists_attached.2 fun c _ hu => ?_
  obtain ⟨p, hp, _, e⟩ := copyAll_found hu
  rw [e]
  exact h p hp

/-- If no previous tag carries contents, all listed ones do iff none of them was there before. -/
lemma processTagLists_unread {callBack} {w : World}
    (h : ∀ p ∈ w.previousTagList.entries, p.contents = .empty) :
    Attached (processTagLists callBack w) ↔
      ∀ u ∈ w.previousTagList.uids, u ∉ w.readerManager.tagList.uids := by
  rw [processTagLists_attached]
  constructor
  · intro attached u hu hc
    obtain ⟨c, hmem, rfl⟩ := List.mem_map.1 hc
    obtain ⟨p, hp, _, e⟩ := copyAll_found hu
    have hatt := attached c hmem hu
    rw [e, h p hp] at hatt
    exact attached_empty hatt
  · intro disjoint c hc hu
    exact absurd (List.mem_map_of_mem hc) (disjoint c.uid hu)

/-- The tags of a poll that is connected come without contents. -/
lemma pollTagLists_unread {env : Env} {callBack} {w : World}
    (h : connected env callBack w = true) :
    ∀ t ∈ (pollTagLists env callBack w).2.readerManager.tagList.entries, t.contents = .empty := by
  obtain ⟨_, after⟩ | ⟨lists, collected⟩ := connected_outcome h
  · rw [stopped_tagList after]
    nofun
  · rw [collected.entries]
    exact collected.unread

/-- A successful poll keeps the tags attached. -/
lemma Attached.poll {env : Env} {callBack} {w : World} (h : Attached w)
    (hr : reaches env callBack w = true) : Attached (tagListCheck env callBack w) := by
  rw [tagListCheck_eq, if_pos hr]
  apply processTagLists_keeps
  rw [pollTagLists_previous (connected_of_reaches hr)]
  exact h

/-- A successful poll after one that left its tags as they were read. -/
lemma attached_poll_unread {env : Env} {callBack} {w : World}
    (h : ∀ t ∈ w.readerManager.tagList.entries, t.contents = .empty)
    (hr : reaches env callBack w = true) :
    Attached (tagListCheck env callBack w) ↔
      ∀ u ∈ w.readerManager.tagList.uids, u ∉ delivered env callBack w := by
  have hc := connected_of_reaches hr
  have uids := tagListCheck_connected hc
  rw [tagListCheck_uids.1] at uids
  have previous := pollTagLists_previous hc
  rw [tagListCheck_eq, if_pos hr, ← uids, ← previous]
  apply processTagLists_unread
  rw [previous]
  exact h

/-- No tag that is read in a poll that fails is read again in the next one, if that succeeds. -/
def ReadsAnew (env : Env) (callBack : Bool) (w : World) : Prop :=
  connected env callBack w = true → reaches env callBack w = false →
    reaches env callBack (tagListCheck env callBack w) = true →
      ∀ u ∈ delivered env callBack w, u ∉ delivered env callBack (tagListCheck env callBack w)

/-- Before the first connection to pcscd there are no tags. -/
lemma tagList_of_unconnected {env : Env} {callBack setting n}
    (h : (polls env callBack setting n).readerManager.hContext = none) :
    (polls env callBack setting n).readerManager.tagList = .empty := by
  induction n with
  | zero => rfl
  | succ n ih =>
    rw [polls_succ] at h ⊢
    generalize polls env callBack setting n = w at ih h ⊢
    have hc : connected env callBack w = false :=
      Bool.eq_false_iff.2 fun hc => tagListCheck_context hc h
    have none : w.readerManager.hContext = none := by
      by_contra context
      rw [connected, connectPcscd_of_context context] at hc
      cases hc
    rw [(tagListCheck_unconnected hc).2.tagList]
    exact ih none

/-- A poll of a run after another one: the second leaves all tags attached iff the first read none
of them in vain. -/
lemma attached_succ_iff {env : Env} {callBack setting m}
    (before : reaches env callBack (polls env callBack setting m) = true →
      Attached (polls env callBack setting (m + 1))) :
    (reaches env callBack (polls env callBack setting (m + 1)) = true →
      Attached (polls env callBack setting (m + 2))) ↔
    ReadsAnew env callBack (polls env callBack setting m) := by
  have unconnected := @tagList_of_unconnected env callBack setting m
  rw [polls_succ (n := m + 1)]
  rw [polls_succ] at before ⊢
  generalize polls env callBack setting m = w at before unconnected ⊢
  rw [ReadsAnew]
  by_cases hc : connected env callBack w = true
  swap
  · -- there were no tags yet
    have context : w.readerManager.hContext = none := by
      by_contra context
      rw [connected, connectPcscd_of_context context] at hc
      exact hc rfl
    have tagList := (tagListCheck_unconnected (Bool.eq_false_iff.2 hc)).2.tagList
    rw [unconnected context] at tagList
    refine iff_of_true (fun hr => Attached.poll ?_ hr) fun h => absurd h hc
    rw [Attached, tagList]
    intro t ht
    cases ht
  cases hr : reaches env callBack w with
  | true =>
    refine iff_of_true (fun hr' => (before hr).poll hr') fun _ failed => ?_
    cases failed
  | false =>
    -- the tags of the failed poll have no contents
    have unread : ∀ t ∈ (tagListCheck env callBack w).readerManager.tagList.entries,
        t.contents = .empty := by
      rw [tagListCheck_eq, if_neg (Bool.eq_false_iff.1 hr)]
      exact pollTagLists_unread hc
    rw [← tagListCheck_connected hc]
    constructor
    · exact fun h _ _ hr' => (attached_poll_unread unread hr').1 (h hr')
    · exact fun h hr' => (attached_poll_unread unread hr').2 (h hc rfl hr')

/-- After every successful poll of a run every listed tag carries its contents, iff no poll that
fails is followed by one that succeeds and delivers one of the same tags. -/
theorem attached_iff {env : Env} {callBack setting n} :
    (∀ m < n, reaches env callBack (polls env callBack setting m) = true →
      Attached (polls env callBack setting (m + 1))) ↔
    ∀ m, m + 1 < n → ReadsAnew env callBack (polls env callBack setting m) := by
  constructor
  · intro h m hm
    exact (attached_succ_iff (h m (Nat.lt_of_succ_lt hm))).1 (h (m + 1) hm)
  · intro h m
    induction m with
    | zero =>
      intro _ hr
      have start : Attached (polls env callBack setting 0) := nofun
      rw [polls_succ]
      exact start.poll hr
    | succ m ih =>
      intro hm
      exact (attached_succ_iff (ih (Nat.lt_of_succ_lt hm))).2 (h m hm)

/-- Two readers. The first one reads a tag; polling the second one fails for the first time. -/
def stumble : Env :=
  { plain [acr0, acr1] fun _ slot => if slot = 0 then some [0xab, 0xcd] else none with
    SCardTransmit := fun log slot send =>
      if slot = 1 ∧ send = pollRequest ∧ ¬ log.any (fun c => c matches .getTagList 1 _ _) then
        (SCARD_F_COMM_ERROR, [])
      else
        (plain [acr0, acr1] fun _ slot =>
          if slot = 0 then some [0xab, 0xcd] else none).SCardTransmit log slot send }

/-- The first poll fails after it has read a tag; the second one succeeds and lists the tag without
contents. -/
theorem unattached_stumble :
    reaches stumble true (polls stumble true READER_BIT_AUTO 1) = true ∧
      ¬ Attached (polls stumble true READER_BIT_AUTO 2) := by
  decide +kernel

end TagEventor
