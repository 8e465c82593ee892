import TagEventor.Poll.Events

/-!
# The data attached to tags

`TAG_IN` attaches a block to a tag and `TAG_OUT` frees what is attached, but not the block: the
pointer it frees is the one to the string literal of `testTag`. The blocks are accounted for
(`ContentsSound`) only as long as no tag leaves, and entries of one UID share their contents.
-/

namespace TagEventor
open Ledger

/-- A tag holds a pointer. -/
def tTagContents.Holds (c : tTagContents) (p : DataPtr) : Prop :=
  c.pData = some p ∨ c.extensionHook = some p

/-- Only blocks that were allocated and not freed before are freed, and the blocks not freed are
attached to tags of the current list. -/
def ContentsSound (w : World) : Prop :=
  Sound w.dataHeap ∧
    ∀ p ∈ outstanding w.dataHeap, ∃ t ∈ w.readerManager.tagList.entries, t.contents.Holds p

/-- No UID held is missing among those delivered, and entries of one UID have the same contents. -/
def StaysAttached (env : Env) (callBack : Bool) (w : World) : Prop :=
  (∀ u ∈ w.readerManager.tagList.uids, u ∈ delivered env callBack w) ∧
    ∀ p ∈ w.readerManager.tagList.entries, ∀ q ∈ w.readerManager.tagList.entries,
      p.uid = q.uid → p.contents = q.contents

instance (env : Env) (callBack : Bool) (w : World) : Decidable (StaysAttached env callBack w) :=
  inferInstanceAs (Decidable (_ ∧ _))

/-- The contents an entry ends up with: those of the last previous entry of its UID. -/
def copyAll (ps : List tTag) (c : tTag) : tTag := ps.foldl (fun c p => copyContents p c) c

/-- Copies of contents leave the UID alone. -/
@[simp] lemma copyAll_uid {ps : List tTag} {c} : (copyAll ps c).uid = c.uid := by
  induction ps generalizing c with
  | nil => rfl
  | cons p ps ih => exact ih.trans copyContents_uid

/-- When no previous tag is missing the first loop only copies contents. -/
lemma outLoop_of_found {ps : List tTag} {s : Diff} (h : ∀ u ∈ uidsOf ps, u ∈ uidsOf s.current) :
    outLoop ps s = (ps, { s with current := s.current.map (copyAll ps) }) := by
  induction ps generalizing s with
  | nil =>
    have hid : copyAll [] = id := rfl
    simp [outLoop, hid]
  | cons p ps ih =>
    have hp : p.uid ∈ uidsOf s.current := h _ List.mem_cons_self
    have ih := @ih { s with current := s.current.map (copyContents p) } fun u hu => by
      rw [uidsOf_map_copyContents]
      exact h u (List.mem_cons_of_mem _ hu)
    simp only [outLoop, any_uid, decide_eq_true hp, if_true, ih, List.map_map]
    rfl

/-- Copying from entries that all have the contents `x` for the UID gives the contents `x`. -/
lemma copyAll_contents {ps : List tTag} {c : tTag} {x}
    (h : ∀ p ∈ ps, p.uid = c.uid → p.contents = x)
    (hc : c.contents = x ∨ ∃ p ∈ ps, p.uid = c.uid) : (copyAll ps c).contents = x := by
  induction ps generalizing c with
  | nil => simpa [copyAll] using hc
  | cons p ps ih =>
    refine ih (fun q hq e => h q (List.mem_cons_of_mem _ hq) (e.trans copyContents_uid)) ?_
    by_cases hp : p.uid = c.uid
    · left
      show (copyContents p c).contents = x
      rw [copyContents, if_pos hp]
      exact h p List.mem_cons_self hp
    · rcases hc with hc | ⟨q, hq, e⟩
      · left
        show (copyContents p c).contents = x
        rw [copyContents, if_neg hp]
        exact hc
      · right
        rcases List.mem_cons.1 hq with rfl | hq
        · exact absurd e hp
        · exact ⟨q, hq, e.trans copyContents_uid.symm⟩

/-- The second loop frees nothing, attaches what it allocates, and keeps the entries that were
there before. -/
lemma inLoop_contents {previous cs : List tTag} {s : Bool × World} :
    (Sound s.2.dataHeap → Sound (inLoop previous cs s).2.2.dataHeap) ∧
    (∀ p ∈ outstanding (inLoop previous cs s).2.2.dataHeap, p ∈ outstanding s.2.dataHeap ∨
      ∃ t ∈ (inLoop previous cs s).1, t.contents.Holds p) ∧
    ∀ c ∈ cs, c.uid ∈ uidsOf previous → c ∈ (inLoop previous cs s).1 := by
  induction cs generalizing s with
  | nil => exact ⟨id, fun p hp => .inl hp, nofun⟩
  | cons c cs ih =>
    have hany : (previous.any fun p => p.uid = c.uid) = decide (c.uid ∈ uidsOf previous) := by
      rw [← any_uid]
      simp only [eq_comm]
    simp only [inLoop, hany]
    by_cases h : c.uid ∈ uidsOf previous
    · simp only [decide_eq_true h, if_true]
      obtain ⟨h1, h2, h3⟩ := @ih s
      refine ⟨h1, fun p hp => ?_, fun d hd hu => ?_⟩
      · rcases h2 p hp with hp | ⟨t, ht, hp⟩
        · exact .inl hp
        · exact .inr ⟨t, List.mem_cons_of_mem _ ht, hp⟩
      · rcases List.mem_cons.1 hd with rfl | hd
        · exact List.mem_cons_self
        · exact List.mem_cons_of_mem _ (h3 d hd hu)
    · simp only [decide_eq_false h, Bool.false_eq_true, if_false]
      obtain ⟨h1, h2, h3⟩ := @ih (true, (eventDispatch .TAG_IN c s.2).2)
      have heap : (eventDispatch .TAG_IN c s.2).2.dataHeap =
          s.2.dataHeap ++ [.acquire (.heap s.2.dataHeap.length)] := rfl
      dsimp only at h1 h2
      rw [heap] at h1 h2
      refine ⟨fun hs => h1 (sound_acquire.2 hs), fun p hp => ?_, fun d hd hu => ?_⟩
      · rcases h2 p hp with hp | ⟨t, ht, hp⟩
        · rw [outstanding_acquire] at hp
          rcases List.mem_cons.1 hp with rfl | hp
          · exact .inr ⟨_, List.mem_cons_self, .inr rfl⟩
          · exact .inl hp
        · exact .inr ⟨t, List.mem_cons_of_mem _ ht, hp⟩
      · rcases List.mem_cons.1 hd with rfl | hd
        · exact absurd hu h
        · exact List.mem_cons_of_mem _ (h3 d hd hu)

/-- Comparing a list with one of which no tag is missing keeps the blocks accounted for. -/
lemma processTagLists_contents {callBack} {w : World} (sound : Sound w.dataHeap)
    (attached : ∀ p ∈ outstanding w.dataHeap, ∃ t ∈ w.previousTagList.entries, t.contents.Holds p)
    (found : ∀ u ∈ w.previousTagList.uids, u ∈ w.readerManager.tagList.uids)
    (shared : ∀ p ∈ w.previousTagList.entries, ∀ q ∈ w.previousTagList.entries,
      p.uid = q.uid → p.contents = q.contents) : ContentsSound (processTagLists callBack w) := by
  have outs : w.outs = (w.previousTagList.entries,
      ⟨w.readerManager.tagList.entries.map (copyAll w.previousTagList.entries), false, w⟩) :=
    outLoop_of_found found
  obtain ⟨callbacks, e⟩ := @processTagLists_eq callBack w
  obtain ⟨h1, h2, h3⟩ := @inLoop_contents w.outs.1 w.outs.2.current
    (w.outs.2.listChanged, w.outs.2.world)
  have heap : (processTagLists callBack w).dataHeap = w.ins.2.2.dataHeap := by rw [e]; rfl
  rw [ContentsSound, processTagLists_entries, heap]
  refine ⟨h1 (by rw [outs]; exact sound), fun p hp => ?_⟩
  rcases h2 p hp with hp | ⟨t, ht, hp⟩
  swap
  · exact ⟨t, ht, hp⟩
  -- the block is attached to a previous tag, and copied to the current one of the same UID
  rw [outs] at hp h3
  obtain ⟨t, ht, holds⟩ := attached p hp
  obtain ⟨c, hc, hu⟩ := List.mem_map.1 (found t.uid (List.mem_map_of_mem ht))
  have contents : (copyAll w.previousTagList.entries c).contents = t.contents :=
    copyAll_contents (fun q hq e => shared q hq t ht (e.trans hu)) (.inr ⟨t, ht, hu.symm⟩)
  refine ⟨copyAll w.previousTagList.entries c, ?_, by rw [contents]; exact holds⟩
  rw [World.ins, outs]
  refine h3 _ (List.mem_map_of_mem hc) ?_
  rw [copyAll_uid, hu]
  exact List.mem_map_of_mem ht

/-- Nothing is attached or detached before the lists are compared. -/
lemma PollOutcome.dataHeap {env callBack w ok w'} (h : PollOutcome env callBack w ok w') :
    w'.dataHeap = w.dataHeap := by
  have hs : (connectIfAutomatic env (w.shifted env callBack)).2.dataHeap = w.dataHeap := by
    rw [connectIfAutomatic_connects.dataHeap, World.shifted, shiftTagLists_shifts.dataHeap,
      connectPcscd_prepares.dataHeap]
  cases h with
  | unconnected _ prepares => exact prepares.dataHeap
  | stopped _ _ after => exact after.dataHeap.trans hs
  | read _ _ collected => exact collected.reads.dataHeap.trans hs

/-- A poll in which no tag leaves keeps the blocks accounted for. -/
lemma ContentsSound.poll {env : Env} {callBack} {w : World} (h : ContentsSound w)
    (hr : reaches env callBack w = true) (stays : StaysAttached env callBack w) :
    ContentsSound (tagListCheck env callBack w) := by
  have previous := pollTagLists_previous (connected_of_reaches hr)
  have uids := tagListCheck_connected (connected_of_reaches hr)
  rw [tagListCheck_uids.1] at uids
  have heap := (@pollTagLists_outcome env callBack w).dataHeap
  rw [tagListCheck_eq, if_pos hr]
  refine processTagLists_contents ?_ ?_ ?_ ?_
  · rw [heap]; exact h.1
  · rw [heap, previous]; exact h.2
  · rw [previous, uids]; exact stays.1
  · rw [previous]; exact stays.2

/-- The blocks attached to tags are accounted for after every run of successful polls in which no
tag leaves, and entries of one UID never have different contents. -/
theorem contents_sound_of_run {env : Env} {callBack setting n}
    (success : ∀ m < n, reaches env callBack (polls env callBack setting m) = true)
    (stays : ∀ m < n, StaysAttached env callBack (polls env callBack setting m)) :
    ContentsSound (polls env callBack setting n) := by
  induction n with
  | zero => exact ⟨sound_nil, nofun⟩
  | succ n ih =>
    rw [polls_succ]
    have ih := ih (fun m hm => success m (Nat.lt_succ_of_lt hm))
      fun m hm => stays m (Nat.lt_succ_of_lt hm)
    exact ih.poll (success n (Nat.lt_succ_self n)) (stays n (Nat.lt_succ_self n))

/-- A tag lies on the reader during two polls. -/
theorem contents_sound_plain :
    ContentsSound (polls (plain [acr0] fun _ _ => some [0xab, 0xcd]) true READER_BIT_AUTO 2) :=
  contents_sound_of_run (by decide +kernel) (by decide +kernel)

/-- When the tag has left, the string literal is freed. -/
theorem literal_freed_visit :
    (∀ m < 3, reaches visit true (polls visit true READER_BIT_AUTO m) = true) ∧
      ¬ ContentsSound (polls visit true READER_BIT_AUTO 3) := by
  refine ⟨by decide +kernel, fun h => ?_⟩
  exact absurd h.1 (by decide +kernel)

end TagEventor
