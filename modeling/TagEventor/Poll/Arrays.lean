import TagEventor.Poll.Attempts
import TagEventor.Reader.Alike

/-!
# The arrays of tags

Who holds the arrays that `readersGetTagList` allocates. A temporary array is freed when its reader
cannot be read, or in the merge loop, and the merged array is handed from the current list to the
previous one and freed with it. The merge loop runs only if there are tags: when readers are read
but none of them has a tag, their temporary arrays are lost (`mergeTags_arrays`), and they are the
only arrays that ever are (`balanced_iff`).
-/

namespace TagEventor
open Ledger Loop

/-- The block of a list of tags, if it has one. -/
def tTagList.blocks (l : tTagList TagArray) : List Nat := (l.pTags.map TagArray.block).toList

/-- The blocks the two lists hold. -/
def World.arrays (w : World) : List Nat :=
  w.previousTagList.blocks ++ w.readerManager.tagList.blocks

/-- The arrays not freed are those of the two lists, which are different, and none was freed
twice. -/
structure Balanced (w : World) : Prop where
  sound : Sound w.tagHeap
  held : ∀ block, block ∈ outstanding w.tagHeap ↔ block ∈ w.arrays
  distinct : w.arrays.Nodup

/-- The lists hold all arrays but the leaked ones. -/
lemma balanced_of_owns {w : World} {leaked} (h : Owns w.tagHeap (leaked ++ w.arrays)) :
    Balanced w ↔ leaked = [] := by
  constructor
  · exact fun balanced => h.disjoint_left fun a => (balanced.held a).1
  · rintro rfl
    exact ⟨h.sound, fun _ => h.mem_iff, h.nodup⟩

/-- The block of a temporary array. -/
def temp (pTags : Nat → Option TempArray) (i : Nat) : List Nat :=
  ((pTags i).map TempArray.block).toList

/-- The blocks of the first `n` temporary arrays. -/
def temps (pTags : Nat → Option TempArray) (n : Nat) : List Nat :=
  (List.range n).flatMap (temp pTags)

/-- A round of the read loop for reader `i`: it keeps one array if the reader is read with success,
and none otherwise. -/
structure ArrayRound (s s' : ReadLoop) (i : Nat) : Prop where
  owns : ∀ owners, Owns s.world.tagHeap owners → Owns s'.world.tagHeap (temp s'.pTags i ++ owners)
  others : ∀ j, j ≠ i → s'.pTags j = s.pTags j
  polled : (polled s'.world.log).length = (polled s.world.log).length + (temp s'.pTags i).length

/-- The array for the tags of a reader is kept if the driver answers with success. -/
lemma readList_arrays {env : Env} {s : ReadLoop} {i} {driver : tReaderDriver}
    (hn : s.pTags i = none) : ArrayRound s (s.readList env driver i) i := by
  obtain ⟨w', tags, hr, _, _, _, e⟩ := @getTagList_spec env driver i s.world.mallocTags.2
  unfold ReadLoop.readList
  dsimp only
  generalize World.getTagList env driver i s.world.mallocTags.2 = x at e ⊢
  obtain ⟨⟨rv, ts⟩, w2⟩ := x
  dsimp only at e ⊢
  subst e
  have heap : w'.tagHeap = s.world.tagHeap ++ [.acquire s.world.tagHeap.length] := hr.tagHeap
  have log : polled w'.log = polled s.world.log := hr.polled
  split
  next hrv =>
    -- the array is freed at once
    refine ⟨fun owners h => ?_, fun _ _ => rfl, ?_⟩
    · show Owns (w'.tagHeap ++ [.release s.world.tagHeap.length]) (temp s.pTags i ++ owners)
      rw [temp, hn, heap]
      exact h.acquire.release
    · show (polled (w'.log ++ [.getTagList i rv tags])).length = _ + (temp s.pTags i).length
      rw [temp, hn, polled_append, log]
      simp [polled, Call.answers, hrv]
  next hrv =>
    refine ⟨fun owners h => ?_, fun j hj => Function.update_of_ne hj .., ?_⟩
    · show Owns w'.tagHeap (temp (Function.update _ _ _) i ++ owners)
      rw [temp, Function.update_self, heap]
      exact h.acquire
    · show (polled (w'.log ++ [.getTagList i rv tags])).length =
        _ + (temp (Function.update _ _ _) i).length
      rw [temp, Function.update_self, polled_append, log]
      simp [polled, Call.answers, show rv = SCARD_S_SUCCESS by simpa using hrv]

/-- Each round of the read loop keeps the array of a reader that was read with success. -/
lemma readReader_arrays {env : Env} {s : ReadLoop} {i} : ArrayRound s (readReader env s i) i := by
  have hn : (s.clear i).pTags i = none := Function.update_self ..
  have others : ∀ j, j ≠ i → (s.clear i).pTags j = s.pTags j := fun j hj =>
    Function.update_of_ne hj ..
  have cleared : ArrayRound s (s.clear i) i := by
    refine ⟨fun owners h => ?_, others, ?_⟩
    · rw [temp, hn]
      exact h
    · rw [temp, hn]
      rfl
  unfold readReader
  dsimp only
  split
  next driver _ _ _ =>
    have h := @readList_arrays env (s.clear i) i driver hn
    exact ⟨h.owns, fun j hj => (h.others j hj).trans (others j hj), h.polled⟩
  · exact cleared

/-- The arrays kept after `n` rounds of the read loop. -/
structure ArraysSoFar (w : World) (owners : List Nat) (n : Nat) (s : ReadLoop) : Prop where
  owns : Owns s.world.tagHeap (temps s.pTags n ++ owners)
  polled : (polled s.world.log).length = (polled w.log).length + (temps s.pTags n).length

/-- One array is kept for each poll that succeeds. -/
lemma readLoop_arrays {env : Env} {w : World} {rv owners n} (h : Owns w.tagHeap owners) :
    ArraysSoFar w owners n ((List.range n).foldl (readReader env) ⟨w, rv, fun _ => none⟩) := by
  refine foldl_range (I := ArraysSoFar w owners) ⟨h, rfl⟩ fun i _ s hs => ?_
  have round := @readReader_arrays env s i
  have before : temps (readReader env s i).pTags i = temps s.pTags i :=
    List.flatMap_congr fun j hj => by
      rw [temp, round.others j (Nat.ne_of_lt (List.mem_range.1 hj)), temp]
  have all : temps (readReader env s i).pTags (i + 1) =
      temps s.pTags i ++ temp (readReader env s i).pTags i := by
    rw [temps, flatMap_range_succ, ← before]
    rfl
  constructor
  · rw [all]
    refine (round.owns _ hs.owns).rearrange ?_
    rw [← List.append_assoc]
    exact List.perm_append_comm.append_right owners
  · rw [round.polled, hs.polled, all, List.length_append, Nat.add_assoc]

/-- The merge loop frees the temporary arrays of the readers it visits. -/
lemma mergeLoop_owns {block pTags owners} {is : List Nat} {s : List tTag × World}
    (h : Owns s.2.tagHeap (is.flatMap (temp pTags) ++ owners)) :
    Owns (is.foldl (mergeReader block pTags) s).2.tagHeap owners := by
  induction is generalizing s with
  | nil => exact h
  | cons i is ih =>
    apply ih
    rw [List.flatMap_cons, List.append_assoc] at h
    generalize is.flatMap (temp pTags) ++ owners = rest at h ⊢
    unfold mergeReader
    dsimp only
    unfold temp at h
    cases hi : pTags i with
    | none =>
      rw [hi] at h
      exact h
    | some a =>
      rw [hi] at h
      exact h.release

/-- The copies are made into the new array only. -/
lemma mergeLoop_tagList {block pTags} {is : List Nat} {s : List tTag × World} :
    (is.foldl (mergeReader block pTags) s).2.readerManager.tagList = s.2.readerManager.tagList := by
  refine foldl_inv (I := fun t : List tTag × World =>
    t.2.readerManager.tagList = s.2.readerManager.tagList) (fun i _ t h => ?_) rfl
  unfold mergeReader
  dsimp only
  split
  · exact h
  · exact h

/-- The merged array takes the place of the temporary ones, which are lost if there are no tags. -/
lemma mergeTags_arrays {pTags owners} {w : World}
    (h : Owns w.tagHeap (temps pTags w.readerManager.nbReaders ++ owners)) :
    (mergeTags pTags w).readerManager.tagList.numTags = w.readerManager.tagList.numTags ∧
      Owns (mergeTags pTags w).tagHeap
        ((if w.readerManager.tagList.numTags > 0 then []
          else temps pTags w.readerManager.nbReaders) ++
            (owners ++ (mergeTags pTags w).readerManager.tagList.blocks)) := by
  unfold mergeTags
  dsimp only
  have numTags : (w.setTagList { w.readerManager.tagList with pTags := none }
    ).readerManager.tagList.numTags = w.readerManager.tagList.numTags := rfl
  rw [numTags]
  split
  · have merged := @mergeLoop_owns w.tagHeap.length pTags (owners ++ [w.tagHeap.length])
      (.range w.readerManager.nbReaders)
      ([], (w.setTagList { w.readerManager.tagList with pTags := none }).mallocTags.2)
      (h.acquire.rearrange (by
        rw [← List.append_assoc]
        exact (List.perm_append_singleton ..).symm))
    have tagList := @mergeLoop_tagList w.tagHeap.length pTags (.range w.readerManager.nbReaders)
      ([], (w.setTagList { w.readerManager.tagList with pTags := none }).mallocTags.2)
    refine ⟨?_, merged⟩
    exact (congrArg tTagList.numTags tagList :)
  · refine ⟨rfl, ?_⟩
    show Owns w.tagHeap (_ ++ (owners ++ []))
    rw [List.append_nil]
    exact h

/-- Reading the tags loses arrays exactly if a reader is polled with success and there are no
tags. -/
lemma readTags_arrays {env : Env} {w : World} {rv owners} (h : Owns w.tagHeap owners) :
    let w' := (readTags env rv w).2
    ∃ lost, Owns w'.tagHeap (lost ++ (owners ++ w'.readerManager.tagList.blocks)) ∧
      (lost = [] ↔ (polled w'.log).length = (polled w.log).length ∨
        w'.readerManager.tagList.numTags ≠ 0) := by
  unfold readTags
  dsimp only
  have h0 : Owns (w.setTagList { w.readerManager.tagList with numTags := 0 }).tagHeap owners := h
  have log0 : (w.setTagList { w.readerManager.tagList with numTags := 0 }).log = w.log := rfl
  have empty : (w.setTagList { w.readerManager.tagList with numTags := 0 }
    ).readerManager.tagList.numTags = 0 := rfl
  generalize w.setTagList _ = w0 at h0 log0 empty ⊢
  obtain ⟨lists, reads, _⟩ := @readLoop_readSoFar env w0 rv empty
  obtain ⟨owns, count⟩ := @readLoop_arrays env w0 rv owners w0.readerManager.nbReaders h0
  generalize List.foldl (readReader env) _ _ = s at reads owns count ⊢
  rw [← reads.nbReaders] at owns count
  obtain ⟨numTags, merged⟩ := mergeTags_arrays owns
  refine ⟨_, merged, ?_⟩
  rw [numTags, mergeTags_log, count, log0, Nat.add_eq_left, List.length_eq_zero_iff]
  by_cases pos : s.world.readerManager.tagList.numTags > 0
  · rw [if_pos pos]
    exact iff_of_true rfl (.inr (Nat.ne_of_gt pos))
  · rw [if_neg pos]
    exact (or_iff_left fun ne => pos (Nat.pos_of_ne_zero ne)).symm

/-- The array of the previous list is freed, the current one becomes the previous one. -/
lemma shiftTagLists_arrays {w : World} {leaked} (h : Owns w.tagHeap (leaked ++ w.arrays)) :
    Owns w.shiftTagLists.tagHeap (leaked ++ w.shiftTagLists.arrays) := by
  have arrays : w.shiftTagLists.arrays = w.readerManager.tagList.blocks := by
    rw [World.arrays, shiftTagLists_previousTagList, shiftTagLists_tagList]
    exact List.append_nil _
  rw [arrays]
  unfold World.shiftTagLists
  unfold World.arrays tTagList.blocks at h
  cases hp : w.previousTagList.pTags with
  | none =>
    rw [hp] at h
    exact h
  | some a =>
    rw [hp] at h
    exact (h.rearrange List.perm_middle).release

/-- The heap and the lists are all that the arrays depend on. -/
lemma owns_of_prepares {w w' : World} {leaked} (h : Owns w.tagHeap (leaked ++ w.arrays))
    (prepares : Prepares w w') : Owns w'.tagHeap (leaked ++ w'.arrays) := by
  rw [World.arrays, prepares.tagHeap, prepares.previousTagList, prepares.tagList]
  exact h

/-- Going from `w` to `w'` loses arrays exactly if readers are polled with success and there are no
tags. -/
def Loses (leaked : List Nat) (w w' : World) : Prop :=
  ∃ lost, Owns w'.tagHeap (lost ++ (leaked ++ w'.arrays)) ∧
    (lost = [] ↔ (polled w'.log).length = (polled w.log).length ∨
      w'.readerManager.tagList.numTags ≠ 0)

/-- The callback allocates nothing. -/
lemma Loses.callBack {leaked} {w w' : World} {callBack connected general tags}
    (h : Loses leaked w w') : Loses leaked w (w'.callBack callBack connected general tags) := by
  obtain ⟨callbacks, e⟩ := @callBack_eq w' callBack connected general tags
  rw [e]
  exact h

/-- A poll that does not get to the readers loses nothing. -/
lemma loses_of_owns {leaked} {w w' : World} (h : Owns w'.tagHeap (leaked ++ w'.arrays))
    (log : polled w'.log = polled w.log) : Loses leaked w w' :=
  ⟨[], h, iff_of_true rfl (.inl (by rw [log]))⟩

/-- A poll up to the comparison. -/
lemma pollTagLists_loses {env : Env} {callBack} {w : World} {leaked}
    (h : Owns w.tagHeap (leaked ++ w.arrays)) :
    Loses leaked w (pollTagLists env callBack w).2 := by
  have prepares := @connectPcscd_prepares env callBack w
  have context := @connectPcscd_context env callBack w
  unfold pollTagLists
  generalize connectPcscd env callBack w = x at prepares context ⊢
  obtain ⟨connected, w1⟩ := x
  have start := owns_of_prepares h prepares
  cases connected with
  | false => exact loses_of_owns start prepares.polled
  | true =>
    have phase := @connectIfAutomatic_connects env w1.shiftTagLists
    have owns := owns_of_prepares (shiftTagLists_arrays start) phase.toPrepares
    have log : polled (connectIfAutomatic env w1.shiftTagLists).2.log = polled w.log := by
      rw [phase.polled, shiftTagLists_log, prepares.polled]
    have tagList : (connectIfAutomatic env w1.shiftTagLists).2.readerManager.tagList = .empty := by
      rw [phase.tagList, shiftTagLists_tagList]
    have context : w1.shiftTagLists.readerManager.hContext ≠ none := by
      rw [shiftTagLists_shifts.hContext]
      exact context rfl
    dsimp only
    obtain ⟨stop, e⟩ | ⟨success, e⟩ := @readersGetTagList_cases env _ context
    · rw [e, if_pos stop]
      exact (loses_of_owns owns log).callBack
    · have read : Loses leaked w (readersGetTagList env w1.shiftTagLists).2 := by
        rw [World.arrays, tagList] at owns
        rw [e]
        generalize (connectIfAutomatic env w1.shiftTagLists).1 = rv
        generalize (connectIfAutomatic env w1.shiftTagLists).2 = w2 at owns log ⊢
        obtain ⟨lists, collected⟩ := @readTags_collected env w2 rv
        obtain ⟨lost, owns, iff⟩ := @readTags_arrays env w2 rv _ owns
        refine ⟨lost, ?_, log ▸ iff⟩
        rw [World.arrays, collected.reads.previousTagList]
        simpa [tTagList.blocks, tTagList.empty] using owns
      split
      · exact read.callBack
      · exact read

/-- The comparison does not concern the arrays. -/
lemma Loses.processTagLists {leaked} {w w' : World} {callBack} (h : Loses leaked w w') :
    Loses leaked w (processTagLists callBack w') := by
  obtain ⟨callbacks, e⟩ := @processTagLists_eq callBack w'
  rw [compared_eq] at e
  have arrays : (TagEventor.processTagLists callBack w').arrays = w'.arrays := by
    rw [e]
    exact congrArg₂ (fun p c : Option Nat => p.toList ++ c.toList) block_setEntries block_setEntries
  rw [Loses, arrays, e]
  exact h

/-- A poll in which readers are polled with success finds a tag. -/
def FreesArrays (env : Env) (callBack : Bool) (w : World) : Prop :=
  (∃ c ∈ pollCalls env callBack w, c.answers = true) → delivered env callBack w ≠ []

instance (env : Env) (callBack : Bool) (w : World) : Decidable (FreesArrays env callBack w) :=
  inferInstanceAs (Decidable (_ → _))

/-- A poll loses the temporary arrays exactly if no tag is found in them. -/
lemma tagListCheck_loses {env : Env} {callBack} {w : World} {leaked}
    (h : Owns w.tagHeap (leaked ++ w.arrays)) :
    Loses leaked w (tagListCheck env callBack w) := by
  rw [tagListCheck_eq]
  split
  · exact (pollTagLists_loses h).processTagLists
  · exact pollTagLists_loses h

/-- The log of a poll begins with the log before it. -/
lemma tagListCheck_log {env : Env} {callBack} {w : World} :
    (tagListCheck env callBack w).log = w.log ++ pollCalls env callBack w := by
  obtain ⟨l, hl⟩ : ∃ l, (tagListCheck env callBack w).log = w.log ++ l := by
    by_cases hc : connected env callBack w = true
    · obtain ⟨start, hstart⟩ := (@connectPcscd_prepares env callBack w).toManages.log
      obtain ⟨phase, hphase⟩ :=
        (@connectIfAutomatic_connects env (w.shifted env callBack)).toManages.log
      obtain ⟨rest, hrest⟩ := pollTagLists_log hc
      refine ⟨start ++ (phase ++ rest), ?_⟩
      rw [hrest, hphase, World.shifted, shiftTagLists_log, hstart]
      simp only [List.append_assoc]
    · exact (tagListCheck_unconnected (Bool.eq_false_iff.2 hc)).2.toManages.log
  rw [pollCalls, hl, List.drop_left]

/-- A poll that is connected holds as many tags as are delivered in it. -/
lemma numTags_delivered {env : Env} {callBack} {w : World} (h : connected env callBack w = true) :
    (tagListCheck env callBack w).readerManager.tagList.numTags =
      (delivered env callBack w).length := by
  have numTags : (tagListCheck env callBack w).readerManager.tagList.numTags =
      (pollTagLists env callBack w).2.readerManager.tagList.numTags := by
    rw [tagListCheck_eq]
    split
    · exact processTagLists_processed.numTags
    · rfl
  rw [numTags, ← tagListCheck_connected h, tagListCheck_uids.1, tTagList.uids, List.length_map]
  obtain ⟨_, after⟩ | ⟨lists, collected⟩ := connected_outcome h
  · rw [stopped_tagList after]
    rfl
  · rw [collected.numTags, collected.entries]

/-- Nothing is lost iff a tag is found when readers are polled with success. -/
lemma freesArrays_iff {env : Env} {callBack} {w : World} :
    (polled (tagListCheck env callBack w).log).length = (polled w.log).length ∨
        (tagListCheck env callBack w).readerManager.tagList.numTags ≠ 0 ↔
      FreesArrays env callBack w := by
  have unpolled : (polled (tagListCheck env callBack w).log).length = (polled w.log).length ↔
      ¬ ∃ c ∈ pollCalls env callBack w, c.answers = true := by
    rw [tagListCheck_log, polled_append, List.length_append, Nat.add_eq_left,
      List.length_eq_zero_iff, polled, List.filter_eq_nil_iff]
    constructor
    · rintro h ⟨c, hc, ha⟩
      exact h c hc ha
    · intro h c hc ha
      exact h ⟨c, hc, ha⟩
  rw [unpolled, FreesArrays, imp_iff_not_or]
  by_cases hc : connected env callBack w = true
  · rw [numTags_delivered hc, Ne, List.length_eq_zero_iff]
  · have prepares := (tagListCheck_unconnected (Bool.eq_false_iff.2 hc)).2
    have none := unpolled.1 (by rw [prepares.polled])
    exact iff_of_true (.inl none) (.inl none)

/-- The lists hold all arrays but the leaked ones, and none has leaked iff all polls free theirs. -/
lemma polls_owns {env : Env} {callBack setting n} :
    ∃ leaked, Owns (polls env callBack setting n).tagHeap
        (leaked ++ (polls env callBack setting n).arrays) ∧
      (leaked = [] ↔ ∀ m < n, FreesArrays env callBack (polls env callBack setting m)) := by
  induction n with
  | zero => exact ⟨[], Owns.nil, iff_of_true rfl nofun⟩
  | succ n ih =>
    obtain ⟨leaked, owns, hleaked⟩ := ih
    obtain ⟨lost, owns, hlost⟩ := @tagListCheck_loses env callBack _ _ owns
    rw [polls_succ]
    refine ⟨lost ++ leaked, by rwa [List.append_assoc], ?_⟩
    rw [List.append_eq_nil_iff, hlost, hleaked, freesArrays_iff]
    constructor
    · rintro ⟨last, before⟩ m hm
      rcases Nat.lt_succ_iff_lt_or_eq.1 hm with hm | rfl
      · exact before m hm
      · exact last
    · exact fun h => ⟨h n (Nat.lt_succ_self n), fun m hm => h m (Nat.lt_succ_of_lt hm)⟩

/-- At the return of every poll of a run the arrays that were allocated and not freed are those of
the two lists, iff every poll in which a reader is polled with success finds a tag. -/
theorem balanced_iff {env : Env} {callBack setting n} :
    (∀ m ≤ n, Balanced (polls env callBack setting m)) ↔
      ∀ m < n, FreesArrays env callBack (polls env callBack setting m) := by
  have each : ∀ m, Balanced (polls env callBack setting m) ↔
      ∀ k < m, FreesArrays env callBack (polls env callBack setting k) := fun m => by
    obtain ⟨leaked, owns, iff⟩ := @polls_owns env callBack setting m
    exact (balanced_of_owns owns).trans iff
  constructor
  · exact fun h => (each n).1 (h n (Nat.le_refl n))
  · exact fun h m hm => (each m).2 fun k hk => h k (Nat.lt_of_lt_of_le hk hm)

/-- A poll of a reader with no tag on it loses the array that was allocated for the reader. -/
theorem unbalanced_plain :
    ¬ Balanced (polls (plain [acr0] fun _ _ => none) true READER_BIT_AUTO 1) := by
  intro balanced
  have held := (balanced.held 0).1 (by decide +kernel)
  revert held
  decide +kernel

end TagEventor
