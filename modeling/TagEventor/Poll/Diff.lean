import TagEventor.Lib.Presence
import TagEventor.Poll.TagEvents
import TagEventor.Reader.Refinement

/-!
# The events of a comparison

`processTagLists` dispatches `TAG_OUT` for the UIDs of the previous list that are missing in the
current one, and `TAG_IN` for those of the current list that are missing in the previous one, each
once for each of its entries, and calls the callback if there are any
(`processTagLists_processed`). Both loops write nothing but contents, so neither sees the effects of
the other.
-/

namespace TagEventor

/-- The UIDs of `l` that do not occur in `l'`. -/
def missing (l l' : List CString) : List CString := l.filter (· ∉ l')

/-- An event of a tag. -/
def tagEvent (eventType : tEventType) (uid : CString) : Event := ⟨eventType, some uid, 0⟩

/-- The UIDs of some tags. -/
abbrev uidsOf (l : List tTag) : List CString := l.map tTag.uid

/-- The UID of the first tag comes first. -/
lemma uidsOf_cons {p : tTag} {ps} : uidsOf (p :: ps) = p.uid :: uidsOf ps := rfl

/-- What the comparison does not write of a tag. -/
def tTag.identity (t : tTag) : tTagType × CString := (t.tagType, t.uid)

/-- The types and the UIDs of some tags. -/
abbrev identitiesOf (l : List tTag) : List (tTagType × CString) := l.map tTag.identity

/-- Tags with the same types and UIDs have the same UIDs. -/
lemma uidsOf_eq {l l' : List tTag} (h : identitiesOf l = identitiesOf l') :
    uidsOf l = uidsOf l' := by
  have hl := congrArg (List.map Prod.snd) h
  rwa [List.map_map, List.map_map] at hl

/-- What the two loops leave alone: everything but the events and the heap of the tags' data. -/
def Dispatches (w w' : World) : Prop :=
  w' = { w with events := w'.events, dataHeap := w'.dataHeap }

/-- Nothing has happened. -/
lemma Dispatches.refl {w} : Dispatches w w := rfl

/-- Some events after others. -/
lemma Dispatches.trans {w w' w''} (h : Dispatches w w') (h' : Dispatches w' w'') :
    Dispatches w w'' := by
  unfold Dispatches at *
  rw [h', h]

/-- To dispatch an event of a tag changes the events and the heap only. -/
lemma eventDispatch_dispatches {e p} {w : World} : Dispatches w (eventDispatch e p w).2 := by
  unfold eventDispatch
  cases e <;> first | rfl | skip
  · simp only [tagDetachData]
    split <;> rfl

/-- The event is dispatched once. -/
lemma eventDispatch_events {e p} {w : World} :
    (eventDispatch e p w).2.events = w.events ++ [tagEvent e p.uid] := by
  unfold eventDispatch
  cases e <;> first | rfl | skip
  · simp only [tagDetachData]
    split <;> rfl

/-- What is attached to a tag is no part of its identity. -/
lemma eventDispatch_identity {e p} {w : World} : (eventDispatch e p w).1.identity = p.identity := by
  cases e <;> rfl

/-- A copy of the contents leaves the UID alone. -/
@[simp] lemma copyContents_uid {p c : tTag} : (copyContents p c).uid = c.uid := by
  unfold copyContents
  split <;> rfl

/-- Copies of contents leave the types and the UIDs alone. -/
@[simp] lemma identitiesOf_map_copyContents {p : tTag} {cs : List tTag} :
    identitiesOf (cs.map (copyContents p)) = identitiesOf cs := by
  rw [identitiesOf, List.map_map]
  apply List.map_congr_left
  intro c _
  simp only [Function.comp_apply, copyContents]
  split <;> rfl

/-- Copies of contents leave the UIDs alone. -/
@[simp] lemma uidsOf_map_copyContents {p : tTag} {cs : List tTag} :
    uidsOf (cs.map (copyContents p)) = uidsOf cs := uidsOf_eq identitiesOf_map_copyContents

/-- The search compares UIDs only. -/
lemma any_uid {p : tTag} {cs : List tTag} :
    (cs.any fun c => p.uid = c.uid) = decide (p.uid ∈ uidsOf cs) := by
  rw [Bool.eq_iff_iff, List.any_eq_true, decide_eq_true_eq, List.mem_map]
  exact exists_congr fun c => and_congr_right fun _ => by rw [decide_eq_true_eq, eq_comm]

/-- Of no UIDs none is missing. -/
@[simp] lemma missing_nil {l'} : missing [] l' = [] := rfl

/-- A UID that is there is not missing. -/
@[simp] lemma missing_cons_of_mem {u l l'} (h : u ∈ l') : missing (u :: l) l' = missing l l' := by
  simp [missing, h]

/-- A UID that is not there is missing. -/
@[simp] lemma missing_cons_of_notMem {u l l'} (h : u ∉ l') :
    missing (u :: l) l' = u :: missing l l' := by
  simp [missing, h]

/-- The first loop: a `TAG_OUT` for each entry that is missing now. -/
lemma outLoop_spec {ps : List tTag} {s : Diff} :
    identitiesOf (outLoop ps s).1 = identitiesOf ps ∧
    identitiesOf (outLoop ps s).2.current = identitiesOf s.current ∧
    Dispatches s.world (outLoop ps s).2.world ∧
    (outLoop ps s).2.world.events =
      s.world.events ++ (missing (uidsOf ps) (uidsOf s.current)).map (tagEvent .TAG_OUT) ∧
    ((outLoop ps s).2.listChanged = true ↔
      s.listChanged = true ∨ missing (uidsOf ps) (uidsOf s.current) ≠ []) := by
  induction ps generalizing s with
  | nil => simp [outLoop, Dispatches.refl]
  | cons p ps ih =>
    simp only [outLoop, any_uid, uidsOf_cons]
    by_cases h : p.uid ∈ uidsOf s.current
    · obtain ⟨h1, h2, h3, h4, h5⟩ := @ih { s with current := s.current.map (copyContents p) }
      rw [identitiesOf_map_copyContents] at h2
      rw [uidsOf_map_copyContents] at h4 h5
      simp only [decide_eq_true h, if_true, missing_cons_of_mem h]
      exact ⟨congrArg (p.identity :: ·) h1, h2, h3, h4, h5⟩
    · obtain ⟨h1, h2, h3, h4, h5⟩ := @ih
        { current := s.current.map (copyContents p), listChanged := true,
          world := (eventDispatch .TAG_OUT p s.world).2 }
      rw [identitiesOf_map_copyContents] at h2
      rw [uidsOf_map_copyContents, eventDispatch_events, List.append_assoc] at h4
      simp only [decide_eq_false h, Bool.false_eq_true, if_false, missing_cons_of_notMem h]
      refine ⟨?_, h2, eventDispatch_dispatches.trans h3, h4, ?_⟩
      · rw [identitiesOf, List.map_cons, eventDispatch_identity]
        exact congrArg (p.identity :: ·) h1
      · simp [h5]

/-- The second loop: a `TAG_IN` for each entry that was missing before. -/
lemma inLoop_spec {previous cs : List tTag} {s : Bool × World} :
    identitiesOf (inLoop previous cs s).1 = identitiesOf cs ∧
    Dispatches s.2 (inLoop previous cs s).2.2 ∧
    (inLoop previous cs s).2.2.events =
      s.2.events ++ (missing (uidsOf cs) (uidsOf previous)).map (tagEvent .TAG_IN) ∧
    ((inLoop previous cs s).2.1 = true ↔
      s.1 = true ∨ missing (uidsOf cs) (uidsOf previous) ≠ []) := by
  induction cs generalizing s with
  | nil => simp [inLoop, Dispatches.refl]
  | cons c cs ih =>
    have hany : (previous.any fun p => p.uid = c.uid) = decide (c.uid ∈ uidsOf previous) := by
      rw [← any_uid]
      simp only [eq_comm]
    simp only [inLoop, hany, uidsOf_cons]
    by_cases h : c.uid ∈ uidsOf previous
    · obtain ⟨h1, h2, h3, h4⟩ := @ih s
      simp only [decide_eq_true h, if_true, missing_cons_of_mem h]
      exact ⟨congrArg (c.identity :: ·) h1, h2, h3, h4⟩
    · obtain ⟨h1, h2, h3, h4⟩ := @ih (true, (eventDispatch .TAG_IN c s.2).2)
      rw [eventDispatch_events, List.append_assoc] at h3
      simp only [decide_eq_false h, Bool.false_eq_true, if_false, missing_cons_of_notMem h]
      refine ⟨?_, eventDispatch_dispatches.trans h2, h3, ?_⟩
      · rw [identitiesOf, List.map_cons, eventDispatch_identity]
        exact congrArg (c.identity :: ·) h1
      · simp [h4]

/-- What is written back is found in the list. -/
lemma entries_setEntries {l : tTagList TagArray} {ts : List tTag}
    (h : ts.length = l.entries.length) : (l.setEntries ts).entries = ts := by
  cases hp : l.pTags with
  | none =>
    have hnil : ts = [] := by simpa [tTagList.entries, hp] using h
    simp [tTagList.setEntries, tTagList.entries, hp, hnil]
  | some a =>
    have hl : ts.length = min l.numTags a.tags.length := by simpa [tTagList.entries, hp] using h
    simp only [tTagList.setEntries, tTagList.entries, hp, Option.map_some, Option.getD_some]
    by_cases hn : l.numTags ≤ a.tags.length
    · rw [List.take_left' (by omega)]
    · rw [List.drop_of_length_le (by omega), List.append_nil, List.take_of_length_le (by omega)]

/-- What is written back stays in the same block. -/
lemma block_setEntries {l : tTagList TagArray} {ts} :
    (l.setEntries ts).pTags.map TagArray.block = l.pTags.map TagArray.block := by
  simp only [tTagList.setEntries, Option.map_map]
  rfl

/-- What `processTagLists` does: it compares the lists and dispatches the events. -/
structure Processed (w w' : World) : Prop where
  conn : w'.conn = w.conn
  readers : w'.readerManager.readers = w.readerManager.readers
  hContext : w'.readerManager.hContext = w.readerManager.hContext
  readerSetting : w'.readerManager.readerSetting = w.readerManager.readerSetting
  uids : w'.readerManager.tagList.uids = w.readerManager.tagList.uids
  numTags : w'.readerManager.tagList.numTags = w.readerManager.tagList.numTags
  block : w'.readerManager.tagList.pTags.map TagArray.block =
    w.readerManager.tagList.pTags.map TagArray.block
  events : w'.events = w.events ++
    (missing w.previousTagList.uids w.readerManager.tagList.uids).map (tagEvent .TAG_OUT) ++
    (missing w.readerManager.tagList.uids w.previousTagList.uids).map (tagEvent .TAG_IN)

/-- The call of the callback after a comparison that found a change. -/
def changedCallback (w : World) : Callback where
  connected := true
  generalMessage :=
    TAGEVENTOR_STRING_CONNECTED_READER w.readerManager.nbReaders w.readerManager.tagList.numTags
  tagsMessage := w.readerManager.tagList.uids.flatMap TAGEVENTOR_STRING_TAG_LINE

/-- The callback changes nothing else. -/
lemma callBack_eq {w : World} {callBack connected general tags} :
    ∃ callbacks, w.callBack callBack connected general tags = { w with callbacks } := by
  unfold World.callBack
  split
  · exact ⟨_, rfl⟩
  · exact ⟨w.callbacks, rfl⟩

/-- A callback that is not `NULL` is called once. -/
lemma callBack_callbacks {w : World} {callBack connected general tags} :
    (w.callBack callBack connected general tags).callbacks =
      w.callbacks ++ if callBack then [⟨connected, general, tags⟩] else [] := by
  cases callBack <;> simp [World.callBack]

/-- The first loop of `processTagLists`. -/
def World.outs (w : World) : List tTag × Diff :=
  outLoop w.previousTagList.entries ⟨w.readerManager.tagList.entries, false, w⟩

/-- The second loop of `processTagLists`. -/
def World.ins (w : World) : List tTag × (Bool × World) :=
  inLoop w.outs.1 w.outs.2.current (w.outs.2.listChanged, w.outs.2.world)

/-- What the two loops leave behind: the lists are written back. -/
def World.compared (w : World) : World :=
  { w.ins.2.2 with previousTagList := w.previousTagList.setEntries w.outs.1 }.setTagList
    (w.ins.2.2.readerManager.tagList.setEntries w.ins.1)

/-- `processTagLists` calls the callback after the two loops if they found a change. -/
lemma processTagLists_def {callBack} {w : World} :
    processTagLists callBack w =
      if w.ins.2.1 then
        w.compared.callBack callBack true
          (TAGEVENTOR_STRING_CONNECTED_READER w.compared.readerManager.nbReaders
            w.compared.readerManager.tagList.numTags)
          (w.compared.readerManager.tagList.uids.flatMap TAGEVENTOR_STRING_TAG_LINE)
      else w.compared := rfl

/-- Beside the callback, the comparison does what the two loops do. -/
lemma processTagLists_eq {callBack} {w : World} :
    ∃ callbacks, processTagLists callBack w = { w.compared with callbacks } := by
  rw [processTagLists_def]
  split
  · exact callBack_eq
  · exact ⟨_, rfl⟩

/-- Both loops: a `TAG_OUT` for each UID that is gone, then a `TAG_IN` for each that has come. -/
lemma ins_spec {w : World} :
    identitiesOf w.outs.1 = identitiesOf w.previousTagList.entries ∧
    identitiesOf w.ins.1 = identitiesOf w.readerManager.tagList.entries ∧
    Dispatches w w.ins.2.2 ∧
    w.ins.2.2.events = w.events ++
      (missing w.previousTagList.uids w.readerManager.tagList.uids).map (tagEvent .TAG_OUT) ++
      (missing w.readerManager.tagList.uids w.previousTagList.uids).map (tagEvent .TAG_IN) ∧
    (w.ins.2.1 = true ↔
      missing w.previousTagList.uids w.readerManager.tagList.uids ≠ [] ∨
        missing w.readerManager.tagList.uids w.previousTagList.uids ≠ []) := by
  obtain ⟨o1, o2, o3, o4, o5⟩ :=
    @outLoop_spec w.previousTagList.entries ⟨w.readerManager.tagList.entries, false, w⟩
  obtain ⟨i1, i2, i3, i4⟩ :=
    @inLoop_spec w.outs.1 w.outs.2.current (w.outs.2.listChanged, w.outs.2.world)
  have u1 : uidsOf w.outs.1 = w.previousTagList.uids := uidsOf_eq o1
  have u2 : uidsOf w.outs.2.current = w.readerManager.tagList.uids := uidsOf_eq o2
  rw [u1, u2] at i3 i4
  refine ⟨o1, i1.trans o2, o3.trans i2, i3.trans (congrArg (· ++ _) o4), i4.trans ?_⟩
  exact or_congr_left (o5.trans (by simp [tTagList.uids]))

/-- Beside the lists, the two loops change the events and the heap of the tags' data. -/
lemma compared_eq {w : World} : w.compared =
    { w with
      previousTagList := w.previousTagList.setEntries w.outs.1
      readerManager := { w.readerManager with
        tagList := w.readerManager.tagList.setEntries w.ins.1 }
      events := w.ins.2.2.events
      dataHeap := w.ins.2.2.dataHeap } := by
  rw [World.compared, (@ins_spec w).2.2.1]
  rfl

/-- The lists after the two loops are what they walked over. -/
lemma compared_entries {w : World} :
    w.compared.previousTagList.entries = w.outs.1 ∧
      w.compared.readerManager.tagList.entries = w.ins.1 := by
  obtain ⟨previous, current, _⟩ := @ins_spec w
  have hp := congrArg List.length previous
  have hc := congrArg List.length current
  rw [List.length_map, List.length_map] at hp hc
  rw [compared_eq]
  exact ⟨entries_setEntries hp, entries_setEntries hc⟩

/-- The entries are those that the second loop leaves. -/
lemma processTagLists_entries {callBack} {w : World} :
    (processTagLists callBack w).readerManager.tagList.entries = w.ins.1 := by
  obtain ⟨callbacks, e⟩ := @processTagLists_eq callBack w
  rw [e]
  exact compared_entries.2

/-- The callback is called once, and only if a loop found a change. -/
lemma processTagLists_callbacks {callBack} {w : World} :
    (processTagLists callBack w).callbacks = w.callbacks ++
      if w.ins.2.1 = true ∧ callBack = true then [changedCallback w] else [] := by
  have uids : w.compared.readerManager.tagList.uids = w.readerManager.tagList.uids := by
    rw [tTagList.uids, compared_entries.2]
    exact uidsOf_eq (@ins_spec w).2.1
  rw [processTagLists_def]
  by_cases h : w.ins.2.1 = true
  · simp only [h, if_true, true_and]
    rw [callBack_callbacks, uids, compared_eq]
    rfl
  · simp [h, compared_eq]

/-- What a comparison keeps, and what it dispatches. -/
theorem processTagLists_processed {callBack} {w : World} :
    Processed w (processTagLists callBack w) := by
  obtain ⟨callbacks, e⟩ := @processTagLists_eq callBack w
  rw [compared_eq] at e
  obtain ⟨_, identities, _, events, _⟩ := @ins_spec w
  exact
    { conn := by rw [e]; rfl
      readers := by rw [e]
      hContext := by rw [e]
      readerSetting := by rw [e]
      uids := by rw [tTagList.uids, processTagLists_entries]; exact uidsOf_eq identities
      numTags := by rw [e]; rfl
      block := by rw [e]; exact block_setEntries
      events := by rw [e]; exact events }

end TagEventor
