import TagEventor.Poll.Arrays
import TagEventor.Reader.Merged

/-!
# The readers a poll uses

A poll makes a call for a reader (it connects to it, talks to its card, or asks its driver) only if
the reader is wanted by the setting that is in force (`pollCalls_wanted`). The drivers it asks for
tags are those of all readers that are connected and wanted (`pollAnswers_readers`), and the UIDs
that are held afterwards are what these drivers returned (`pollAnswers_uids`).
-/

namespace TagEventor
open Loop

/-- From `w` to `w'` calls are made for wanted readers only. -/
structure Restrained (w w' : World) : Prop where
  log : ∃ l, w'.log = w.log ++ l ∧
    ∀ c ∈ l, ∀ i, c.slot = some i → w.readerManager.wanted i = true
  readerSetting : w'.readerManager.readerSetting = w.readerManager.readerSetting

/-- Nothing has happened. -/
lemma Restrained.refl {w} : Restrained w w := ⟨⟨[], (List.append_nil _).symm, nofun⟩, rfl⟩

/-- Some calls after others. -/
lemma Restrained.trans {w w' w''} (h : Restrained w w') (h' : Restrained w' w'') :
    Restrained w w'' := by
  obtain ⟨⟨l, e, hl⟩, same⟩ := h
  obtain ⟨⟨l', e', hl'⟩, same'⟩ := h'
  refine ⟨⟨l ++ l', by rw [e', e, List.append_assoc], fun c hc i hi => ?_⟩, same'.trans same⟩
  rcases List.mem_append.1 hc with hc | hc
  · exact hl c hc i hi
  · rw [← wanted_congr same]
    exact hl' c hc i hi

/-- No call is made. -/
lemma Restrained.of_eq {w w' : World} (log : w'.log = w.log)
    (readerSetting : w'.readerManager.readerSetting = w.readerManager.readerSetting) :
    Restrained w w' := ⟨⟨[], by rw [log, List.append_nil], nofun⟩, readerSetting⟩

/-- All new calls are made for readers that are asked for. -/
lemma Restrained.of_calls {w w' : World} {l} (log : w'.log = w.log ++ l)
    (calls : ∀ c ∈ l, ∀ i, c.slot = some i → w.readerManager.wanted i = true)
    (readerSetting : w'.readerManager.readerSetting = w.readerManager.readerSetting) :
    Restrained w w' := ⟨⟨l, log, calls⟩, readerSetting⟩

section
variable {env : Env} {w : World}

/-- The listing is no call for a reader. -/
lemma readersEnumerate_restrained : Restrained w (readersEnumerate env w).2 := by
  obtain ⟨l, log, hl⟩ := @readersEnumerate_log env w
  refine .of_calls log (fun c hc i hi => ?_) readersEnumerate_connects.readerSetting
  obtain ⟨buffer, rv, names, rfl⟩ := hl c hc
  cases hi

/-- The setting stays as it is when a reader is connected. -/
lemma connectReader_setting {i} :
    (connectReader env i w).2.readerManager.readerSetting = w.readerManager.readerSetting := by
  have outcome := @connectReader_outcome env i w
  generalize connectReader env i w = x at outcome ⊢
  cases outcome with
  | skipped => rfl
  | unconnected => rfl
  | failed checks => exact checks.readerSetting
  | unsupported checks => exact checks.readerSetting
  | accepted checks => exact checks.readerSetting

/-- The loop of `readersConnect` passes over a reader that is not wanted. -/
lemma connectReader_restrained {i} : Restrained w (connectReader env i w).2 := by
  by_cases wanted : w.readerManager.wanted i = true
  · obtain ⟨l, round⟩ := @connectReader_log env i w
    refine .of_calls round.log (fun c hc j hj => ?_) connectReader_setting
    rw [round.slot c hc] at hj
    cases hj
    exact wanted
  · have skipped : connectReader env i w = (none, w) := by
      unfold connectReader
      exact if_neg fun h => wanted h.2
    rw [skipped]
    exact .refl

/-- The connection phase uses no other reader. -/
lemma readersConnect_restrained : Restrained w (readersConnect env w).2 := by
  have start : Restrained w (enumerateIfAutomatic env w).2 := by
    unfold enumerateIfAutomatic
    split
    · exact readersEnumerate_restrained
    · exact .refl
  have rounds := @scan_path _ _ _ Restrained (connectReader env) (fun _ => .refl)
    Restrained.trans (List.range (enumerateIfAutomatic env w).2.readerManager.nbReaders)
    (fun _ _ _ => connectReader_restrained) (enumerateIfAutomatic env w).2
  have outcome := @readersConnect_outcome env w
  generalize readersConnect env w = x at outcome ⊢
  cases outcome with
  | failed => exact start
  | noReaders => exact start
  | looped _ _ loop =>
    rw [loop] at rounds
    exact start.trans rounds

/-- The connection phase, where it is made, uses no other reader. -/
lemma connectIfAutomatic_restrained : Restrained w (connectIfAutomatic env w).2 := by
  unfold connectIfAutomatic
  split
  · exact readersConnect_restrained
  · exact .refl

/-- The read loop asks no driver of a reader that is not wanted. -/
lemma readReader_restrained {s : ReadLoop} {i} :
    Restrained s.world (readReader env s i).world := by
  have clear : Restrained s.world (s.clear i).world := .of_eq rfl rfl
  unfold readReader
  dsimp only
  split
  swap
  · exact clear
  next hCard driver _ _ wanted =>
  refine clear.trans ?_
  generalize s.clear i = s at wanted ⊢
  unfold ReadLoop.readList World.getTagList
  dsimp only
  obtain ⟨l, log, hl⟩ := @onCard_log _ env i
    (driver.getTagList (env.stack s.world.mallocTags.2.log i) uninitialisedTags)
    s.world.mallocTags.2
  have setting : (World.onCard env i
      (driver.getTagList (env.stack s.world.mallocTags.2.log i) uninitialisedTags)
      s.world.mallocTags.2).2.readerManager.readerSetting = s.world.readerManager.readerSetting :=
    rfl
  generalize World.onCard env i _ s.world.mallocTags.2 = x at log setting ⊢
  obtain ⟨⟨rv, numTags, tags⟩, w⟩ := x
  have asked : Restrained s.world w := by
    refine .of_calls log (fun c hc j hj => ?_) setting
    rw [(hl c hc).slot] at hj
    cases hj
    exact wanted
  have answered : Restrained w (w.record (.getTagList i rv ((List.range numTags).map tags))) := by
    refine .of_calls rfl (fun c hc j hj => ?_) rfl
    rw [List.mem_singleton.1 hc] at hj
    cases hj
    rw [wanted_congr setting]
    exact wanted
  dsimp only
  split
  · exact (asked.trans answered).trans (.of_eq rfl rfl)
  · exact (asked.trans answered).trans (.of_eq rfl rfl)

/-- The setting stays as it is when the lists are merged. -/
lemma mergeTags_setting {pTags} :
    (mergeTags pTags w).readerManager.readerSetting = w.readerManager.readerSetting := by
  unfold mergeTags
  dsimp only
  split
  swap
  · rfl
  refine foldl_inv (I := fun s : List tTag × World =>
    s.2.readerManager.readerSetting = w.readerManager.readerSetting) (fun i _ s h => ?_) rfl
  unfold mergeReader
  dsimp only
  cases pTags i <;> exact h

/-- A call that reads all tags uses no other reader. -/
lemma readersGetTagList_restrained : Restrained w (readersGetTagList env w).2 := by
  have connect := @connectIfAutomatic_restrained env w
  unfold readersGetTagList
  split
  · exact .refl
  generalize connectIfAutomatic env w = x at connect ⊢
  obtain ⟨rv, w1⟩ := x
  dsimp only at connect ⊢
  split
  · exact connect
  refine connect.trans ?_
  unfold readTags
  have start : Restrained w1 (w1.setTagList { w1.readerManager.tagList with numTags := 0 }) :=
    .of_eq rfl rfl
  generalize w1.setTagList _ = w2 at start ⊢
  have reads := @foldl_path _ _ (fun s s' : ReadLoop => Restrained s.world s'.world)
    (readReader env) (fun _ => .refl) Restrained.trans (List.range w2.readerManager.nbReaders)
    (fun _ _ _ => readReader_restrained) ⟨w2, rv, fun _ => none⟩
  exact (start.trans reads).trans (.of_eq mergeTags_log mergeTags_setting)

/-- The callback makes no call. -/
lemma callBack_restrained {callBack connected general tags} :
    Restrained w (w.callBack callBack connected general tags) := by
  obtain ⟨callbacks, e⟩ := @callBack_eq w callBack connected general tags
  rw [e]
  exact .of_eq rfl rfl

/-- No reader is used to establish a context. -/
lemma connectPcscd_restrained {callBack} : Restrained w (connectPcscd env callBack w).2 := by
  have connect : Restrained w (readersManagerConnect env w).2 := by
    unfold readersManagerConnect
    have established : Restrained w
        (w.record (.SCardEstablishContext (env.SCardEstablishContext w.log).1)) := by
      refine .of_calls rfl (fun c hc i hi => ?_) rfl
      rw [List.mem_singleton.1 hc] at hi
      cases hi
    dsimp only
    split
    · exact established.trans (.of_eq rfl rfl)
    · refine .trans ?_ readersEnumerate_restrained
      exact established.trans (.of_eq rfl rfl)
  unfold connectPcscd
  split
  swap
  · exact .refl
  generalize readersManagerConnect env w = x at connect ⊢
  obtain ⟨rv, w1⟩ := x
  dsimp only at connect ⊢
  split
  · exact connect.trans callBack_restrained
  · exact connect.trans readersConnect_restrained

/-- No call is made to shift the lists. -/
lemma shiftTagLists_restrained : Restrained w w.shiftTagLists :=
  .of_eq shiftTagLists_log shiftTagLists_shifts.readerSetting

/-- A poll uses no other reader. -/
lemma tagListCheck_restrained {callBack} : Restrained w (tagListCheck env callBack w) := by
  have connect := @connectPcscd_restrained env w callBack
  have poll : Restrained w (pollTagLists env callBack w).2 := by
    unfold pollTagLists
    generalize connectPcscd env callBack w = x at connect ⊢
    obtain ⟨connected, w1⟩ := x
    cases connected with
    | false => exact connect
    | true =>
      have read := @readersGetTagList_restrained env w1.shiftTagLists
      have all := (connect.trans shiftTagLists_restrained).trans read
      dsimp only at all ⊢
      generalize readersGetTagList env w1.shiftTagLists = x at all ⊢
      obtain ⟨rv, w2⟩ := x
      dsimp only
      split
      · exact all.trans callBack_restrained
      · exact all
  rw [tagListCheck_eq]
  split
  · refine poll.trans (.of_eq ?_ processTagLists_processed.readerSetting)
    exact congrArg Conn.log processTagLists_processed.conn
  · exact poll

/-- Every call that a poll makes for a reader is made for one that is wanted. -/
theorem pollCalls_wanted {callBack} {c : Call} (mem : c ∈ pollCalls env callBack w) {i}
    (slot : c.slot = some i) : w.readerManager.wanted i = true := by
  obtain ⟨l, log, calls⟩ := (@tagListCheck_restrained env w callBack).log
  rw [pollCalls, log, List.drop_left] at mem
  exact calls c mem i slot

/-- No driver is asked for tags in the connection phase. -/
lemma readersConnect_answers :
    driverAnswers (readersConnect env w).2.log = driverAnswers w.log := by
  have start : driverAnswers (enumerateIfAutomatic env w).2.log = driverAnswers w.log := by
    unfold enumerateIfAutomatic
    split
    · exact readersEnumerate_answers
    · rfl
  have rounds := @scan_inv _ _ _ (fun t : World => driverAnswers t.log = driverAnswers w.log)
    (connectReader env) (List.range (enumerateIfAutomatic env w).2.readerManager.nbReaders)
    (enumerateIfAutomatic env w).2 (fun i _ t ht => connectReader_answers.trans ht) start
  have outcome := @readersConnect_outcome env w
  generalize readersConnect env w = x at outcome ⊢
  cases outcome with
  | failed => exact start
  | noReaders => exact start
  | looped _ _ loop =>
    rw [loop] at rounds
    exact rounds

/-- No driver is asked for tags while a context is established. -/
lemma connectPcscd_answers {callBack} :
    driverAnswers (connectPcscd env callBack w).2.log = driverAnswers w.log := by
  have connect : driverAnswers (readersManagerConnect env w).2.log = driverAnswers w.log := by
    unfold readersManagerConnect
    dsimp only
    split
    · exact driverAnswers_concat rfl
    · exact readersEnumerate_answers.trans (driverAnswers_concat rfl)
  unfold connectPcscd
  split
  swap
  · rfl
  generalize readersManagerConnect env w = x at connect ⊢
  obtain ⟨rv, w1⟩ := x
  dsimp only at connect ⊢
  split
  · obtain ⟨callbacks, e⟩ := @callBack_eq w1 callBack false TAGEVENTOR_STRING_PCSCD_PROBLEM []
    rw [e]
    exact connect
  · exact readersConnect_answers.trans connect

/-- What the drivers answer in a poll that is connected, they answer in `readersGetTagList`. -/
lemma pollCalls_answers {callBack} (h : connected env callBack w = true) :
    driverAnswers (pollCalls env callBack w) =
      driverAnswers (readCalls env (w.shifted env callBack)) := by
  have log : (pollTagLists env callBack w).2.log =
      (w.shifted env callBack).log ++ readCalls env (w.shifted env callBack) := by
    rw [← readCalls_log]
    have shifted : w.shifted env callBack = (connectPcscd env callBack w).2.shiftTagLists := rfl
    unfold pollTagLists
    rw [shifted]
    unfold connected at h
    generalize connectPcscd env callBack w = x at h ⊢
    obtain ⟨_, w1⟩ := x
    cases h
    dsimp only
    split
    · obtain ⟨callbacks, e⟩ := @callBack_eq (readersGetTagList env w1.shiftTagLists).2 callBack
        false (TAGEVENTOR_STRING_PCSCD_OK_READER_NOT _) []
      rw [e]
    · rfl
  have before : driverAnswers (w.shifted env callBack).log = driverAnswers w.log := by
    rw [World.shifted, shiftTagLists_log, connectPcscd_answers]
  have after := congrArg driverAnswers (@tagListCheck_log env callBack w)
  rw [tagListCheck_uids.2, log, driverAnswers_append, driverAnswers_append, before] at after
  exact (List.append_cancel_left after).symm

/-- A poll that gets past the connection phase asks the drivers of all readers that are connected
and wanted, in their order. -/
lemma pollAnswers_readers {callBack} (h : connected env callBack w = true)
    (success : (connectIfAutomatic env (w.shifted env callBack)).1 = SCARD_S_SUCCESS) :
    let w1 := (connectIfAutomatic env (w.shifted env callBack)).2
    (driverAnswers (pollCalls env callBack w)).map Prod.fst =
      (List.range w1.readerManager.nbReaders).filter fun i =>
        (w1.reader i).hCard ≠ none ∧ (w1.reader i).pDriver ≠ none ∧
          w.readerManager.wanted i = true := by
  have context : (w.shifted env callBack).readerManager.hContext ≠ none := by
    rw [World.shifted, shiftTagLists_shifts.hContext]
    exact connectPcscd_context h
  have setting : (connectIfAutomatic env (w.shifted env callBack)).2.readerManager.readerSetting =
      w.readerManager.readerSetting := by
    rw [connectIfAutomatic_connects.readerSetting, World.shifted,
      shiftTagLists_shifts.readerSetting, connectPcscd_prepares.readerSetting]
  intro w1
  rw [pollCalls_answers h, (merged_lists context success).readers]
  refine List.filter_congr fun i _ => ?_
  unfold World.polls
  rw [wanted_congr setting]

/-- The UIDs that are held after a poll that is connected were returned by drivers in it. -/
lemma pollAnswers_uids {callBack} (h : connected env callBack w = true) {uid}
    (mem : uid ∈ (tagListCheck env callBack w).readerManager.tagList.uids) :
    ∃ i tags, Call.getTagList i SCARD_S_SUCCESS tags ∈ pollCalls env callBack w ∧
      uid ∈ uidsOf tags := by
  rw [tagListCheck_connected h, delivered, tagListCheck_log, answered_append, List.drop_left] at mem
  obtain ⟨t, ht, rfl⟩ := List.mem_map.1 mem
  obtain ⟨c, hc, htc⟩ := List.mem_flatMap.1 ht
  cases c with
  | getTagList i rv tags =>
    by_cases success : rv = SCARD_S_SUCCESS
    · subst success
      exact ⟨i, tags, hc, List.mem_map_of_mem (by simpa using htc)⟩
    · simp [success] at htc
  | _ => cases htc

end

end TagEventor
