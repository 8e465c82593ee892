import TagEventor.Poll.Events
import TagEventor.Poll.Exact

/-!
# The status a poll reports

A poll calls the callback at most once, at its end: with `FALSE` if it does not get as far as
`processTagLists`, and with `TRUE` if it finds that the UIDs have changed. A poll that succeeds and
finds no change reports nothing.
-/

namespace TagEventor
open Loop

/-- From `w` to `w'` the callback is not called. -/
def Silent (w w' : World) : Prop := w'.callbacks = w.callbacks

/-- No callback before or after. -/
lemma Silent.trans {w w' w''} (h : Silent w w') (h' : Silent w' w'') : Silent w w'' := Eq.trans h' h

/-- A loop of silent rounds is silent. -/
lemma scan_silent {ι ρ : Type} {body : ι → World → Option ρ × World} {is : List ι} {w}
    (step : ∀ i w, Silent w (body i w).2) : Silent w (scan body is w).2 :=
  scan_path (R := Silent) (fun _ => rfl) Silent.trans (fun i _ => step i) w

/-- A fold of silent rounds is silent. -/
lemma foldl_silent {ι : Type} {body : World → ι → World} {is : List ι} {w}
    (step : ∀ w i, Silent w (body w i)) : Silent w (is.foldl body w) :=
  foldl_path (R := Silent) (fun _ => rfl) Silent.trans (fun i _ w => step w i) w

section
variable {env : Env} {w : World}

/-- The names are stored silently. -/
lemma extractReaders_silent {names} : Silent w (w.extractReaders names) := by
  unfold World.extractReaders
  cases w.readerManager.mszReaders <;> rfl

/-- The readers are listed silently. -/
lemma readersEnumerate_silent : Silent w (readersEnumerate env w).2 := by
  have outcome := @readersEnumerate_outcome env w
  generalize readersEnumerate env w = x at outcome ⊢
  cases outcome with
  | failed => rfl
  | noReaders => rfl
  | renewed => rfl
  | relisted =>
    refine .trans ?_ (foldl_silent fun _ _ => rfl)
    exact .trans rfl extractReaders_silent

/-- The drivers check a reader silently. -/
lemma checkDrivers_silent {num drivers rv} : Silent w (checkDrivers env num drivers rv w).2 := by
  induction drivers generalizing rv w with
  | nil => rfl
  | cons driver drivers ih =>
    unfold checkDrivers
    dsimp only
    split
    · rfl
    · exact .trans rfl ih

/-- A card is connected silently. -/
lemma SCardConnect_silent {num} : Silent w (SCardConnect env num w).2 := by
  unfold SCardConnect
  cases w.nameText env num with
  | none => rfl
  | some name =>
    dsimp only
    split
    · rfl
    · rfl

/-- A reader is connected silently. -/
lemma connectReader_silent {num} : Silent w (connectReader env num w).2 := by
  have connect := @SCardConnect_silent env w num
  unfold connectReader
  split
  · generalize SCardConnect env num w = x at connect ⊢
    obtain ⟨rv, w1⟩ := x
    dsimp only at connect ⊢
    split
    · have check := @checkDrivers_silent env (w1.eventDispatch .READER_DETECTED num) num
        readerDriverTable rv
      generalize checkDrivers env num readerDriverTable rv _ = x at check ⊢
      obtain ⟨⟨rv', driver⟩, w2⟩ := x
      have all : Silent w w2 := .trans connect check
      dsimp only
      split
      · exact all
      · cases driver with
        | none => exact all
        | some driver => exact all
    · exact connect
  · rfl

/-- The connection phase is silent. -/
lemma readersConnect_silent : Silent w (readersConnect env w).2 := by
  have enumerate : Silent w (enumerateIfAutomatic env w).2 := by
    unfold enumerateIfAutomatic
    split
    · exact readersEnumerate_silent
    · rfl
  unfold readersConnect
  generalize enumerateIfAutomatic env w = x at enumerate ⊢
  obtain ⟨rv, w1⟩ := x
  dsimp only at enumerate ⊢
  split
  · exact enumerate
  split
  · exact enumerate
  · have loop := @scan_silent _ _ (connectReader env) (List.range w1.readerManager.nbReaders) w1
      fun i w => connectReader_silent
    generalize scan (connectReader env) (List.range w1.readerManager.nbReaders) w1 = x at loop ⊢
    obtain ⟨returned, w2⟩ := x
    cases returned with
    | none => exact .trans enumerate loop
    | some rv' => exact .trans enumerate loop

/-- The connection phase, where it is made, is silent. -/
lemma connectIfAutomatic_silent : Silent w (connectIfAutomatic env w).2 := by
  unfold connectIfAutomatic
  split
  · exact readersConnect_silent
  · rfl

/-- A reader is read silently. -/
lemma readReader_silent {s : ReadLoop} {i} : Silent s.world (readReader env s i).world := by
  unfold readReader ReadLoop.readList
  dsimp only
  split
  · split
    · rfl
    · rfl
  · rfl

/-- The lists are merged silently. -/
lemma mergeTags_silent {pTags} : Silent w (mergeTags pTags w) := by
  have merge {block : Nat} {is : List Nat} {s : List tTag × World} :
      Silent s.2 (is.foldl (mergeReader block pTags) s).2 := by
    refine foldl_path (R := fun s t : List tTag × World => Silent s.2 t.2) (fun _ => rfl)
      (fun h h' => .trans h h') (fun i _ s => ?_) s
    unfold mergeReader
    dsimp only
    cases pTags i <;> rfl
  unfold mergeTags
  dsimp only
  split
  · exact .trans rfl merge
  · rfl

/-- The tags are read silently. -/
lemma readTags_silent {rv} : Silent w (readTags env rv w).2 := by
  have reads {is : List Nat} {s : ReadLoop} :
      Silent s.world (is.foldl (readReader env) s).world :=
    foldl_path (R := fun s t : ReadLoop => Silent s.world t.world) (fun _ => rfl)
      (fun h h' => .trans h h') (fun i _ s => readReader_silent) s
  exact .trans (.trans rfl reads) mergeTags_silent

/-- A call that reads all tags is silent. -/
lemma readersGetTagList_silent : Silent w (readersGetTagList env w).2 := by
  have connect := @connectIfAutomatic_silent env w
  unfold readersGetTagList
  split
  · rfl
  generalize connectIfAutomatic env w = x at connect ⊢
  obtain ⟨rv, w1⟩ := x
  dsimp only at connect ⊢
  split
  · exact connect
  · exact .trans connect readTags_silent

/-- A context is established silently. -/
lemma readersManagerConnect_silent : Silent w (readersManagerConnect env w).2 := by
  unfold readersManagerConnect
  dsimp only
  split
  · rfl
  · exact .trans rfl readersEnumerate_silent

/-- The lists are shifted silently. -/
lemma shiftTagLists_silent : Silent w w.shiftTagLists := by
  unfold World.shiftTagLists
  cases w.previousTagList.pTags <;> rfl

/-- The callback of a poll that fails. -/
def failure (generalMessage : CString) : Callback := ⟨false, generalMessage, []⟩

/-- A poll that connects to pcscd has reported nothing so far, and another one a failure. -/
lemma connectPcscd_reports :
    (connectPcscd env true w).1 = true ∧ Silent w (connectPcscd env true w).2 ∨
    (connectPcscd env true w).1 = false ∧ (connectPcscd env true w).2.callbacks =
      w.callbacks ++ [failure TAGEVENTOR_STRING_PCSCD_PROBLEM] := by
  have connect := @readersManagerConnect_silent env w
  unfold connectPcscd
  split
  · generalize readersManagerConnect env w = x at connect ⊢
    obtain ⟨rv, w1⟩ := x
    dsimp only at connect ⊢
    split
    · refine .inr ⟨rfl, ?_⟩
      show (w1.callBack true false _ []).callbacks = _
      rw [callBack_callbacks, connect]
      rfl
    · exact .inl ⟨rfl, .trans connect readersConnect_silent⟩
  · exact .inl ⟨rfl, rfl⟩

/-- What a poll that does not succeed reports. -/
def problem (env : Env) (w : World) : CString :=
  if connected env true w then
    TAGEVENTOR_STRING_PCSCD_OK_READER_NOT (pollTagLists env true w).2.readerManager.nbReaders
  else TAGEVENTOR_STRING_PCSCD_PROBLEM

/-- The first part of a poll is silent, or it stops after the report of a failure. -/
lemma pollTagLists_reports :
    reaches env true w = true ∧ Silent w (pollTagLists env true w).2 ∨
    reaches env true w = false ∧ (pollTagLists env true w).2.callbacks =
      w.callbacks ++ [failure (problem env w)] := by
  have connects := @connectPcscd_reports env w
  unfold problem reaches connected
  unfold pollTagLists
  generalize connectPcscd env true w = x at connects ⊢
  obtain ⟨connected, w1⟩ := x
  rcases connects with ⟨rfl, silent⟩ | ⟨rfl, reported⟩
  · have read := @readersGetTagList_silent env w1.shiftTagLists
    dsimp only at silent ⊢
    generalize readersGetTagList env w1.shiftTagLists = x at read ⊢
    obtain ⟨rv, w2⟩ := x
    have all : Silent w w2 := .trans (.trans silent shiftTagLists_silent) read
    by_cases success : rv = SCARD_S_SUCCESS
    · subst success
      exact .inl ⟨rfl, all⟩
    · right
      dsimp only
      simp only [if_pos success]
      refine ⟨trivial, ?_⟩
      rw [callBack_callbacks, all]
      rfl
  · exact .inr ⟨rfl, reported⟩

/-- The UIDs that the poll finds are not those of the list before. -/
def finds (env : Env) (w : World) : Prop :=
  reaches env true w = true ∧
    w.readerManager.tagList.uids.toFinset ≠ (delivered env true w).toFinset

instance : Decidable (finds env w) := inferInstanceAs (Decidable (_ ∧ _))

/-- What a poll that finds a change reports. -/
def change (env : Env) (w : World) : Callback := changedCallback (tagListCheck env true w)

/-- The comparison leaves alone what the callback is told. -/
lemma processTagLists_change {callBack} :
    changedCallback (processTagLists callBack w) = changedCallback w := by
  have uids : (processTagLists callBack w).readerManager.tagList.uids =
      w.readerManager.tagList.uids := processTagLists_processed.uids
  obtain ⟨callbacks, e⟩ := @processTagLists_eq callBack w
  rw [compared_eq] at e
  unfold changedCallback
  rw [uids, e]
  rfl

/-- A poll reports a failure, a change, or nothing. -/
theorem tagListCheck_callbacks : (tagListCheck env true w).callbacks = w.callbacks ++
    if reaches env true w = false then [failure (problem env w)]
    else if finds env w then [change env w] else [] := by
  rcases @pollTagLists_reports env w with ⟨reach, silent⟩ | ⟨failed, reported⟩
  · have uids := tagListCheck_connected (connected_of_reaches reach)
    rw [tagListCheck_uids.1] at uids
    have previous := pollTagLists_previous (connected_of_reaches reach)
    have poll : tagListCheck env true w = processTagLists true (pollTagLists env true w).2 := by
      rw [tagListCheck_eq, if_pos reach]
    rw [change, poll, processTagLists_exact.callbacks, previous, uids, processTagLists_change,
      silent]
    simp [finds, reach]
  · rw [tagListCheck_eq, failed]
    exact reported

/-- A poll does not change which readers are asked for. -/
lemma tagListCheck_readerSetting {callBack} :
    (tagListCheck env callBack w).readerManager.readerSetting = w.readerManager.readerSetting := by
  have phase : (connectIfAutomatic env (w.shifted env callBack)).2.readerManager.readerSetting =
      w.readerManager.readerSetting := by
    rw [connectIfAutomatic_connects.readerSetting, World.shifted,
      shiftTagLists_shifts.readerSetting, connectPcscd_prepares.readerSetting]
  have read : (pollTagLists env callBack w).2.readerManager.readerSetting =
      w.readerManager.readerSetting := by
    have outcome := @pollTagLists_outcome env callBack w
    generalize pollTagLists env callBack w = x at outcome ⊢
    obtain ⟨ok, w'⟩ := x
    cases outcome with
    | unconnected _ prepares => exact prepares.readerSetting
    | stopped _ _ after => exact after.readerSetting.trans phase
    | read _ _ collected => exact collected.reads.readerSetting.trans phase
  rw [tagListCheck_eq]
  split
  · rw [processTagLists_processed.readerSetting, read]
  · exact read

end

end TagEventor
