import TagEventor.Reader.Attempts

/-!
# Two runs that agree on all readers but one

Two outsides that differ in one reader `k` only (`Env.AgreeOff`), and states that differ in this
reader only (`Alike`). A round of a loop for another reader goes the same way in both
(`connectReader_alike`, `readReader_alike`), and a round for reader `k` changes nothing the other
rounds look at (`connectReader_off`, `readReader_off`).
-/

namespace TagEventor
open Interact Loop

/-- The calls that are not made for slot `k`. -/
def callsOff (k : Nat) (log : List Call) : List Call := log.filter fun c => c.slot ≠ some k

/-- The other calls among some are those among their parts. -/
@[simp] lemma callsOff_append {k} {l l' : List Call} :
    callsOff k (l ++ l') = callsOff k l ++ callsOff k l' := List.filter_append ..

/-- Where all calls are for reader `k` there are no other ones. -/
lemma callsOff_eq_nil {k} {l : List Call} (h : ∀ c ∈ l, c.slot = some k) : callsOff k l = [] := by
  simpa [callsOff] using h

/-- Two outsides that answer alike after histories that differ in calls for reader `k` only, unless
it is reader `k` that is asked. -/
structure Env.AgreeOff (k : Nat) (env env' : Env) : Prop where
  SCardListReaders : ∀ {l l'}, callsOff k l = callsOff k l' →
    env.SCardListReaders l = env'.SCardListReaders l'
  stale : ∀ {l l'}, callsOff k l = callsOff k l' → env.stale l = env'.stale l'
  SCardConnect : ∀ {l l' i name}, callsOff k l = callsOff k l' → i ≠ k →
    env.SCardConnect l i name = env'.SCardConnect l' i name
  SCardStatus : ∀ {l l' i}, callsOff k l = callsOff k l' → i ≠ k →
    env.SCardStatus l i = env'.SCardStatus l' i
  SCardTransmit : ∀ {l l' i send}, callsOff k l = callsOff k l' → i ≠ k →
    env.SCardTransmit l i send = env'.SCardTransmit l' i send
  stack : ∀ {l l' i}, callsOff k l = callsOff k l' → i ≠ k → env.stack l i = env'.stack l' i

/-- Two states that differ in reader `k` and in what only concerns the tag lists. -/
structure Alike (k : Nat) (w w' : World) : Prop where
  calls : callsOff k w.log = callsOff k w'.log
  readers : ∀ i, i ≠ k → w.reader i = w'.reader i
  nbReaders : w.readerManager.nbReaders = w'.readerManager.nbReaders
  mszReaders : w.readerManager.mszReaders = w'.readerManager.mszReaders
  readerSetting : w.readerManager.readerSetting = w'.readerManager.readerSetting

namespace Alike
variable {k : Nat} {w w' w'' : World}

/-- A state is like itself. -/
lemma refl : Alike k w w := ⟨rfl, fun _ _ => rfl, rfl, rfl, rfl⟩

/-- The relation is symmetric. -/
lemma symm (h : Alike k w w') : Alike k w' w :=
  ⟨h.calls.symm, fun i hi => (h.readers i hi).symm, h.nbReaders.symm, h.mszReaders.symm,
    h.readerSetting.symm⟩

/-- The relation is transitive. -/
lemma trans (h : Alike k w w') (h' : Alike k w' w'') : Alike k w w'' :=
  ⟨h.calls.trans h'.calls, fun i hi => (h.readers i hi).trans (h'.readers i hi),
    h.nbReaders.trans h'.nbReaders, h.mszReaders.trans h'.mszReaders,
    h.readerSetting.trans h'.readerSetting⟩

/-- The same call is logged in both. -/
lemma record {c} (h : Alike k w w') : Alike k (w.record c) (w'.record c) :=
  { h with
    calls := by
      show callsOff k (w.log ++ [c]) = callsOff k (w'.log ++ [c])
      rw [callsOff_append, callsOff_append, h.calls] }

/-- The same is stored for a reader in both. -/
lemma setReader {i r} (h : Alike k w w') : Alike k (w.setReader i r) (w'.setReader i r) :=
  { h with
    readers := fun j hj => by
      by_cases hji : j = i
      · subst hji
        rw [reader_setReader, reader_setReader]
      · rw [reader_setReader_ne hji, reader_setReader_ne hji, h.readers j hj] }

/-- The same number of tags is stored for another reader in both. -/
lemma setNumTags {i n} (h : Alike k w w') (hi : i ≠ k) :
    Alike k (w.setReaderTagList i { (w.reader i).tagList with numTags := n })
      (w'.setReaderTagList i { (w'.reader i).tagList with numTags := n }) := by
  unfold World.setReaderTagList
  rw [h.readers i hi]
  exact h.setReader

/-- Events differ at most. -/
lemma eventDispatch {e n} (h : Alike k w w') :
    Alike k (w.eventDispatch e n) (w'.eventDispatch e n) :=
  { h with }

/-- The same readers are asked for. -/
lemma wanted (h : Alike k w w') (i) : w.readerManager.wanted i = w'.readerManager.wanted i :=
  wanted_congr h.readerSetting i

/-- The other readers have the same names. -/
lemma nameText {env env' : Env} {i} (h : Alike k w w') (agree : env.AgreeOff k env') (hi : i ≠ k) :
    w.nameText env i = w'.nameText env' i := by
  unfold World.nameText World.cstr
  rw [h.readers i hi, h.mszReaders, agree.stale h.calls]

/-- Calls for reader `k`, after which the other readers are as before. -/
lemma off {l} (log : w'.log = w.log ++ l) (slot : ∀ c ∈ l, c.slot = some k)
    (readers : ∀ i, i ≠ k → w'.reader i = w.reader i)
    (nbReaders : w'.readerManager.nbReaders = w.readerManager.nbReaders)
    (mszReaders : w'.readerManager.mszReaders = w.readerManager.mszReaders)
    (readerSetting : w'.readerManager.readerSetting = w.readerManager.readerSetting) :
    Alike k w w' :=
  ⟨by rw [log, callsOff_append, callsOff_eq_nil slot, List.append_nil],
    fun i hi => (readers i hi).symm, nbReaders.symm, mszReaders.symm, readerSetting.symm⟩

end Alike

section
variable {k : Nat} {env env' : Env} (agree : env.AgreeOff k env') {i : Nat} (hi : i ≠ k)
  {w w' : World} (h : Alike k w w')
include agree hi h

/-- An exchange with the card of another reader goes alike. -/
lemma onCard_alike {α} (p : CardProg α) :
    (w.onCard env i p).1 = (w'.onCard env' i p).1 ∧
      Alike k (w.onCard env i p).2 (w'.onCard env' i p).2 := by
  have step : ∀ q l l', callsOff k l = callsOff k l' →
      (answerCard env i (w.reader i).hCard q l).1 = (answerCard env' i (w.reader i).hCard q l').1 ∧
        callsOff k (answerCard env i (w.reader i).hCard q l).2 =
          callsOff k (answerCard env' i (w.reader i).hCard q l').2 := by
    intro q l l' hl
    cases q with
    | transmit send capacity =>
      simp only [answerCard, agree.SCardTransmit hl hi, callsOff_append, hl, and_self]
    | status => simp only [answerCard, agree.SCardStatus hl hi, callsOff_append, hl, and_self]
  have sim := Prog.run_sim (R := fun l l' => callsOff k l = callsOff k l') step p h.calls
  unfold World.onCard
  rw [← h.readers i hi]
  exact ⟨sim.1, { h with calls := sim.2 }⟩

/-- Another reader is connected alike. -/
lemma SCardConnect_alike :
    (SCardConnect env i w).1 = (SCardConnect env' i w').1 ∧
      Alike k (SCardConnect env i w).2 (SCardConnect env' i w').2 := by
  have hconnects : connects w.log i = connects w'.log i := by
    have e : ∀ log, connects log i = connects (callsOff k log) i := fun log => by
      unfold connects callsOff
      rw [List.countP_filter]
      refine List.countP_congr fun c _ => ?_
      cases c with
      | SCardConnect j => by_cases hj : j = i <;> simp [Call.slot, hj, hi]
      | _ => simp
    rw [e, h.calls, ← e]
  unfold SCardConnect
  rw [h.nameText agree hi]
  cases w'.nameText env' i with
  | none => exact ⟨rfl, h.record⟩
  | some name =>
    dsimp only
    rw [agree.SCardConnect h.calls hi, hconnects, h.readers i hi]
    split
    · exact ⟨rfl, h.record.setReader⟩
    · exact ⟨rfl, h.record⟩

/-- A driver checks another reader alike. -/
lemma readerCheck_alike (driver : tReaderDriver) :
    (w.readerCheck env driver i).1 = (w'.readerCheck env' driver i).1 ∧
      Alike k (w.readerCheck env driver i).2 (w'.readerCheck env' driver i).2 := by
  unfold World.readerCheck
  dsimp only
  rw [h.nameText agree hi, h.readers i hi, agree.stack h.calls hi]
  obtain ⟨e, ha⟩ := onCard_alike agree hi h
    (driver.readerCheck (w'.reader i) ((w'.nameText env' i).getD []) (env'.stack w'.log i))
  generalize w.onCard env i _ = x at e ha ⊢
  generalize w'.onCard env' i _ = y at e ha ⊢
  obtain ⟨⟨rv, supported, r⟩, v⟩ := x
  obtain ⟨_, v'⟩ := y
  cases e
  exact ⟨rfl, ha.record.setReader⟩

/-- A round of the loop of `readersConnect` for another reader. -/
lemma connectReader_alike :
    (connectReader env i w).1 = (connectReader env' i w').1 ∧
      Alike k (connectReader env i w).2 (connectReader env' i w').2 := by
  unfold connectReader
  rw [h.readers i hi, h.wanted]
  split
  swap
  · exact ⟨rfl, h⟩
  obtain ⟨e, h1⟩ := SCardConnect_alike agree hi h
  generalize SCardConnect env i w = x at e h1 ⊢
  generalize SCardConnect env' i w' = y at e h1 ⊢
  obtain ⟨rv, w1⟩ := x
  obtain ⟨_, w1'⟩ := y
  cases e
  dsimp only at h1 ⊢
  split
  swap
  · exact ⟨rfl, h1.setReader⟩
  simp only [checkDrivers_table]
  obtain ⟨e, h2⟩ := readerCheck_alike agree hi
    (h1.eventDispatch (e := .READER_DETECTED) (n := i)) .acr122U
  generalize (w1.eventDispatch .READER_DETECTED i).readerCheck env .acr122U i = x at e h2 ⊢
  generalize (w1'.eventDispatch .READER_DETECTED i).readerCheck env' .acr122U i = y at e h2 ⊢
  obtain ⟨⟨rv, supported⟩, w2⟩ := x
  obtain ⟨_, w2'⟩ := y
  cases e
  dsimp only at h2 ⊢
  split
  · exact ⟨rfl, h2.setReader⟩
  rw [h2.readers i hi]
  cases supported with
  | false => exact ⟨rfl, h2.setReader⟩
  | true => exact ⟨rfl, h2.setReader.eventDispatch⟩

end

/-- A round of the loop of `readersConnect` leaves the list of readers and the setting alone. -/
lemma connectReader_frame {env : Env} {i} {w : World} :
    (connectReader env i w).2.readerManager.nbReaders = w.readerManager.nbReaders ∧
      (connectReader env i w).2.readerManager.mszReaders = w.readerManager.mszReaders ∧
      (connectReader env i w).2.readerManager.readerSetting = w.readerManager.readerSetting := by
  have outcome := @connectReader_outcome env i w
  generalize connectReader env i w = x at outcome ⊢
  cases outcome with
  | skipped => exact ⟨rfl, rfl, rfl⟩
  | unconnected => exact ⟨rfl, rfl, rfl⟩
  | failed checks => exact ⟨checks.nbReaders, checks.mszReaders, checks.readerSetting⟩
  | unsupported checks => exact ⟨checks.nbReaders, checks.mszReaders, checks.readerSetting⟩
  | accepted checks => exact ⟨checks.nbReaders, checks.mszReaders, checks.readerSetting⟩

/-- The round for reader `k` changes nothing else. -/
lemma connectReader_off {env : Env} {k} {w : World} : Alike k w (connectReader env k w).2 := by
  obtain ⟨l, hl⟩ := @connectReader_log env k w
  obtain ⟨nbReaders, mszReaders, readerSetting⟩ := @connectReader_frame env k w
  exact .off hl.log hl.slot hl.others nbReaders mszReaders readerSetting

/-- The readers are listed alike. -/
lemma readersEnumerate_alike {k} {env env' : Env} (agree : env.AgreeOff k env') {w : World} :
    readersEnumerate env w = readersEnumerate env' w := by
  have e : ∀ buffer (w : World), SCardListReaders env buffer w = SCardListReaders env' buffer w :=
    fun buffer w => by
      unfold SCardListReaders
      rw [agree.SCardListReaders rfl]
  simp only [readersEnumerate, e]

/-- The listing, where it is made, goes alike. -/
lemma enumerateIfAutomatic_alike {k} {env env' : Env} (agree : env.AgreeOff k env') {w : World} :
    enumerateIfAutomatic env w = enumerateIfAutomatic env' w := by
  unfold enumerateIfAutomatic
  rw [readersEnumerate_alike agree]

/-- The round of the read loop for reader `i` makes calls for it only, and does not refuse it. -/
lemma readReader_log {env : Env} {i} {s : ReadLoop} :
    ∃ l, (readReader env s i).world.log = s.world.log ++ l ∧
      ∀ c ∈ l, c.slot = some i ∧ ∀ k, c.refuses k = false := by
  unfold readReader
  dsimp only
  split
  swap
  · exact ⟨[], (List.append_nil _).symm, nofun⟩
  next driver _ _ _ =>
  unfold ReadLoop.readList World.getTagList
  dsimp only
  obtain ⟨l, hlog, hl⟩ := @onCard_log _ env i
    (driver.getTagList (env.stack (s.clear i).world.mallocTags.2.log i) uninitialisedTags)
    (s.clear i).world.mallocTags.2
  generalize World.onCard env i _ (s.clear i).world.mallocTags.2 = x at hlog ⊢
  obtain ⟨⟨rv, numTags, tags⟩, w⟩ := x
  refine ⟨l ++ [.getTagList i rv ((List.range numTags).map tags)], ?_, ?_⟩
  · rw [← List.append_assoc, ← show w.log = s.world.log ++ l from hlog]
    dsimp only
    split <;> rfl
  · intro c hc
    rcases List.mem_append.1 hc with hc | hc
    · exact ⟨(hl c hc).slot, fun k => (hl c hc).not_refuses⟩
    · rw [List.mem_singleton.1 hc]
      exact ⟨rfl, fun k => rfl⟩

/-- A round of the read loop for another reader. -/
lemma readReader_alike {k} {env env' : Env} (agree : env.AgreeOff k env') {i} (hi : i ≠ k)
    {s s' : ReadLoop} (h : Alike k s.world s'.world) :
    Alike k (readReader env s i).world (readReader env' s' i).world := by
  have h0 : Alike k (s.clear i).world (s'.clear i).world := h.setNumTags hi
  unfold readReader
  dsimp only
  generalize s.clear i = s0 at h0 ⊢
  generalize s'.clear i = s0' at h0 ⊢
  rw [h0.readers i hi, h0.wanted]
  split
  swap
  · exact h0
  next driver _ _ _ =>
  have h1 : Alike k s0.world.mallocTags.2 s0'.world.mallocTags.2 := { h0 with }
  unfold ReadLoop.readList World.getTagList
  dsimp only
  rw [agree.stack h1.calls hi]
  obtain ⟨e, h2⟩ := onCard_alike agree hi h1
    (driver.getTagList (env'.stack s0'.world.mallocTags.2.log i) uninitialisedTags)
  generalize World.onCard env i _ s0.world.mallocTags.2 = x at e h2 ⊢
  generalize World.onCard env' i _ s0'.world.mallocTags.2 = y at e h2 ⊢
  obtain ⟨⟨rv, numTags, tags⟩, w⟩ := x
  obtain ⟨_, w'⟩ := y
  cases e
  dsimp only at h2 ⊢
  have h3 := (h2.record (c := .getTagList i rv ((List.range numTags).map tags))).setNumTags hi
    (n := numTags)
  split
  · exact { h3.setReader (i := i) (r := .reset) with }
  · exact { h3 with }

/-- The round for reader `k` changes nothing but what concerns the tag lists. -/
lemma readReader_off {env : Env} {k} {s : ReadLoop} (hk : k < s.world.readerManager.nbReaders) :
    Alike k s.world (readReader env s k).world := by
  obtain ⟨l, hlog, hl⟩ := @readReader_log env k s
  obtain ⟨tags, hr⟩ := @readReader_round env s k hk
  exact .off hlog (fun c hc => (hl c hc).1) hr.others hr.reads.nbReaders hr.reads.mszReaders
    hr.reads.readerSetting

/-- No call is made to merge the lists. -/
lemma mergeTags_log {pTags} {w : World} : (mergeTags pTags w).log = w.log := by
  unfold mergeTags
  dsimp only
  split
  swap
  · rfl
  refine foldl_inv (I := fun s : List tTag × World => s.2.log = w.log) (fun i _ s h => ?_) rfl
  unfold mergeReader
  dsimp only
  split
  · exact h
  · exact h

/-- The other readers are asked alike for their tags. -/
lemma readTags_alike {k} {env env' : Env} (agree : env.AgreeOff k env') {w w' : World} {rv rv'}
    (h : Alike k w w') :
    callsOff k (readTags env rv w).2.log = callsOff k (readTags env' rv' w').2.log := by
  unfold readTags
  dsimp only
  rw [mergeTags_log, mergeTags_log]
  have h0 : Alike k (w.setTagList { w.readerManager.tagList with numTags := 0 })
    (w'.setTagList { w'.readerManager.tagList with numTags := 0 }) := { h with }
  generalize w.setTagList _ = v at h0 ⊢
  generalize w'.setTagList _ = v' at h0 ⊢
  rw [h0.nbReaders]
  have loop := List.foldl_rel (f := readReader env) (g := readReader env')
    (l := List.range v'.readerManager.nbReaders) (a := ⟨v, rv, fun _ => none⟩)
    (b := ⟨v', rv', fun _ => none⟩)
    (r := fun s s' => Alike k s.world s'.world ∧
      s.world.readerManager.nbReaders = v'.readerManager.nbReaders) ⟨h0, h0.nbReaders⟩
  refine (loop fun i hi s s' hs => ?_).1.calls
  have hi' : i < s.world.readerManager.nbReaders := hs.2 ▸ List.mem_range.1 hi
  obtain ⟨_, hr⟩ := @readReader_round env s i hi'
  refine ⟨?_, hr.reads.nbReaders.trans hs.2⟩
  by_cases hik : i = k
  · subst hik
    have hi'' : i < s'.world.readerManager.nbReaders := hs.1.nbReaders ▸ hi'
    exact (readReader_off hi').symm.trans (hs.1.trans (readReader_off hi''))
  · exact readReader_alike agree hik hs.1
end TagEventor
