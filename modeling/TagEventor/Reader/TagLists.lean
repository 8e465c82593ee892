import TagEventor.Reader.Polled
import TagEventor.Reader.Refinement

/-!
# The tag lists after a read

What the second half of `readersGetTagList` makes of the answers of the drivers. Each reader `i`
delivers a list `lists i` of tags (nothing if it is not read, or if reading it fails); afterwards
the list of the manager is the concatenation of these lists, and the list of every reader is the
slice of it that belongs to the reader (`readTags_collected`).
-/

namespace TagEventor
open Interact Loop

/-- A driver's poll is a round, the log of its answer, and an update of the number of tags; the tags
it answers with have no contents. -/
lemma getTagList_spec {env : Env} {d : tReaderDriver} {i} {w : World} :
    ∃ w' tags, Rounds w w' ∧ (∀ j, w'.reader j = w.reader j) ∧
      tags = (List.range tags.length).map (w.getTagList env d i).1.2 ∧
      (∀ t ∈ tags, t.contents = .empty) ∧
      (w.getTagList env d i).2 =
        (w'.record (.getTagList i (w.getTagList env d i).1.1 tags)).setReaderTagList i
          { (w.reader i).tagList with numTags := tags.length } := by
  have hr := @rounds_onCard _ env i
    (d.getTagList (env.stack w.log i) uninitialisedTags) w
  have hj : ∀ j, (w.onCard env i (d.getTagList (env.stack w.log i) uninitialisedTags)).2.reader j =
      w.reader j := fun _ => rfl
  have unread : ∀ j < (w.onCard env i (d.getTagList (env.stack w.log i) uninitialisedTags)).1.2.1,
      ((w.onCard env i (d.getTagList (env.stack w.log i) uninitialisedTags)).1.2.2 j).contents =
        .empty := by
    cases d with
    | acr122U => exact (acr122UGetTagList_ensures.run _ _).2
  unfold World.getTagList
  generalize w.onCard env i (d.getTagList (env.stack w.log i) uninitialisedTags) = x
    at hr hj unread ⊢
  obtain ⟨⟨rv, numTags, tags⟩, w'⟩ := x
  refine ⟨w', (List.range numTags).map tags, hr, hj, by simp, fun t ht => ?_, by simp [hj]⟩
  obtain ⟨j, hj, rfl⟩ := List.mem_map.1 ht
  exact unread j (List.mem_range.1 hj)

/-- What the rounds of the read loop leave alone. -/
structure Reads (w w' : World) : Prop extends Manages w w' where
  hContext : w'.readerManager.hContext = w.readerManager.hContext
  nbReaders : w'.readerManager.nbReaders = w.readerManager.nbReaders
  mszReaders : w'.readerManager.mszReaders = w.readerManager.mszReaders

/-- Nothing has happened. -/
lemma Reads.refl {w} : Reads w w :=
  { Manages.refl with hContext := rfl, nbReaders := rfl, mszReaders := rfl }

/-- One round after the other. -/
lemma Reads.trans {w w' w''} (h : Reads w w') (h' : Reads w' w'') : Reads w w'' where
  toManages := h.toManages.trans h'.toManages
  hContext := h'.hContext.trans h.hContext
  nbReaders := h'.nbReaders.trans h.nbReaders
  mszReaders := h'.mszReaders.trans h.mszReaders

/-- A round of the connection phase leaves alone what a round of the read loop does. -/
lemma Rounds.reads {w w'} (h : Rounds w w') : Reads w w' :=
  { h.toManages with
    hContext := h.hContext, nbReaders := h.nbReaders, mszReaders := h.mszReaders }

/-- The tag list of a reader is no part of the machine. -/
@[simp] lemma conn_setReaderTagList {w : World} {i l} : (w.setReaderTagList i l).conn = w.conn := by
  have h : ({ w.reader i with tagList := l } : tReader).slot = w.conn.slots i := rfl
  rw [World.setReaderTagList, conn_setReader, h]
  simp [Conn.setSlot]

/-- The reader has the new tag list. -/
@[simp] lemma reader_setReaderTagList {w : World} {i l} :
    (w.setReaderTagList i l).reader i = { w.reader i with tagList := l } := reader_setReader

/-- The other readers are as they were. -/
lemma reader_setReaderTagList_ne {w : World} {i j l} (h : j ≠ i) :
    (w.setReaderTagList i l).reader j = w.reader j := reader_setReader_ne h

/-- The total is no part of a reader. -/
@[simp] lemma reader_addNumTags {w : World} {i j} : (w.addNumTags i).reader j = w.reader j := rfl

/-- The tags of a reader are added to the total. -/
lemma tagList_addNumTags {w : World} {i} : (w.addNumTags i).readerManager.tagList =
    { w.readerManager.tagList with
      numTags := w.readerManager.tagList.numTags + (w.reader i).tagList.numTags } := rfl

/-- To free tags changes no reader. -/
@[simp] lemma reader_freeTags {w : World} {b j} : (w.freeTags b).reader j = w.reader j := rfl

/-- Changes of the tags only. -/
lemma reads_of_eq {w w' : World} (conn : w'.conn = w.conn)
    (previousTagList : w'.previousTagList = w.previousTagList)
    (dataHeap : w'.dataHeap = w.dataHeap)
    (readerSetting : w'.readerManager.readerSetting = w.readerManager.readerSetting)
    (events : w'.events = w.events)
    (hContext : w'.readerManager.hContext = w.readerManager.hContext) : Reads w w' where
  conn := conn ▸ .refl
  previousTagList := previousTagList
  dataHeap := dataHeap
  readerSetting := readerSetting
  events := ⟨[], by simp [events], by simp⟩
  hContext := hContext
  nbReaders := congrArg Conn.nbReaders conn
  mszReaders := congrArg Conn.mszReaders conn

/-- A tag list is stored in a reader. -/
lemma reads_setReaderTagList {w : World} {i l} : Reads w (w.setReaderTagList i l) :=
  reads_of_eq conn_setReaderTagList rfl rfl rfl rfl rfl

/-- The tags of a reader are counted. -/
lemma reads_addNumTags {w : World} {i} : Reads w (w.addNumTags i) :=
  reads_of_eq rfl rfl rfl rfl rfl rfl

/-- An array of tags is freed. -/
lemma reads_freeTags {w : World} {b} : Reads w (w.freeTags b) :=
  reads_of_eq rfl rfl rfl rfl rfl rfl

/-- An array of tags is allocated. -/
lemma reads_mallocTags {w : World} : Reads w w.mallocTags.2 :=
  reads_of_eq rfl rfl rfl rfl rfl rfl

/-- A call that the machine only logs. -/
lemma reads_record {w : World} {c} (legal : w.conn.Legal c)
    (conn : w.conn.next c = w.conn.record c) : Reads w (w.record c) where
  conn := .step legal conn.symm
  previousTagList := rfl
  dataHeap := rfl
  readerSetting := rfl
  events := ⟨[], by simp [World.record], by simp⟩
  hContext := rfl
  nbReaders := rfl
  mszReaders := rfl

/-- The entries of a temporary array that was filled with `tags`; `NULL` stands for no tags. -/
def Holds (a : Option TempArray) (tags : List tTag) : Prop :=
  match a with
  | none => tags = []
  | some a => tags = (List.range tags.length).map a.tags

/-- A round of the read loop for reader `i`, which delivers `tags`. -/
structure ReadRound (s s' : ReadLoop) (i : Nat) (tags : List tTag) : Prop where
  reads : Reads s.world s'.world
  others : ∀ j, j ≠ i → s'.world.reader j = s.world.reader j
  numTags : (s'.world.reader i).tagList.numTags = tags.length
  total : s'.world.readerManager.tagList =
    { s.world.readerManager.tagList with
      numTags := s.world.readerManager.tagList.numTags + tags.length }
  answered : answered s'.world.log = answered s.world.log ++ tags
  unread : ∀ t ∈ tags, t.contents = .empty
  pTags : Holds (s'.pTags i) tags
  pTagsOthers : ∀ j, j ≠ i → s'.pTags j = s.pTags j

/-- What comes first in a round delivers no tags. -/
lemma ReadRound.after {s s' s'' : ReadLoop} {i tags} (h : ReadRound s s' i [])
    (h' : ReadRound s' s'' i tags) : ReadRound s s'' i tags where
  reads := h.reads.trans h'.reads
  others := fun j hj => (h'.others j hj).trans (h.others j hj)
  numTags := h'.numTags
  total := by rw [h'.total, h.total]; simp
  answered := by rw [h'.answered, h.answered, List.append_nil]
  unread := h'.unread
  pTags := h'.pTags
  pTagsOthers := fun j hj => (h'.pTagsOthers j hj).trans (h.pTagsOthers j hj)

/-- A reader that is not read delivers nothing. -/
lemma clear_round {s : ReadLoop} {i} : ReadRound s (s.clear i) i [] where
  reads := reads_setReaderTagList
  others := fun j hj => reader_setReader_ne hj
  numTags := by simp [ReadLoop.clear, World.setReaderTagList]
  total := rfl
  answered := by simp [ReadLoop.clear, World.setReaderTagList, World.setReader]
  unread := nofun
  pTags := by simp [ReadLoop.clear, Holds]
  pTagsOthers := fun j hj => by simp [ReadLoop.clear, hj]

/-- A reader that is read delivers what its driver answers, nothing if the answer is an error. -/
lemma readList_round {env : Env} {s : ReadLoop} {i driver}
    (hi : i < s.world.readerManager.nbReaders) (hc : (s.world.reader i).hCard ≠ none)
    (hd : (s.world.reader i).pDriver ≠ none) (hn : s.pTags i = none) :
    ∃ tags, ReadRound s (s.readList env driver i) i tags := by
  obtain ⟨w', tags, hr, hj, hmap, unread, e⟩ := @getTagList_spec env driver i
    s.world.mallocTags.2
  unfold ReadLoop.readList
  dsimp only
  generalize World.getTagList env driver i s.world.mallocTags.2 = x at hmap e ⊢
  obtain ⟨⟨rv, ts⟩, w2⟩ := x
  dsimp only at hmap e ⊢
  subst e
  have legal : w'.conn.Legal (.getTagList i rv tags) := by
    refine ⟨?_, ?_, ?_⟩
    · show i < w'.readerManager.nbReaders
      rw [hr.nbReaders]; exact hi
    · show (w'.reader i).hCard ≠ none
      rw [hj]; exact hc
    · show (w'.reader i).pDriver ≠ none
      rw [hj]; exact hd
  have h := reads_mallocTags.trans hr.reads
  have total : w'.readerManager.tagList = s.world.readerManager.tagList := hr.tagList
  have answers : answered w'.log = answered s.world.log := hr.answered
  split
  next hrv =>
    have e : ((w'.record (.getTagList i rv tags)).setReaderTagList i
          { (s.world.mallocTags.2.reader i).tagList with numTags := tags.length }).RESET_READER i =
        (w'.record (.getTagList i rv tags)).setReader i .reset := by
      simp [World.RESET_READER, World.setReaderTagList]
    rw [e]
    have h' := rounds_setReader (w := w') (c := .getTagList i rv tags) (i := i) (r := .reset) legal
      (by simp [Conn.next, hrv]) (.inr rfl) (by simp [polled, Call.answers, hrv])
    refine
      ⟨[],
        { reads := (h.trans h'.reads).trans (reads_freeTags.trans reads_addNumTags)
          others := fun j hji => ?_
          numTags := by simp [tReader.reset, tTagList.empty]
          total := ?_
          answered := ?_
          unread := by simp
          pTags := by simp [Holds, hn]
          pTagsOthers := fun _ _ => rfl }⟩
    · rw [reader_addNumTags, reader_freeTags, reader_setReader_ne hji]
      exact hj j
    · rw [tagList_addNumTags, reader_freeTags, reader_setReader, ← total]
      rfl
    · rw [← answers, List.append_nil]
      exact h'.answered
  next hrv =>
    refine
      ⟨tags,
        { reads := (h.trans ((reads_record legal ?_).trans reads_setReaderTagList)).trans
            reads_addNumTags
          others := fun j hji => ?_
          numTags := by simp
          total := ?_
          answered := ?_
          unread := unread
          pTags := ?_
          pTagsOthers := fun j hj => by simp [hj] }⟩
    · simp [Conn.next, hrv]
    · rw [reader_addNumTags, reader_setReaderTagList_ne hji]
      exact hj j
    · rw [tagList_addNumTags, reader_setReaderTagList, ← total]
      rfl
    · rw [← answers]
      show answered (w'.log ++ _) = _
      simp [answered, hrv]
    · simpa [Holds] using hmap

/-- Each round of the read loop delivers the tags the driver answered with, if any. -/
lemma readReader_round {env : Env} {s : ReadLoop} {i} (hi : i < s.world.readerManager.nbReaders) :
    ∃ tags, ReadRound s (readReader env s i) i tags := by
  have h := clear_round (s := s) (i := i)
  have hn : (s.clear i).pTags i = none := by simp [ReadLoop.clear]
  unfold readReader
  dsimp only
  generalize s.clear i = s0 at h hn ⊢
  split
  next _ _ _ _ driver hc hd _ =>
    obtain ⟨tags, h'⟩ := @readList_round env s0 i driver (h.reads.nbReaders ▸ hi)
      (by rw [hc]; simp) (by rw [hd]; simp) hn
    exact ⟨tags, h.after h'⟩
  · exact ⟨[], h⟩

/-- The state of the read loop after `n` rounds, in which reader `i` delivered `lists i`. -/
structure ReadSoFar (w : World) (lists : Nat → List tTag) (n : Nat) (s : ReadLoop) : Prop where
  reads : Reads w s.world
  numTags : ∀ i < n, (s.world.reader i).tagList.numTags = (lists i).length
  total : s.world.readerManager.tagList.numTags = ((List.range n).flatMap lists).length
  answered : answered s.world.log = answered w.log ++ (List.range n).flatMap lists
  unread : ∀ t ∈ (List.range n).flatMap lists, t.contents = .empty
  pTags : ∀ i < n, Holds (s.pTags i) (lists i)

/-- One more reader is read. -/
lemma flatMap_range_succ {α} {f : Nat → List α} {n} :
    (List.range (n + 1)).flatMap f = (List.range n).flatMap f ++ f n := by
  simp [List.range_succ]

/-- The lists of the first `n` readers do not depend on the others. -/
lemma flatMap_range_update {α} {f : Nat → List α} {n l} :
    (List.range n).flatMap (Function.update f n l) = (List.range n).flatMap f :=
  List.flatMap_congr fun i hi => by
    rw [Function.update_of_ne (Nat.ne_of_lt (List.mem_range.1 hi))]

/-- The next round adds the list of its reader. -/
lemma ReadSoFar.round {w : World} {lists n s s' tags} (h : ReadSoFar w lists n s)
    (r : ReadRound s s' n tags) : ReadSoFar w (Function.update lists n tags) (n + 1) s' := by
  refine ⟨h.reads.trans r.reads, fun i hi => ?_, ?_, ?_, fun t ht => ?_, fun i hi => ?_⟩
  · rcases Nat.lt_succ_iff_lt_or_eq.1 hi with hi | rfl
    · rw [r.others i (Nat.ne_of_lt hi), Function.update_of_ne (Nat.ne_of_lt hi)]
      exact h.numTags i hi
    · simpa using r.numTags
  · simp [flatMap_range_succ, flatMap_range_update, r.total, h.total]
  · simp [flatMap_range_succ, flatMap_range_update, r.answered, h.answered]
  · rw [flatMap_range_succ, flatMap_range_update, Function.update_self] at ht
    exact (List.mem_append.1 ht).elim (h.unread t) (r.unread t)
  · rcases Nat.lt_succ_iff_lt_or_eq.1 hi with hi | rfl
    · rw [r.pTagsOthers i (Nat.ne_of_lt hi), Function.update_of_ne (Nat.ne_of_lt hi)]
      exact h.pTags i hi
    · simpa using r.pTags

/-- The read loop collects the answers of the drivers. -/
lemma readLoop_readSoFar {env : Env} {w : World} {rv}
    (h0 : w.readerManager.tagList.numTags = 0) :
    ∃ lists, ReadSoFar w lists w.readerManager.nbReaders
      ((List.range w.readerManager.nbReaders).foldl (readReader env) ⟨w, rv, fun _ => none⟩) := by
  refine foldl_range (I := fun n s => ∃ lists, ReadSoFar w lists n s) ⟨fun _ => [], ?_⟩ ?_
  · exact ⟨.refl, nofun, by simp [h0], by simp, nofun, nofun⟩
  rintro n hn s ⟨lists, h⟩
  obtain ⟨tags, r⟩ := @readReader_round env s n (h.reads.nbReaders ▸ hn)
  exact ⟨_, h.round r⟩

/-- The state of the merge loop after `n` rounds. -/
structure MergedSoFar (w : World) (lists : Nat → List tTag) (block n : Nat)
    (s : List tTag × World) : Prop where
  reads : Reads w s.2
  log : s.2.log = w.log
  tagList : s.2.readerManager.tagList = w.readerManager.tagList
  tags : s.1 = (List.range n).flatMap lists
  numTags : ∀ i, (s.2.reader i).tagList.numTags = (w.reader i).tagList.numTags
  slices : ∀ i < n,
    (s.2.reader i).tagList.pTags = some ⟨block, ((List.range i).flatMap lists).length⟩

/-- A round of the merge loop: the slice of the reader starts where the array ends so far. -/
lemma mergeReader_merged {w : World} {lists : Nat → List tTag} {block n pTags s}
    (numTags : (w.reader n).tagList.numTags = (lists n).length) (holds : Holds (pTags n) (lists n))
    (h : MergedSoFar w lists block n s) :
    MergedSoFar w lists block (n + 1) (mergeReader block pTags s n) := by
  have numTags' : ∀ w' : World, (w'.reader n).tagList.numTags = (s.2.reader n).tagList.numTags →
      (w'.reader n).tagList.numTags = (lists n).length :=
    fun w' e => e.trans ((h.numTags n).trans numTags)
  unfold mergeReader
  dsimp only
  generalize hw : s.2.setReaderTagList n
    { (s.2.reader n).tagList with pTags := some ⟨block, s.1.length⟩ } = w1
  have reads : Reads w w1 := hw ▸ h.reads.trans reads_setReaderTagList
  have log : w1.log = w.log := hw ▸ h.log
  have tagList : w1.readerManager.tagList = w.readerManager.tagList := hw ▸ h.tagList
  have nums : ∀ i, (w1.reader i).tagList.numTags = (w.reader i).tagList.numTags := fun i => by
    rw [← hw, ← h.numTags i]
    by_cases hi : i = n
    · subst hi; simp
    · rw [reader_setReaderTagList_ne hi]
  have slices : ∀ i < n + 1,
      (w1.reader i).tagList.pTags = some ⟨block, ((List.range i).flatMap lists).length⟩ :=
    fun i hi => by
      rw [← hw]
      rcases Nat.lt_succ_iff_lt_or_eq.1 hi with hi | rfl
      · rw [reader_setReaderTagList_ne (Nat.ne_of_lt hi)]
        exact h.slices i hi
      · simp [h.tags]
  split
  next hp =>
    have e : lists n = [] := by simpa [hp, Holds] using holds
    exact ⟨reads, log, tagList, by rw [flatMap_range_succ, e, List.append_nil]; exact h.tags, nums,
      slices⟩
  next a hp =>
    have e : lists n = (List.range (lists n).length).map a.tags := by simpa [hp, Holds] using holds
    refine ⟨reads.trans reads_freeTags, log, tagList, ?_, nums, slices⟩
    rw [flatMap_range_succ, nums, numTags, ← e, h.tags]

/-- The lists of `w'` hold exactly what the drivers answered since `w`, reader by reader. -/
structure Collected (w w' : World) (lists : Nat → List tTag) : Prop where
  reads : Reads w w'
  entries : w'.readerManager.tagList.entries = (List.range w.readerManager.nbReaders).flatMap lists
  numTags : w'.readerManager.tagList.numTags =
    ((List.range w.readerManager.nbReaders).flatMap lists).length
  readers : ∀ i < w.readerManager.nbReaders, (w'.reader i).tagList.numTags = (lists i).length
  slices : ∀ i < w.readerManager.nbReaders, lists i ≠ [] → ∃ a,
    w'.readerManager.tagList.pTags = some a ∧
      (w'.reader i).tagList.pTags = some ⟨a.block, ((List.range i).flatMap lists).length⟩
  answered : answered w'.log =
    answered w.log ++ (List.range w.readerManager.nbReaders).flatMap lists
  unread : ∀ t ∈ (List.range w.readerManager.nbReaders).flatMap lists, t.contents = .empty

/-- Mashing the lists up into one: the arrays of the readers are copied in their order. -/
lemma mergeTags_collected {w0 w : World} {lists pTags} (reads : Reads w0 w)
    (numTags : ∀ i < w0.readerManager.nbReaders, (w.reader i).tagList.numTags = (lists i).length)
    (total : w.readerManager.tagList.numTags =
      ((List.range w0.readerManager.nbReaders).flatMap lists).length)
    (holds : ∀ i < w0.readerManager.nbReaders, Holds (pTags i) (lists i))
    (answers : answered w.log =
      answered w0.log ++ (List.range w0.readerManager.nbReaders).flatMap lists)
    (unread : ∀ t ∈ (List.range w0.readerManager.nbReaders).flatMap lists, t.contents = .empty) :
    Collected w0 (mergeTags pTags w) lists := by
  unfold mergeTags
  dsimp only
  generalize hw : w.setTagList { w.readerManager.tagList with pTags := none } = w1
  have h1 : Reads w0 w1 := reads.trans (hw ▸ reads_of_eq rfl rfl rfl rfl rfl rfl)
  have total1 : w1.readerManager.tagList.numTags = w.readerManager.tagList.numTags := hw ▸ rfl
  have log1 : w1.log = w.log := hw ▸ rfl
  rw [← log1] at answers
  have nums1 : ∀ i, (w1.reader i).tagList.numTags = (w.reader i).tagList.numTags :=
    hw ▸ fun _ => rfl
  have pTags1 : w1.readerManager.tagList.pTags = none := hw ▸ rfl
  rw [total] at total1
  split
  next =>
    have merged : MergedSoFar w1 lists w1.mallocTags.1 w0.readerManager.nbReaders
        ((List.range w0.readerManager.nbReaders).foldl (mergeReader w1.mallocTags.1 pTags)
          ([], w1.mallocTags.2)) := by
      refine foldl_range ⟨reads_mallocTags, rfl, rfl, rfl, fun _ => rfl, nofun⟩ fun i hi s h => ?_
      exact mergeReader_merged ((nums1 i).trans (numTags i hi)) (holds i hi) h
    have nb : w1.mallocTags.2.readerManager.nbReaders = w0.readerManager.nbReaders := h1.nbReaders
    rw [nb]
    generalize List.foldl (mergeReader w1.mallocTags.1 pTags) _ _ = s at merged ⊢
    have total2 := (congrArg tTagList.numTags merged.tagList).trans total1
    exact
      { reads := (h1.trans merged.reads).trans (reads_of_eq rfl rfl rfl rfl rfl rfl)
        entries := by
          show s.1.take s.2.readerManager.tagList.numTags = _
          rw [total2, merged.tags, List.take_length]
        numTags := total2
        readers := fun i hi => ((merged.numTags i).trans (nums1 i)).trans (numTags i hi)
        slices := fun i hi _ => ⟨_, rfl, merged.slices i hi⟩
        answered := by
          show answered s.2.log = _
          rw [merged.log, answers]
        unread := unread }
  next hzero =>
    have e : (List.range w0.readerManager.nbReaders).flatMap lists = [] := by
      rw [total1] at hzero
      exact List.length_eq_zero_iff.1 (Nat.eq_zero_of_not_pos hzero)
    refine
      { reads := h1
        entries := by simp [tTagList.entries, pTags1, e]
        numTags := total1
        readers := fun i hi => (nums1 i).trans (numTags i hi)
        slices := fun i hi hne => ?_
        answered := answers
        unread := unread }
    exact absurd (List.flatMap_eq_nil_iff.1 e i (List.mem_range.2 hi)) hne

/-- The second half of `readersGetTagList` collects the answers of the drivers. -/
theorem readTags_collected {env : Env} {w : World} {rv} :
    ∃ lists, Collected w (readTags env rv w).2 lists := by
  unfold readTags
  dsimp only
  generalize hw : w.setTagList { w.readerManager.tagList with numTags := 0 } = w0
  have h0 : Reads w w0 := hw ▸ reads_of_eq rfl rfl rfl rfl rfl rfl
  have l0 : w0.log = w.log := hw ▸ rfl
  obtain ⟨lists, h⟩ := @readLoop_readSoFar env w0 rv (hw ▸ rfl)
  generalize List.foldl (readReader env) _ _ = s at h ⊢
  obtain ⟨reads, numTags, total, answers, unread, holds⟩ := h
  rw [h0.nbReaders] at numTags total answers unread holds
  exact ⟨lists, mergeTags_collected (h0.trans reads) numTags total holds (l0 ▸ answers) unread⟩

end TagEventor
