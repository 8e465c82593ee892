import Mathlib.Algebra.GroupWithZero.Nat
import TagEventor.Reader.Faulty

/-!
# Merging the lists of the readers

`readersGetTagList` polls the readers one after the other and merges their lists. The answers of
the drivers in a call (`driverAnswers`) determine the result: the merged list, the slice of every
reader (`merged_lists`), and the code, which is that of the reader polled last
(`readersGetTagList_code`). An error of a reader before it is lost (`errors_reported_iff`).
-/

namespace TagEventor
open Loop

/-- The answers of the drivers to polls: the reader, the code and the tags. -/
def driverAnswers (calls : List Call) : List (Nat × LONG × List tTag) :=
  calls.filterMap fun
    | .getTagList i rv tags => some (i, rv, tags)
    | _ => none

/-- The list of reader `i`: what its driver answered, nothing if it was not polled or failed. -/
def ownList (answers : List (Nat × LONG × List tTag)) (i : Nat) : List tTag :=
  match answers.find? fun p => p.1 = i with
  | some (_, rv, tags) => if rv = SCARD_S_SUCCESS then tags else []
  | none => []

/-- Reader `i` is connected, has a driver and is to be read. -/
def World.polls (w : World) (i : Nat) : Bool :=
  (w.reader i).hCard ≠ none ∧ (w.reader i).pDriver ≠ none ∧ w.readerManager.wanted i = true

/-- The answers among some calls are those among their parts. -/
@[simp] lemma driverAnswers_append {l l' : List Call} :
    driverAnswers (l ++ l') = driverAnswers l ++ driverAnswers l' := List.filterMap_append

/-- Exchanges with a card are no answers of a driver. -/
lemma driverAnswers_onCard {i} {l : List Call} (h : ∀ c ∈ l, OnCard i c) :
    driverAnswers l = [] := by
  refine List.filterMap_eq_nil_iff.2 fun c hc => ?_
  have on := h c hc
  cases c with
  | getTagList => cases on
  | _ => rfl

/-- What the drivers delivered, answer by answer. -/
lemma answered_driverAnswers {l : List Call} : answered l =
    (driverAnswers l).flatMap fun p => if p.2.1 = SCARD_S_SUCCESS then p.2.2 else [] := by
  induction l with
  | nil => rfl
  | cons c l ih =>
    have e : answered (c :: l) = answered [c] ++ answered l := by simp [answered]
    rw [e, ih]
    cases c <;> simp [answered, driverAnswers]

/-- A round of the read loop polls its reader or does nothing. -/
lemma readReader_answers {env : Env} {i} {s : ReadLoop} :
    ∃ l, (readReader env s i).world.log = s.world.log ++ l ∧
      ((s.world.polls i = false ∧ l = [] ∧ (readReader env s i).rv = s.rv) ∨
        s.world.polls i = true ∧
          ∃ tags, driverAnswers l = [(i, (readReader env s i).rv, tags)]) := by
  have hCard : ((s.clear i).world.reader i).hCard = (s.world.reader i).hCard := by
    simp [ReadLoop.clear]
  have pDriver : ((s.clear i).world.reader i).pDriver = (s.world.reader i).pDriver := by
    simp [ReadLoop.clear]
  have wanted : (s.clear i).world.readerManager.wanted i = s.world.readerManager.wanted i := rfl
  unfold readReader
  dsimp only
  rw [hCard, pDriver, wanted]
  split
  next h driver hc hd hw =>
    have polls : s.world.polls i = true := by simp [World.polls, hc, hd, hw]
    unfold ReadLoop.readList World.getTagList
    dsimp only
    obtain ⟨l, hlog, hl⟩ := @onCard_log _ env i
      (driver.getTagList (env.stack (s.clear i).world.mallocTags.2.log i) uninitialisedTags)
      (s.clear i).world.mallocTags.2
    generalize World.onCard env i _ (s.clear i).world.mallocTags.2 = x at hlog ⊢
    obtain ⟨⟨rv, numTags, tags⟩, w⟩ := x
    have hlog : w.log = s.world.log ++ l := hlog
    refine ⟨l ++ [.getTagList i rv ((List.range numTags).map tags)], ?_,
      .inr ⟨polls, (List.range numTags).map tags, ?_⟩⟩
    · rw [← List.append_assoc, ← hlog]
      dsimp only
      split <;> rfl
    · rw [driverAnswers_append, driverAnswers_onCard hl]
      dsimp only
      split <;> rfl
  next h =>
    refine ⟨[], (List.append_nil _).symm, .inl ⟨?_, rfl, rfl⟩⟩
    rw [World.polls, decide_eq_false_iff_not]
    rintro ⟨hc, hd, hw⟩
    obtain ⟨c, hc⟩ := Option.ne_none_iff_exists'.1 hc
    obtain ⟨driver, hd⟩ := Option.ne_none_iff_exists'.1 hd
    exact h c driver hc hd hw

/-- A reader that comes later does not change the lists of those before. -/
lemma ownList_append_of_lt {answers answers' : List (Nat × LONG × List tTag)} {i}
    (later : ∀ p ∈ answers', i < p.1) : ownList (answers ++ answers') i = ownList answers i := by
  have none : answers'.find? (fun p => decide (p.1 = i)) = none := by
    refine List.find?_eq_none.2 fun p hp => ?_
    simpa using Nat.ne_of_gt (later p hp)
  rw [ownList, ownList, List.find?_append, none, Option.or_none]

/-- The list of the reader that comes last. -/
lemma ownList_append_self {answers answers' : List (Nat × LONG × List tTag)} {n}
    (before : ∀ p ∈ answers, p.1 < n) : ownList (answers ++ answers') n = ownList answers' n := by
  have none : answers.find? (fun p => decide (p.1 = n)) = none := by
    refine List.find?_eq_none.2 fun p hp => ?_
    simpa using Nat.ne_of_lt (before p hp)
  rw [ownList, ownList, List.find?_append, none, Option.none_or]

/-- The state of the read loop after `n` rounds, by the calls `l` made in them. -/
structure ReadAnswers (w : World) (rv : LONG) (l : List Call) (n : Nat) (s : ReadLoop) : Prop where
  log : s.world.log = w.log ++ l
  readers : (driverAnswers l).map Prod.fst = (List.range n).filter w.polls
  code : s.rv = ((driverAnswers l).map fun p => p.2.1).getLastD rv
  others : ∀ i ≥ n, s.world.reader i = w.reader i
  readSoFar : ReadSoFar w (ownList (driverAnswers l)) n s

/-- Only readers of the rounds that were made have answered. -/
lemma ReadAnswers.lt {w rv l n s} (h : ReadAnswers w rv l n s) :
    ∀ p ∈ driverAnswers l, p.1 < n := by
  intro p hp
  have hm : p.1 ∈ (List.range n).filter w.polls := h.readers ▸ List.mem_map_of_mem hp
  exact List.mem_range.1 (List.mem_filter.1 hm).1

/-- Only the lists of the readers that were read matter. -/
lemma ReadSoFar.congr {w lists lists' n s} (h : ReadSoFar w lists n s)
    (e : ∀ i < n, lists i = lists' i) : ReadSoFar w lists' n s := by
  have flat : (List.range n).flatMap lists' = (List.range n).flatMap lists :=
    List.flatMap_congr fun i hi => (e i (List.mem_range.1 hi)).symm
  exact ⟨h.reads, fun i hi => by rw [← e i hi]; exact h.numTags i hi, by rw [flat]; exact h.total,
    by rw [flat]; exact h.answered, by rw [flat]; exact h.unread,
    fun i hi => by rw [← e i hi]; exact h.pTags i hi⟩

/-- The round of a reader that is polled, or passed over. -/
lemma ReadAnswers.round {env : Env} {w rv l n s} (h : ReadAnswers w rv l n s)
    (hn : n < w.readerManager.nbReaders) :
    ∃ l', ReadAnswers w rv (l ++ l') (n + 1) (readReader env s n) := by
  obtain ⟨tags, r⟩ := @readReader_round env s n (h.readSoFar.reads.nbReaders ▸ hn)
  obtain ⟨l', hlog, hl'⟩ := @readReader_answers env n s
  have polls : s.world.polls n = w.polls n := by
    unfold World.polls
    rw [h.others n (Nat.le_refl n), wanted_congr h.readSoFar.reads.readerSetting]
  -- the answers of this round are those of reader `n`
  have self : ∀ p ∈ driverAnswers l', p.1 = n := by
    rcases hl' with ⟨_, rfl, _⟩ | ⟨_, tags, e⟩
    · exact nofun
    · rw [e]
      simp
  have list : ownList (driverAnswers l') n = tags := by
    have answers := r.answered
    rw [hlog, answered_append, List.append_cancel_left_eq, answered_driverAnswers] at answers
    rw [← answers]
    rcases hl' with ⟨_, rfl, _⟩ | ⟨_, tags, e⟩
    · rfl
    · rw [e]
      simp [ownList]
  refine ⟨l', ?_⟩
  exact
    { log := by rw [hlog, h.log, List.append_assoc]
      readers := by
        rw [driverAnswers_append, List.map_append, h.readers, List.range_succ, List.filter_append]
        rcases hl' with ⟨passed, rfl, _⟩ | ⟨asked, tags, e⟩
        · rw [polls] at passed
          simp [driverAnswers, passed]
        · rw [polls] at asked
          simp [e, asked]
      code := by
        rw [driverAnswers_append, List.map_append]
        rcases hl' with ⟨_, rfl, same⟩ | ⟨_, tags, e⟩
        · rw [same, h.code]
          simp [driverAnswers]
        · rw [e]
          exact List.getLastD_concat.symm
      others := fun i hi =>
        (r.others i (Nat.ne_of_gt hi)).trans (h.others i (Nat.le_of_succ_le hi))
      readSoFar := by
        refine (h.readSoFar.round r).congr fun i hi => ?_
        rw [driverAnswers_append]
        rcases Nat.lt_succ_iff_lt_or_eq.1 hi with hi | rfl
        · rw [Function.update_of_ne (Nat.ne_of_lt hi), ownList_append_of_lt]
          exact fun p hp => self p hp ▸ hi
        · rw [Function.update_self, ownList_append_self h.lt, list] }

/-- The read loop collects the lists of the readers it polls. -/
lemma readLoop_answers {env : Env} {w : World} {rv} (h0 : w.readerManager.tagList.numTags = 0) :
    ∃ l, ReadAnswers w rv l w.readerManager.nbReaders
      ((List.range w.readerManager.nbReaders).foldl (readReader env) ⟨w, rv, fun _ => none⟩) := by
  refine foldl_range (I := fun n s => ∃ l, ReadAnswers w rv l n s) ⟨[], ?_⟩ ?_
  · refine ⟨by simp, rfl, rfl, fun _ _ => rfl, ?_⟩
    exact ⟨.refl, nofun, by simp [h0], by simp, nofun, nofun⟩
  · rintro n hn s ⟨l, h⟩
    obtain ⟨l', h'⟩ := @ReadAnswers.round env _ _ _ _ _ h hn
    exact ⟨_, h'⟩

/-- Mashing the lists up into one points the list of every reader at its part. -/
lemma mergeTags_slots {w0 w : World} {lists pTags} (reads : Reads w0 w)
    (numTags : ∀ i < w0.readerManager.nbReaders, (w.reader i).tagList.numTags = (lists i).length)
    (holds : ∀ i < w0.readerManager.nbReaders, Holds (pTags i) (lists i))
    (pos : 0 < w.readerManager.tagList.numTags) :
    ∃ a, (mergeTags pTags w).readerManager.tagList.pTags = some a ∧
      a.tags = (List.range w0.readerManager.nbReaders).flatMap lists ∧
      ∀ i < w0.readerManager.nbReaders, ((mergeTags pTags w).reader i).tagList.pTags =
        some ⟨a.block, ((List.range i).flatMap lists).length⟩ := by
  unfold mergeTags
  dsimp only
  generalize hw : w.setTagList { w.readerManager.tagList with pTags := none } = w1
  have total : w1.readerManager.tagList.numTags = w.readerManager.tagList.numTags := hw ▸ rfl
  have nums : ∀ i, (w1.reader i).tagList.numTags = (w.reader i).tagList.numTags :=
    hw ▸ fun _ => rfl
  have nb : w1.mallocTags.2.readerManager.nbReaders = w0.readerManager.nbReaders :=
    hw ▸ reads.nbReaders
  rw [if_pos (total ▸ pos), nb]
  have merged : MergedSoFar w1 lists w1.mallocTags.1 w0.readerManager.nbReaders
      ((List.range w0.readerManager.nbReaders).foldl (mergeReader w1.mallocTags.1 pTags)
        ([], w1.mallocTags.2)) := by
    refine foldl_range ⟨reads_mallocTags, rfl, rfl, rfl, fun _ => rfl, nofun⟩ fun i hi s h => ?_
    exact mergeReader_merged ((nums i).trans (numTags i hi)) (holds i hi) h
  exact ⟨_, rfl, merged.tags, merged.slices⟩

/-- If no tags were found there is no array. -/
lemma mergeTags_none {pTags} {w : World} (zero : w.readerManager.tagList.numTags = 0) :
    (mergeTags pTags w).readerManager.tagList.pTags = none := by
  unfold mergeTags
  dsimp only
  rw [if_neg]
  · rfl
  · exact Nat.not_lt.2 (Nat.le_of_eq zero)

/-- What a call of `readersGetTagList` leaves, by the answers of the drivers: they are asked in
the order of the readers, each reader once that can be read. -/
structure Merged (w w' : World) (answers : List (Nat × LONG × List tTag)) : Prop where
  readers : answers.map Prod.fst = (List.range w.readerManager.nbReaders).filter w.polls
  nbReaders : w'.readerManager.nbReaders = w.readerManager.nbReaders
  tags : (w'.readerManager.tagList.pTags.map TagArray.tags).getD [] =
    (List.range w.readerManager.nbReaders).flatMap (ownList answers)
  numTags : w'.readerManager.tagList.numTags =
    ((List.range w.readerManager.nbReaders).flatMap (ownList answers)).length
  own : ∀ i < w.readerManager.nbReaders,
    (w'.reader i).tagList.numTags = (ownList answers i).length
  slots : 0 < w'.readerManager.tagList.numTags → ∃ a, w'.readerManager.tagList.pTags = some a ∧
    ∀ i < w.readerManager.nbReaders, (w'.reader i).tagList.pTags =
      some ⟨a.block, ((List.range i).map fun j => (ownList answers j).length).sum⟩

/-- Mashing up what the read loop has collected. -/
lemma ReadAnswers.merged {w rv l s} (h : ReadAnswers w rv l w.readerManager.nbReaders s) :
    Merged w (mergeTags s.pTags s.world) (driverAnswers l) := by
  have collected := mergeTags_collected h.readSoFar.reads h.readSoFar.numTags h.readSoFar.total
    h.readSoFar.pTags h.readSoFar.answered h.readSoFar.unread
  have total : (mergeTags s.pTags s.world).readerManager.tagList.numTags =
      s.world.readerManager.tagList.numTags := collected.numTags.trans h.readSoFar.total.symm
  have slots := fun pos => mergeTags_slots h.readSoFar.reads h.readSoFar.numTags h.readSoFar.pTags
    (w := s.world) pos
  refine ⟨h.readers, collected.reads.nbReaders, ?_, collected.numTags, collected.readers, ?_⟩
  · rcases Nat.eq_zero_or_pos s.world.readerManager.tagList.numTags with zero | pos
    · have nothing := zero.symm.trans h.readSoFar.total
      rw [mergeTags_none zero, List.length_eq_zero_iff.1 nothing.symm]
      rfl
    · obtain ⟨a, array, tags, _⟩ := slots pos
      rw [array]
      exact tags
  · intro pos
    obtain ⟨a, array, _, starts⟩ := slots (total ▸ pos)
    refine ⟨a, array, fun i hi => ?_⟩
    rw [starts i hi, List.length_flatMap]

/-- Any other call leaves the answers as they are. -/
lemma driverAnswers_concat {l : List Call} {c} (other : driverAnswers [c] = []) :
    driverAnswers (l ++ [c]) = driverAnswers l := by
  rw [driverAnswers_append, other, List.append_nil]

/-- No driver is asked for tags while the readers are listed. -/
lemma readersEnumerate_answers {env : Env} {w : World} :
    driverAnswers (readersEnumerate env w).2.log = driverAnswers w.log := by
  obtain ⟨l, hlog, hl⟩ := @readersEnumerate_log env w
  rw [hlog, driverAnswers_append, List.append_right_eq_self]
  refine List.filterMap_eq_nil_iff.2 fun c hc => ?_
  obtain ⟨buffer, rv, names, rfl⟩ := hl c hc
  rfl

/-- No driver is asked for tags by a check. -/
lemma Checks.driverAnswers_eq {env : Env} {i} {w w' : World} {r} (h : Checks env i w w' r) :
    driverAnswers w'.log = driverAnswers w.log := by
  obtain ⟨hCard, l, _, hl, hlog⟩ := h.log
  rw [hlog, List.append_cons, driverAnswers_append, driverAnswers_onCard hl, List.append_nil]
  exact driverAnswers_concat rfl

/-- No driver is asked for tags while a reader is connected. -/
lemma connectReader_answers {env : Env} {i} {w : World} :
    driverAnswers (connectReader env i w).2.log = driverAnswers w.log := by
  have outcome := @connectReader_outcome env i w
  generalize connectReader env i w = x at outcome ⊢
  cases outcome with
  | skipped => rfl
  | unconnected => exact driverAnswers_concat rfl
  | failed checks => exact (driverAnswers_concat rfl).trans checks.driverAnswers_eq
  | unsupported checks => exact (driverAnswers_concat rfl).trans checks.driverAnswers_eq
  | accepted checks => exact (driverAnswers_concat rfl).trans checks.driverAnswers_eq

/-- No driver is asked for tags in the connection phase. -/
lemma connectIfAutomatic_answers {env : Env} {w : World} :
    driverAnswers (connectIfAutomatic env w).2.log = driverAnswers w.log := by
  unfold connectIfAutomatic
  split
  next auto =>
    have start : driverAnswers (enumerateIfAutomatic env w).2.log = driverAnswers w.log := by
      rw [enumerateIfAutomatic, if_pos auto]
      exact readersEnumerate_answers
    have rounds := @scan_inv _ _ _ (fun t : World => driverAnswers t.log = driverAnswers w.log)
      (connectReader env) (List.range (enumerateIfAutomatic env w).2.readerManager.nbReaders)
      (enumerateIfAutomatic env w).2 (fun i _ t ht => connectReader_answers.trans ht) start
    have outcome := @readersConnect_outcome env w
    generalize readersConnect env w = x at outcome ⊢
    cases outcome with
    | failed => exact start
    | noReaders => exact start
    | looped _ _ loop =>
      rw [loop] at rounds
      exact rounds
  · rfl

/-- A call that gets past the connection phase: the drivers answer in the read loop. -/
lemma readersGetTagList_reads {env : Env} {w : World} (context : w.readerManager.hContext ≠ none)
    (success : (connectIfAutomatic env w).1 = SCARD_S_SUCCESS) :
    Merged (connectIfAutomatic env w).2 (readersGetTagList env w).2
        (driverAnswers (readCalls env w)) ∧
      (readersGetTagList env w).1 =
        ((driverAnswers (readCalls env w)).map fun p => p.2.1).getLastD SCARD_S_SUCCESS := by
  obtain ⟨hrv, _⟩ | ⟨_, e⟩ := @readersGetTagList_cases env _ context
  · exact absurd success hrv
  have hlog := @readCalls_log env w
  have phase := @connectIfAutomatic_answers env w
  rw [e] at hlog ⊢
  rw [success] at hlog ⊢
  generalize (connectIfAutomatic env w).2 = w1 at hlog phase ⊢
  unfold readTags at hlog ⊢
  dsimp only at hlog ⊢
  obtain ⟨l, h⟩ := @readLoop_answers env
    (w1.setTagList { w1.readerManager.tagList with numTags := 0 }) SCARD_S_SUCCESS rfl
  -- the answers of the call are those of the loop
  have answers : driverAnswers (readCalls env w) = driverAnswers l := by
    have log := congrArg driverAnswers hlog
    rw [mergeTags_log, h.log, driverAnswers_append, driverAnswers_append, ← phase] at log
    exact (List.append_cancel_left log).symm
  rw [answers]
  exact ⟨{ h.merged with }, h.code⟩

/-- The merged list is the concatenation of the lists of the readers whose driver succeeded, and
every reader points at its part of it. -/
theorem merged_lists {env : Env} {w : World} (context : w.readerManager.hContext ≠ none)
    (success : (connectIfAutomatic env w).1 = SCARD_S_SUCCESS) :
    Merged (connectIfAutomatic env w).2 (readersGetTagList env w).2
      (driverAnswers (readCalls env w)) :=
  (readersGetTagList_reads context success).1

/-- Two readers with a tag each: both lists are merged. -/
theorem merged_lists_two :
    (driverAnswers (readCalls twoTags connectedTwo)).length = 2 ∧
      Merged (connectIfAutomatic twoTags connectedTwo).2 (readersGetTagList twoTags connectedTwo).2
        (driverAnswers (readCalls twoTags connectedTwo)) :=
  ⟨by decide +kernel, merged_lists (by decide +kernel) (by decide +kernel)⟩

/-- The code of a call is that of the reader polled last. -/
theorem readersGetTagList_code {env : Env} {w : World} (context : w.readerManager.hContext ≠ none)
    (success : (connectIfAutomatic env w).1 = SCARD_S_SUCCESS) :
    (readersGetTagList env w).1 =
      ((driverAnswers (readCalls env w)).map fun p => p.2.1).getLastD SCARD_S_SUCCESS :=
  (readersGetTagList_reads context success).2

/-- The last of the codes is that of success, unless it belongs to an error. -/
lemma getLastD_eq_iff {answers : List (Nat × LONG × List tTag)} :
    (answers.map fun p => p.2.1).getLastD SCARD_S_SUCCESS = SCARD_S_SUCCESS ↔
      ¬ ∃ p ∈ answers.getLast?, p.2.1 ≠ SCARD_S_SUCCESS := by
  rw [List.getLastD_eq_getLast?, List.getLast?_map]
  cases answers.getLast? with
  | none => simp
  | some p => simp

/-- A call succeeds exactly if every driver does, unless a driver fails and the one asked last does
not. -/
theorem errors_reported_iff {env : Env} {w : World} (context : w.readerManager.hContext ≠ none)
    (success : (connectIfAutomatic env w).1 = SCARD_S_SUCCESS) :
    ((readersGetTagList env w).1 = SCARD_S_SUCCESS ↔
        ∀ p ∈ driverAnswers (readCalls env w), p.2.1 = SCARD_S_SUCCESS) ↔
      ((∃ p ∈ driverAnswers (readCalls env w), p.2.1 ≠ SCARD_S_SUCCESS) →
        ∃ p ∈ (driverAnswers (readCalls env w)).getLast?, p.2.1 ≠ SCARD_S_SUCCESS) := by
  rw [readersGetTagList_code context success, getLastD_eq_iff]
  generalize driverAnswers (readCalls env w) = answers
  constructor
  · rintro h ⟨p, hp, failed⟩
    by_contra last
    exact failed (h.1 last p hp)
  · intro h
    constructor
    · intro last p hp
      by_contra failed
      exact last (h ⟨p, hp, failed⟩)
    · rintro all ⟨p, hp, failed⟩
      exact failed (all p (List.mem_of_mem_getLast? hp))

/-- Two readers; polling the first one fails. -/
def firstFails : Env :=
  { twoTags with
    SCardTransmit := fun log slot send =>
      if slot = 0 ∧ send = pollRequest then (SCARD_F_COMM_ERROR, [])
      else twoTags.SCardTransmit log slot send }

/-- If nothing fails the code tells so. -/
theorem errors_reported_two :
    ((readersGetTagList twoTags connectedTwo).1 = SCARD_S_SUCCESS ↔
        ∀ p ∈ driverAnswers (readCalls twoTags connectedTwo), p.2.1 = SCARD_S_SUCCESS) :=
  (errors_reported_iff (by decide +kernel) (by decide +kernel)).2 (by decide +kernel)

/-- The failure of the first reader is lost. -/
theorem error_masked_first :
    (connectIfAutomatic firstFails connectedTwo).1 = SCARD_S_SUCCESS ∧
      (readersGetTagList firstFails connectedTwo).1 = SCARD_S_SUCCESS ∧
      ¬ ∀ p ∈ driverAnswers (readCalls firstFails connectedTwo), p.2.1 = SCARD_S_SUCCESS := by
  decide +kernel

end TagEventor
