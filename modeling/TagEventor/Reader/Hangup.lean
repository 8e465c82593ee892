import TagEventor.Reader.Faulty

/-!
# A hangup while the tags are read

`handleSignal` on `SIGHUP` disconnects the readers and connects them again. It may run between two
rounds of the read loop of `readersGetTagList`, or between the read loop and the merge loop
(`HangupPoint`). The loops look at `nbReaders` and at the tag counts of the readers again in every
round, while the total count and the temporary arrays are those from before the signal. The merged
list is intact exactly if the handler leaves the readers that have tags as they are, and adds no
reader to those whose arrays are set up (`hangup_intact_iff`).
-/

namespace TagEventor
open Loop

/-- `handleSignal( SIGHUP )`. -/
def handleSIGHUP (env : Env) (w : World) : World :=
  (readersConnect env (readersDisconnect env w)).2

/-- Where the signal arrives: before round `k` of the read loop, or after the loop. -/
inductive HangupPoint where
  | round (k : Nat)
  | merge
deriving DecidableEq

/-- The rounds of the read loop made before the signal arrives. -/
def HangupPoint.rounds (w : World) : HangupPoint → Nat
  | round k => k
  | merge => w.readerManager.nbReaders

/-- The read loop up to the signal. -/
def readToSignal (env : Env) (point : HangupPoint) (rv : LONG) (w : World) : ReadLoop :=
  let w := w.setTagList { w.readerManager.tagList with numTags := 0 }
  (List.range (point.rounds w)).foldl (readReader env) ⟨w, rv, fun _ => none⟩

/-- The signal comes between two rounds of the read loop. -/
def ReadLoop.hangup (env : Env) (s : ReadLoop) : ReadLoop :=
  { s with world := handleSIGHUP env s.world }

/-- The rest of the read loop, which goes on to what is now the number of readers. -/
def readFromSignal (env : Env) (s : ReadLoop) : HangupPoint → ReadLoop
  | .round k => (List.range' k (s.world.readerManager.nbReaders - k)).foldl (readReader env) s
  | .merge => s

/-- `readersGetTagList` with a hangup. -/
def readersGetTagListHangup (env : Env) (point : HangupPoint) (w : World) : LONG × World :=
  if w.readerManager.hContext = none then (SCARD_E_INVALID_PARAMETER, w)
  else
    match connectIfAutomatic env w with
    | (rv, w) =>
      if rv ≠ SCARD_S_SUCCESS then (rv, w)
      else
        let s := readFromSignal env ((readToSignal env point rv w).hangup env) point
        (s.rv, mergeTags s.pTags s.world)

/-- The elements of the local `pTags` that are initialised in the call: one for each round. -/
def initialised (env : Env) (point : HangupPoint) (rv : LONG) (w : World) : Nat :=
  let s := (readToSignal env point rv w).hangup env
  match point with
  | .round k => max k s.world.readerManager.nbReaders
  | .merge => w.readerManager.nbReaders

/-- The list of `w'` after a call that began in `w` and initialised `n` elements of `pTags`: all its
entries are written, from tags that drivers returned in the call, and `pTags` is used at initialised
elements only. -/
structure Intact (w w' : World) (n : Nat) : Prop where
  written : w'.readerManager.tagList.numTags =
    ((w'.readerManager.tagList.pTags.map TagArray.tags).getD []).length
  returned : ∀ t ∈ w'.readerManager.tagList.entries,
    t ∈ answered (w'.log.drop w.log.length)
  inArray : n ≤ MAX_NUM_READERS
  initialised : 0 < w'.readerManager.tagList.numTags → w'.readerManager.nbReaders ≤ n

/-- The handler, run in `u` after `k` rounds, does no harm: it adds no reader to those with an array
when there is something to merge, and every reader that has tags stays where it is, since the
readers are not enumerated with success when they should be disconnected. -/
structure Harmless (env : Env) (point : HangupPoint) (k : Nat) (u : World) : Prop where
  inArray : k ≤ MAX_NUM_READERS ∧
    (point ≠ .merge → (handleSIGHUP env u).readerManager.nbReaders ≤ MAX_NUM_READERS)
  noneAdded : point = .merge → 0 < u.readerManager.tagList.numTags →
    (handleSIGHUP env u).readerManager.nbReaders ≤ k
  stays : ∀ i < k, 0 < (u.reader i).tagList.numTags →
    u.readerManager.automatic = true ∧ (readersEnumerate env u).1 ≠ SCARD_S_SUCCESS ∧
      i < (handleSIGHUP env u).readerManager.nbReaders

/-- The rounds `k`, .., `k + n - 1` of the read loop, in which reader `i` delivered `lists i`. -/
structure ReadsFrom (s s' : ReadLoop) (lists : Nat → List tTag) (k n : Nat) : Prop where
  reads : Reads s.world s'.world
  before : ∀ i < k, s'.world.reader i = s.world.reader i ∧ s'.pTags i = s.pTags i
  numTags : ∀ i, k ≤ i → i < k + n → (s'.world.reader i).tagList.numTags = (lists i).length
  holds : ∀ i, k ≤ i → i < k + n → Holds (s'.pTags i) (lists i)
  behind : ∀ i, k + n ≤ i → s'.pTags i = s.pTags i
  connected : ∀ i, k ≤ i → i < k + n → lists i ≠ [] → (s'.world.reader i).hCard ≠ none
  total : s'.world.readerManager.tagList.numTags =
    s.world.readerManager.tagList.numTags + ((List.range' k n).flatMap lists).length
  answered : answered s'.world.log = answered s.world.log ++ (List.range' k n).flatMap lists

/-- Only a reader that is connected has tags after its round. -/
lemma readReader_hCard {env : Env} {s : ReadLoop} {i}
    (h : 0 < ((readReader env s i).world.reader i).tagList.numTags) :
    ((readReader env s i).world.reader i).hCard ≠ none := by
  have cleared : ((s.clear i).world.reader i).tagList.numTags = 0 := by
    simp [ReadLoop.clear, World.setReaderTagList]
  unfold readReader at h ⊢
  dsimp only at h ⊢
  generalize s.clear i = s0 at h cleared ⊢
  split at h
  swap
  · exact absurd cleared (Nat.ne_of_gt h)
  next hCard driver hc _ _ =>
  obtain ⟨w', tags, _, hj, _, _, e⟩ := @getTagList_spec env driver i s0.world.mallocTags.2
  unfold ReadLoop.readList at h ⊢
  dsimp only at h ⊢
  generalize World.getTagList env driver i s0.world.mallocTags.2 = x at e h ⊢
  obtain ⟨⟨rv, ts⟩, w2⟩ := x
  dsimp only at e h ⊢
  subst e
  split at h
  next hrv =>
    rw [reader_addNumTags, reader_freeTags, World.RESET_READER, reader_setReader] at h
    exact absurd rfl (Nat.ne_of_gt h)
  next hrv =>
    rw [if_neg hrv, reader_addNumTags, reader_setReaderTagList, reader_record, hj]
    show (s0.world.reader i).hCard ≠ none
    rw [hc]
    exact Option.some_ne_none _

/-- One more round of the read loop. -/
lemma ReadsFrom.round {s t t' : ReadLoop} {lists k n tags} (h : ReadsFrom s t lists k n)
    (r : ReadRound t t' (k + n) tags)
    (card : 0 < (t'.world.reader (k + n)).tagList.numTags →
      (t'.world.reader (k + n)).hCard ≠ none) :
    ReadsFrom s t' (Function.update lists (k + n) tags) k (n + 1) := by
  have old : (List.range' k n).flatMap (Function.update lists (k + n) tags) =
      (List.range' k n).flatMap lists := List.flatMap_congr fun i hi => by
    have := List.mem_range'_1.1 hi
    rw [Function.update_of_ne (by omega)]
  constructor
  · exact h.reads.trans r.reads
  · intro i hi
    rw [r.others i (by omega), r.pTagsOthers i (by omega)]
    exact h.before i hi
  · intro i hk hi
    by_cases e : i = k + n
    · subst e
      rw [Function.update_self]
      exact r.numTags
    · rw [Function.update_of_ne e, r.others i e]
      exact h.numTags i hk (by omega)
  · intro i hk hi
    by_cases e : i = k + n
    · subst e
      rw [Function.update_self]
      exact r.pTags
    · rw [Function.update_of_ne e, r.pTagsOthers i e]
      exact h.holds i hk (by omega)
  · intro i hi
    rw [r.pTagsOthers i (by omega)]
    exact h.behind i (by omega)
  · intro i hk hi ne
    by_cases e : i = k + n
    · subst e
      rw [Function.update_self] at ne
      apply card
      rw [r.numTags]
      exact List.length_pos_of_ne_nil ne
    · rw [Function.update_of_ne e] at ne
      rw [r.others i e]
      exact h.connected i hk (by omega) ne
  · rw [List.range'_1_concat, List.flatMap_append, old, List.length_append, r.total, h.total]
    simp [Nat.add_assoc]
  · rw [List.range'_1_concat, List.flatMap_append, old, r.answered, h.answered]
    simp

/-- The rounds deliver what the drivers answer. -/
lemma readsFrom {env : Env} {s : ReadLoop} {k n}
    (h : ∀ i < n, k + i < s.world.readerManager.nbReaders) :
    ∃ lists, ReadsFrom s ((List.range' k n).foldl (readReader env) s) lists k n := by
  induction n with
  | zero =>
    exact ⟨fun _ => [], .refl, fun _ _ => ⟨rfl, rfl⟩, fun i _ _ => by omega, fun i _ _ => by omega,
      fun _ _ => rfl, fun i _ _ => by omega, rfl, (List.append_nil _).symm⟩
  | succ n ih =>
    obtain ⟨lists, h'⟩ := ih fun i hi => h i (Nat.lt_succ_of_lt hi)
    rw [List.range'_1_concat, List.foldl_append]
    generalize (List.range' k n).foldl (readReader env) s = t at h' ⊢
    have hn : k + n < t.world.readerManager.nbReaders := by
      rw [h'.reads.nbReaders]
      exact h n (Nat.lt_succ_self n)
    obtain ⟨tags, r⟩ := @readReader_round env t (k + n) hn
    exact ⟨Function.update lists (k + n) tags, h'.round r readReader_hCard⟩

/-- The handler does what the connection phase does. -/
lemma handleSIGHUP_connects {env : Env} {w : World} : Connects w (handleSIGHUP env w) :=
  readersDisconnect_connects.trans readersConnect_connects

/-- The loop of `readersDisconnect` resets the readers that are connected. -/
lemma disconnectLoop_readers {env : Env} {w : World} {n} :
    let w' := (List.range n).foldl (disconnectReader env) w
    ∀ i, (n ≤ i → w'.reader i = w.reader i) ∧
      (i < n → w'.reader i = if (w.reader i).hCard = none then w.reader i else .reset) := by
  refine foldl_range (I := fun n (s : World) => ∀ i, (n ≤ i → s.reader i = w.reader i) ∧
    (i < n → s.reader i = if (w.reader i).hCard = none then w.reader i else .reset))
    (fun i => ⟨fun _ => rfl, nofun⟩) fun k _ s h i => ?_
  have self := (h k).1 (Nat.le_refl k)
  have others : ∀ j, j ≠ k → (disconnectReader env s k).reader j = s.reader j := fun j hj => by
    unfold disconnectReader
    split
    · exact reader_setReader_ne hj
    · rfl
  refine ⟨fun hi => ?_, fun hi => ?_⟩
  · rw [others i (by omega)]
    exact (h i).1 (by omega)
  · rcases Nat.lt_succ_iff_lt_or_eq.1 hi with hi | rfl
    · rw [others i (by omega)]
      exact (h i).2 hi
    · unfold disconnectReader
      rw [self]
      by_cases hc : (w.reader i).hCard = none
      · rw [if_neg (not_not.2 hc), if_pos hc, self]
      · rw [if_pos hc, if_neg hc]
        exact reader_setReader

/-- An enumeration gives the readers it lists a name, and resets those it does not list any more. -/
lemma readersEnumerate_readers {env : Env} {w : World} (i) :
    let x := readersEnumerate env w
    (x.1 ≠ SCARD_S_SUCCESS → x.2.reader i = w.reader i) ∧
      (i < x.2.readerManager.nbReaders → ∃ name, x.2.reader i = { w.reader i with name := name }) ∧
      (x.1 = SCARD_S_SUCCESS → x.2.readerManager.nbReaders ≤ i → i < w.readerManager.nbReaders →
        x.2.reader i = .reset) := by
  have outcome := @readersEnumerate_outcome env w
  generalize readersEnumerate env w = x at outcome ⊢
  cases outcome with
  | failed error => exact ⟨fun _ => rfl, fun _ => ⟨_, rfl⟩, fun h => absurd h error⟩
  | noReaders => exact ⟨fun _ => rfl, fun _ => ⟨_, rfl⟩, nofun⟩
  | renewed error => exact ⟨fun _ => rfl, fun _ => ⟨_, rfl⟩, fun h => absurd h error⟩
  | relisted success =>
    dsimp only
    rw [relisted_eq]
    refine ⟨fun h => absurd rfl h, fun hi => ⟨_, if_pos hi⟩, fun _ hn hi => ?_⟩
    exact (if_neg (Nat.not_lt.2 hn)).trans (if_pos hi)

/-- A round of the loop of `readersConnect` does not touch a reader that is connected. -/
lemma connectReader_connected {env : Env} {i j} {w : World} (h : (w.reader i).hCard ≠ none) :
    (connectReader env j w).2.reader i = w.reader i := by
  by_cases hij : i = j
  · subst hij
    have outcome := @connectReader_outcome env i w
    generalize connectReader env i w = x at outcome ⊢
    cases outcome with
    | skipped => rfl
    | unconnected free => exact absurd free h
    | failed checks => exact absurd checks.free h
    | unsupported checks => exact absurd checks.free h
    | accepted checks => exact absurd checks.free h
  · obtain ⟨l, hl⟩ := @connectReader_log env j w
    exact hl.others i hij

/-- `readersConnect` keeps a connected reader that is still listed. -/
lemma readersConnect_connected {env : Env} {i} {w : World} (h : (w.reader i).hCard ≠ none)
    (hi : i < (readersConnect env w).2.readerManager.nbReaders) :
    ((readersConnect env w).2.reader i).tagList = (w.reader i).tagList := by
  have named : ∀ hi : i < (enumerateIfAutomatic env w).2.readerManager.nbReaders,
      ∃ name, (enumerateIfAutomatic env w).2.reader i = { w.reader i with name := name } := by
    unfold enumerateIfAutomatic
    split
    · exact (readersEnumerate_readers i).2.1
    · exact fun _ => ⟨_, rfl⟩
  have outcome := @readersConnect_outcome env w
  generalize readersConnect env w = x at hi outcome ⊢
  generalize enumerateIfAutomatic env w = x1 at named outcome
  obtain ⟨rv, w1⟩ := x1
  have rounds := (@connectLoop_rounds env w1).nbReaders
  have kept : (w1.reader i).hCard ≠ none →
      (scan (connectReader env) (List.range w1.readerManager.nbReaders) w1).2.reader i =
        w1.reader i := fun hc => by
    refine scan_inv (I := fun s : World => s.reader i = w1.reader i) (fun j _ s hs => ?_) rfl
    rw [connectReader_connected (by rw [hs]; exact hc), hs]
  have tagList : (w1.reader i).hCard ≠ none ∧ (w1.reader i).tagList = (w.reader i).tagList ∨
      ¬ i < w1.readerManager.nbReaders := by
    by_cases hi' : i < w1.readerManager.nbReaders
    · obtain ⟨name, e⟩ := named hi'
      exact .inl ⟨by rw [e]; exact h, by rw [e]⟩
    · exact .inr hi'
  cases outcome with
  | failed => exact (tagList.resolve_right (not_not.2 hi)).2
  | noReaders => exact (tagList.resolve_right (not_not.2 hi)).2
  | @looped ret w2 _ _ loop =>
    rw [loop] at rounds kept
    obtain ⟨hc, e⟩ := tagList.resolve_right (not_not.2 (rounds ▸ hi))
    rw [kept hc, e]

/-- `readersDisconnect` takes its tags from a connected reader, unless it cannot enumerate. -/
lemma readersDisconnect_tags {env : Env} {i} {w : World} (context : w.readerManager.hContext ≠ none)
    (hi : i < w.readerManager.nbReaders) (hc : (w.reader i).hCard ≠ none) :
    (w.readerManager.automatic = true ∧ (readersEnumerate env w).1 ≠ SCARD_S_SUCCESS ∧
        (readersDisconnect env w).reader i = w.reader i) ∨
      ¬ (w.readerManager.automatic = true ∧ (readersEnumerate env w).1 ≠ SCARD_S_SUCCESS) ∧
        (readersDisconnect env w).reader i = .reset := by
  have cases := @readersDisconnect_cases env w context
  unfold enumerateIfAutomatic at cases
  by_cases auto : w.readerManager.automatic = true
  swap
  · have loop := (@disconnectLoop_readers env w w.readerManager.nbReaders i).2 hi
    rw [if_neg hc] at loop
    rw [if_neg auto] at cases
    rcases cases with ⟨error, _⟩ | ⟨_, e⟩
    · exact absurd rfl error
    · rw [e]
      exact .inr ⟨fun h => auto h.1, loop⟩
  rw [if_pos auto] at cases
  obtain ⟨failed, named, lost⟩ := @readersEnumerate_readers env w i
  rcases cases with ⟨error, e⟩ | ⟨success, e⟩
  · rw [e]
    exact .inl ⟨auto, error, failed error⟩
  rw [e]
  refine .inr ⟨fun h => h.2 success, ?_⟩
  generalize (readersEnumerate env w).2 = w1 at named lost ⊢
  have loop := @disconnectLoop_readers env w1 w1.readerManager.nbReaders i
  by_cases hi' : i < w1.readerManager.nbReaders
  · obtain ⟨name, e⟩ := named hi'
    have hc' : (w1.reader i).hCard ≠ none := by rw [e]; exact hc
    rw [loop.2 hi', if_neg hc']
  · rw [loop.1 (Nat.not_lt.1 hi')]
    exact lost success (Nat.not_lt.1 hi') hi

/-- The handler leaves a connected reader its tags, at its place among the readers, iff it cannot
enumerate the readers to disconnect them, and lists the reader again. -/
lemma handleSIGHUP_keeps {env : Env} {i} {w : World} (context : w.readerManager.hContext ≠ none)
    (hi : i < w.readerManager.nbReaders) (hc : (w.reader i).hCard ≠ none)
    (tags : 0 < (w.reader i).tagList.numTags) :
    (((handleSIGHUP env w).reader i).tagList.numTags = (w.reader i).tagList.numTags ∧
        i < (handleSIGHUP env w).readerManager.nbReaders) ↔
      w.readerManager.automatic = true ∧ (readersEnumerate env w).1 ≠ SCARD_S_SUCCESS ∧
        i < (handleSIGHUP env w).readerManager.nbReaders := by
  unfold handleSIGHUP
  obtain ⟨auto, error, e⟩ | ⟨enumerated, e⟩ := @readersDisconnect_tags env i w context hi hc
  · have card : ((readersDisconnect env w).reader i).hCard ≠ none := by rw [e]; exact hc
    constructor
    · exact fun h => ⟨auto, error, h.2⟩
    · exact fun h => ⟨by rw [readersConnect_connected card h.2.2, e], h.2.2⟩
  · refine iff_of_false (fun h => ?_) fun h => enumerated ⟨h.1, h.2.1⟩
    have lost :
        ((readersConnect env (readersDisconnect env w)).2.reader i).tagList.numTags = 0 := by
      rcases (@readersConnect_connects env (readersDisconnect env w)).readerTagLists i with e' | e'
      · rw [e', e]
        rfl
      · rw [e']
        rfl
    rw [lost] at h
    exact Nat.ne_of_lt tags h.1

/-- What the merge loop copies from reader `i`. -/
def slice (pTags : Nat → Option TempArray) (w : World) (i : Nat) : List tTag :=
  match pTags i with
  | none => []
  | some a => (List.range (w.reader i).tagList.numTags).map a.tags

/-- The merge loop copies the slices and changes neither the counts nor the log. -/
lemma mergeLoop_slices {block pTags} {is : List Nat} {s : List tTag × World} :
    let s' := is.foldl (mergeReader block pTags) s
    s'.1 = s.1 ++ is.flatMap (slice pTags s.2) ∧
      s'.2.readerManager.tagList = s.2.readerManager.tagList ∧
      s'.2.readerManager.nbReaders = s.2.readerManager.nbReaders := by
  induction is generalizing s with
  | nil => exact ⟨(List.append_nil _).symm, rfl, rfl⟩
  | cons i is ih =>
    have counts : ∀ j, ((s.2.setReaderTagList i { (s.2.reader i).tagList with
        pTags := some ⟨block, s.1.length⟩ }).reader j).tagList.numTags =
          (s.2.reader j).tagList.numTags := fun j => by
      by_cases hj : j = i
      · subst hj
        rw [reader_setReaderTagList]
      · rw [reader_setReaderTagList_ne hj]
    have round : (mergeReader block pTags s i).1 = s.1 ++ slice pTags s.2 i ∧
        (∀ j, ((mergeReader block pTags s i).2.reader j).tagList.numTags =
          (s.2.reader j).tagList.numTags) ∧
        (mergeReader block pTags s i).2.readerManager.tagList = s.2.readerManager.tagList ∧
        (mergeReader block pTags s i).2.readerManager.nbReaders = s.2.readerManager.nbReaders := by
      unfold mergeReader slice
      dsimp only
      cases pTags i with
      | none => exact ⟨(List.append_nil _).symm, counts, rfl, rfl⟩
      | some a => exact ⟨by rw [counts i], counts, rfl, rfl⟩
    obtain ⟨tags, counts, tagList, nbReaders⟩ := round
    obtain ⟨tags', tagList', nbReaders'⟩ := @ih (mergeReader block pTags s i)
    have slices : slice pTags (mergeReader block pTags s i).2 = slice pTags s.2 := by
      funext j
      unfold slice
      rw [counts j]
    refine ⟨?_, tagList'.trans tagList, nbReaders'.trans nbReaders⟩
    rw [List.foldl_cons, tags', tags, slices, List.append_assoc]
    rfl

/-- The merged list: the slices, if there are any tags. -/
lemma mergeTags_slices {pTags} {w : World} :
    let w' := mergeTags pTags w
    w'.readerManager.tagList.numTags = w.readerManager.tagList.numTags ∧
      w'.readerManager.nbReaders = w.readerManager.nbReaders ∧
      (w'.readerManager.tagList.pTags.map TagArray.tags).getD [] =
        if 0 < w.readerManager.tagList.numTags then
          (List.range w.readerManager.nbReaders).flatMap (slice pTags w)
        else [] := by
  unfold mergeTags
  dsimp only
  have numTags : (w.setTagList { w.readerManager.tagList with pTags := none }
    ).readerManager.tagList.numTags = w.readerManager.tagList.numTags := rfl
  rw [numTags]
  split
  · obtain ⟨tags, tagList, nbReaders⟩ := @mergeLoop_slices w.tagHeap.length pTags
      (.range w.readerManager.nbReaders)
      ([], (w.setTagList { w.readerManager.tagList with pTags := none }).mallocTags.2)
    exact ⟨(congrArg tTagList.numTags tagList :), nbReaders, tags⟩
  · exact ⟨rfl, rfl, rfl⟩

/-- Parts of lists are together no longer than the lists. -/
lemma length_flatMap_le {α} {f g : Nat → List α} {l : List Nat}
    (h : ∀ i ∈ l, (g i).length ≤ (f i).length) :
    (l.flatMap g).length ≤ (l.flatMap f).length := by
  induction l with
  | nil => exact Nat.le_refl 0
  | cons i l ih =>
    rw [List.flatMap_cons, List.flatMap_cons, List.length_append, List.length_append]
    exact Nat.add_le_add (h i List.mem_cons_self) (ih fun j hj => h j (List.mem_cons_of_mem i hj))

/-- Parts of lists are together as long as the lists iff each of them is. -/
lemma length_flatMap_eq_iff {α} {f g : Nat → List α} {l : List Nat}
    (h : ∀ i ∈ l, (g i).length ≤ (f i).length) :
    (l.flatMap f).length = (l.flatMap g).length ↔ ∀ i ∈ l, (f i).length = (g i).length := by
  induction l with
  | nil => exact iff_of_true rfl nofun
  | cons i l ih =>
    have hi := h i List.mem_cons_self
    have hl := fun j hj => h j (List.mem_cons_of_mem i hj)
    have rest := length_flatMap_le hl
    rw [List.flatMap_cons, List.flatMap_cons, List.length_append, List.length_append,
      List.forall_mem_cons]
    constructor
    · intro e
      exact ⟨by omega, (ih hl).1 (by omega)⟩
    · rintro ⟨e, e'⟩
      rw [e, (ih hl).2 e']

/-- The state in which the lists are merged, after `n` rounds in which reader `i` delivered
`lists i` and the handler may have reset some of the readers. -/
structure AtMerge (w : World) (s : ReadLoop) (lists : Nat → List tTag) (n : Nat) : Prop where
  total : s.world.readerManager.tagList.numTags = ((List.range n).flatMap lists).length
  holds : ∀ i < n, Holds (s.pTags i) (lists i)
  counts : ∀ i < n, (s.world.reader i).tagList.numTags = (lists i).length ∨
    (s.world.reader i).tagList.numTags = 0
  log : ∃ l, s.world.log = w.log ++ l ∧ answered l = (List.range n).flatMap lists

/-- The slice of a reader is what it delivered, or empty if the reader was reset. -/
lemma AtMerge.slice_eq {w : World} {s : ReadLoop} {lists n} (h : AtMerge w s lists n) {i}
    (hi : i < n) : slice s.pTags s.world i =
      if (s.world.reader i).tagList.numTags = (lists i).length then lists i else [] := by
  have holds := h.holds i hi
  unfold slice
  unfold Holds at holds
  cases hp : s.pTags i with
  | none =>
    rw [hp] at holds
    simp only [holds, ite_self]
  | some a =>
    rw [hp] at holds
    dsimp only at holds ⊢
    split
    next e => rw [e, ← holds]
    next e => rw [(h.counts i hi).resolve_left e, List.range_zero, List.map_nil]

/-- What the merge loop copies from reader `i`, which it may not get to. -/
def copied (s : ReadLoop) (i : Nat) : List tTag :=
  if i < s.world.readerManager.nbReaders then slice s.pTags s.world i else []

/-- The merge loop copies nothing from the readers behind the last one. -/
lemma flatMap_copied {s : ReadLoop} {n} (h : s.world.readerManager.nbReaders ≤ n) :
    (List.range n).flatMap (copied s) =
      (List.range s.world.readerManager.nbReaders).flatMap (slice s.pTags s.world) := by
  obtain ⟨m, rfl⟩ := Nat.exists_eq_add_of_le h
  have rest : (List.map (s.world.readerManager.nbReaders + ·) (List.range m)).flatMap (copied s) =
      [] := by
    refine List.flatMap_eq_nil_iff.2 fun i hi => ?_
    obtain ⟨j, _, rfl⟩ := List.mem_map.1 hi
    exact if_neg (Nat.not_lt.2 (Nat.le_add_right _ j))
  rw [List.range_add, List.flatMap_append, rest, List.append_nil]
  exact List.flatMap_congr fun i hi => if_pos (List.mem_range.1 hi)

section
variable {w : World} {s : ReadLoop} {lists : Nat → List tTag} {n : Nat} (h : AtMerge w s lists n)
include h

/-- No more is copied than a reader delivered. -/
lemma AtMerge.length_copied_le {i} (hi : i < n) : (copied s i).length ≤ (lists i).length := by
  unfold copied
  split
  · rw [h.slice_eq hi]
    split
    · exact Nat.le_refl _
    · exact Nat.zero_le _
  · exact Nat.zero_le _

/-- All that a reader delivered is copied iff it has still its tags, and a place among the
readers. -/
lemma AtMerge.length_copied_iff {i} (hi : i < n) :
    (lists i).length = (copied s i).length ↔
      (lists i ≠ [] → i < s.world.readerManager.nbReaders ∧
        (s.world.reader i).tagList.numTags = (lists i).length) := by
  unfold copied
  by_cases hi' : i < s.world.readerManager.nbReaders
  · rw [if_pos hi', h.slice_eq hi]
    by_cases e : (s.world.reader i).tagList.numTags = (lists i).length
    · rw [if_pos e]
      exact iff_of_true rfl fun _ => ⟨hi', e⟩
    · rw [if_neg e, List.length_nil, List.length_eq_zero_iff]
      exact ⟨fun nil ne => absurd nil ne, fun h => not_not.1 fun ne => e (h ne).2⟩
  · rw [if_neg hi', List.length_nil, List.length_eq_zero_iff]
    exact ⟨fun nil ne => absurd nil ne, fun h => not_not.1 fun ne => hi' (h ne).1⟩

/-- The list has room for what is copied exactly if nothing that was delivered got lost. -/
lemma AtMerge.total_iff (hle : s.world.readerManager.nbReaders ≤ n) :
    s.world.readerManager.tagList.numTags = ((List.range s.world.readerManager.nbReaders).flatMap
        (slice s.pTags s.world)).length ↔
      ∀ i < n, lists i ≠ [] → i < s.world.readerManager.nbReaders ∧
        (s.world.reader i).tagList.numTags = (lists i).length := by
  rw [h.total, ← flatMap_copied hle,
    length_flatMap_eq_iff fun i hi => h.length_copied_le (List.mem_range.1 hi)]
  constructor
  · intro all i hi
    exact (h.length_copied_iff hi).1 (all i (List.mem_range.2 hi))
  · intro kept i hi
    exact (h.length_copied_iff (List.mem_range.1 hi)).2 (kept i (List.mem_range.1 hi))

/-- Every tag that is copied was delivered. -/
lemma AtMerge.mem_answered (hle : s.world.readerManager.nbReaders ≤ n) {t}
    (ht : t ∈ (List.range s.world.readerManager.nbReaders).flatMap (slice s.pTags s.world)) :
    t ∈ answered (s.world.log.drop w.log.length) := by
  obtain ⟨l, hl, answers⟩ := h.log
  obtain ⟨i, hi, ht⟩ := List.mem_flatMap.1 ht
  have hi : i < n := Nat.lt_of_lt_of_le (List.mem_range.1 hi) hle
  rw [hl, List.drop_left, answers]
  refine List.mem_flatMap.2 ⟨i, List.mem_range.2 hi, ?_⟩
  rw [h.slice_eq hi] at ht
  split at ht
  · exact ht
  · cases ht

/-- The merged list is intact iff every reader that delivered tags has still its tags, and a place
among the readers. -/
lemma AtMerge.intact_iff :
    Intact w (mergeTags s.pTags s.world) n ↔ n ≤ MAX_NUM_READERS ∧
      (0 < s.world.readerManager.tagList.numTags → s.world.readerManager.nbReaders ≤ n ∧
        ∀ i < n, lists i ≠ [] → i < s.world.readerManager.nbReaders ∧
          (s.world.reader i).tagList.numTags = (lists i).length) := by
  obtain ⟨numTags, nbReaders, tags⟩ := @mergeTags_slices s.pTags s.world
  have log := @mergeTags_log s.pTags s.world
  generalize mergeTags s.pTags s.world = w' at numTags nbReaders tags log ⊢
  constructor
  · intro intact
    refine ⟨intact.inArray, fun pos => ?_⟩
    have hle : s.world.readerManager.nbReaders ≤ n :=
      nbReaders ▸ intact.initialised (numTags ▸ pos)
    have written := intact.written
    rw [tags, if_pos pos, numTags] at written
    exact ⟨hle, (h.total_iff hle).1 written⟩
  · rintro ⟨inArray, kept⟩
    by_cases pos : 0 < s.world.readerManager.tagList.numTags
    · obtain ⟨hle, kept⟩ := kept pos
      rw [if_pos pos] at tags
      refine ⟨?_, fun t ht => ?_, inArray, fun _ => nbReaders ▸ hle⟩
      · rw [tags, numTags]
        exact (h.total_iff hle).2 kept
      · rw [tTagList.entries, tags] at ht
        rw [log]
        exact h.mem_answered hle (List.mem_of_mem_take ht)
    · -- there is nothing to merge
      rw [if_neg pos] at tags
      refine ⟨?_, fun t ht => ?_, inArray, fun pos' => absurd (numTags ▸ pos') pos⟩
      · rw [tags, numTags, List.length_nil]
        exact Nat.eq_zero_of_not_pos pos
      · rw [tTagList.entries, tags] at ht
        cases List.mem_of_mem_take ht

end

section
variable {env : Env} {w w0 : World} {s1 s3 : ReadLoop} {lists lists' : Nat → List tTag} {rv : LONG}
  {k m : Nat}

/-- The rounds before and after the handler. -/
lemma atMerge (start : Manages w w0) (silent : polled w0.log = polled w.log)
    (empty : w0.readerManager.tagList.numTags = 0)
    (h1 : ReadsFrom ⟨w0, rv, fun _ => none⟩ s1 lists 0 k)
    (h2 : ReadsFrom (s1.hangup env) s3 lists' k m) :
    AtMerge w s3 (fun i => if i < k then lists i else lists' i) (k + m) := by
  have handler := @handleSIGHUP_connects env s1.world
  have split : (List.range (k + m)).flatMap (fun i => if i < k then lists i else lists' i) =
      (List.range' 0 k).flatMap lists ++ (List.range' k m).flatMap lists' := by
    rw [List.range_add, List.flatMap_append, List.range_eq_range', @List.range'_eq_map_range k m]
    refine congrArg₂ (· ++ ·) (List.flatMap_congr fun i hi => if_pos ?_)
      (List.flatMap_congr fun i hi => if_neg ?_)
    · have := List.mem_range'_1.1 hi
      omega
    · obtain ⟨j, _, rfl⟩ := List.mem_map.1 hi
      exact Nat.not_lt.2 (Nat.le_add_right k j)
  constructor
  · have before : (s1.hangup env).world.readerManager.tagList.numTags =
        ((List.range' 0 k).flatMap lists).length := by
      show (handleSIGHUP env s1.world).readerManager.tagList.numTags = _
      rw [handler.tagList, h1.total, empty, Nat.zero_add]
    rw [h2.total, before, split, List.length_append]
  · intro i hi
    by_cases hk : i < k
    · rw [if_pos hk, (h2.before i hk).2]
      exact h1.holds i (Nat.zero_le i) (by omega)
    · rw [if_neg hk]
      exact h2.holds i (Nat.le_of_not_lt hk) hi
  · intro i hi
    by_cases hk : i < k
    · rw [if_pos hk, (h2.before i hk).1, ← h1.numTags i (Nat.zero_le i) (by omega)]
      rcases handler.readerTagLists i with e | e
      · exact .inl (congrArg tTagList.numTags e)
      · exact .inr (congrArg tTagList.numTags e)
    · rw [if_neg hk]
      exact .inl (h2.numTags i (Nat.le_of_not_lt hk) hi)
  · obtain ⟨l, hl⟩ := (((start.trans h1.reads.toManages).trans handler.toManages).trans
      h2.reads.toManages).log
    refine ⟨l, hl, ?_⟩
    have answers : answered s3.world.log = answered w.log ++
        ((List.range' 0 k).flatMap lists ++ (List.range' k m).flatMap lists') := by
      have before : answered (s1.hangup env).world.log = answered s1.world.log := handler.answered
      rw [h2.answered, before, h1.answered, List.append_assoc, ← @answered_polled w0.log, silent,
        answered_polled]
    rw [hl, answered_append] at answers
    rw [split]
    exact List.append_cancel_left answers

/-- The readers that the signal finds with tags are those that delivered some. -/
lemma stays_iff (context : w0.readerManager.hContext ≠ none)
    (hk : k ≤ w0.readerManager.nbReaders)
    (h1 : ReadsFrom ⟨w0, rv, fun _ => none⟩ s1 lists 0 k)
    (h2 : ReadsFrom (s1.hangup env) s3 lists' k m) {i} (hi : i < k) :
    (lists i ≠ [] → i < s3.world.readerManager.nbReaders ∧
        (s3.world.reader i).tagList.numTags = (lists i).length) ↔
      (0 < (s1.world.reader i).tagList.numTags → s1.world.readerManager.automatic = true ∧
        (readersEnumerate env s1.world).1 ≠ SCARD_S_SUCCESS ∧
          i < (handleSIGHUP env s1.world).readerManager.nbReaders) := by
  have count := h1.numTags i (Nat.zero_le i) (by omega)
  have card := h1.connected i (Nat.zero_le i) (by omega)
  have nbReaders : s3.world.readerManager.nbReaders =
      (handleSIGHUP env s1.world).readerManager.nbReaders := h2.reads.nbReaders
  have reader : s3.world.reader i = (handleSIGHUP env s1.world).reader i := (h2.before i hi).1
  have delivered : lists i ≠ [] ↔ 0 < (s1.world.reader i).tagList.numTags := by
    rw [count]
    exact List.length_pos_iff.symm
  rw [nbReaders, reader, ← count, ← delivered]
  refine forall_congr' fun ne => ?_
  have context1 : s1.world.readerManager.hContext ≠ none := by
    rw [h1.reads.hContext]
    exact context
  have listed : i < s1.world.readerManager.nbReaders := by
    rw [h1.reads.nbReaders]
    exact Nat.lt_of_lt_of_le hi hk
  exact and_comm.trans (handleSIGHUP_keeps context1 listed (card ne) (delivered.1 ne))

/-- The merged list is intact iff the handler did no harm. -/
lemma intact_iff_harmless {point : HangupPoint} (context : w0.readerManager.hContext ≠ none)
    (hk : k ≤ w0.readerManager.nbReaders) (start : Manages w w0)
    (silent : polled w0.log = polled w.log) (empty : w0.readerManager.tagList.numTags = 0)
    (h1 : ReadsFrom ⟨w0, rv, fun _ => none⟩ s1 lists 0 k)
    (h2 : ReadsFrom (s1.hangup env) s3 lists' k m)
    (rest : point = .merge ∧ m = 0 ∨
      point ≠ .merge ∧ m = (handleSIGHUP env s1.world).readerManager.nbReaders - k) :
    Intact w (mergeTags s3.pTags s3.world) (k + m) ↔ Harmless env point k s1.world := by
  have state := atMerge start silent empty h1 h2
  have stays := fun i (hi : i < k) => stays_iff context hk h1 h2 hi
  have nbReaders : s3.world.readerManager.nbReaders =
      (handleSIGHUP env s1.world).readerManager.nbReaders := h2.reads.nbReaders
  have total : m = 0 → s3.world.readerManager.tagList.numTags =
      s1.world.readerManager.tagList.numTags := by
    rintro rfl
    rw [h2.total]
    exact congrArg tTagList.numTags handleSIGHUP_connects.tagList
  rw [state.intact_iff, nbReaders]
  rw [nbReaders] at stays
  constructor
  · rintro ⟨inArray, kept⟩
    refine ⟨⟨by omega, fun round => ?_⟩, fun merge pos => ?_,
      fun i hi => (stays i hi).1 fun ne => ?_⟩
    · have := (rest.resolve_left fun h => round h.1).2
      omega
    · have zero : m = 0 := (rest.resolve_right fun h => h.1 merge).2
      rw [← total zero] at pos
      have := (kept pos).1
      omega
    · have pos : 0 < s3.world.readerManager.tagList.numTags := by
        refine Nat.pos_of_ne_zero fun zero => ?_
        rw [state.total, List.length_eq_zero_iff, List.flatMap_eq_nil_iff] at zero
        have nil := zero i (List.mem_range.2 (by omega))
        rw [if_pos hi] at nil
        exact ne nil
      have h := (kept pos).2 i (by omega)
      rw [if_pos hi] at h
      exact h ne
  · rintro ⟨inArray, noneAdded, staying⟩
    refine ⟨?_, fun pos => ⟨?_, fun i hi ne => ?_⟩⟩
    · rcases rest with ⟨_, rfl⟩ | ⟨round, rfl⟩
      · exact inArray.1
      · have := inArray.2 round
        omega
    · rcases rest with ⟨merge, rfl⟩ | ⟨_, rfl⟩
      · exact noneAdded merge (total rfl ▸ pos)
      · omega
    · by_cases hk : i < k
      · rw [if_pos hk] at ne ⊢
        exact (stays i hk).2 (staying i hk) ne
      · rw [if_neg hk]
        exact ⟨by omega, h2.numTags i (Nat.le_of_not_lt hk) hi⟩

end

/-- A call of `readersGetTagList` that a hangup interrupts leaves the merged list intact iff the
handler does no harm in the state in which the signal arrives. -/
theorem hangup_intact_iff {env : Env} {point : HangupPoint} {w : World}
    (context : w.readerManager.hContext ≠ none)
    (success : (connectIfAutomatic env w).1 = SCARD_S_SUCCESS)
    (reached : point.rounds (connectIfAutomatic env w).2 ≤
      (connectIfAutomatic env w).2.readerManager.nbReaders) :
    Intact w (readersGetTagListHangup env point w).2
        (initialised env point SCARD_S_SUCCESS (connectIfAutomatic env w).2) ↔
      Harmless env point (point.rounds (connectIfAutomatic env w).2)
        (readToSignal env point SCARD_S_SUCCESS (connectIfAutomatic env w).2).world := by
  have phase := @connectIfAutomatic_connects env w
  unfold readersGetTagListHangup initialised
  rw [if_neg context]
  generalize connectIfAutomatic env w = x at success phase reached ⊢
  obtain ⟨rv, w1⟩ := x
  dsimp only at success phase reached ⊢
  subst success
  rw [if_neg (by simp)]
  have context1 : w1.readerManager.hContext ≠ none := by
    rw [phase.hContext]
    exact context
  have emptied : Reads w1 (w1.setTagList { w1.readerManager.tagList with numTags := 0 }) :=
    reads_of_eq rfl rfl rfl rfl rfl rfl
  have start := phase.toManages.trans emptied.toManages
  -- the rounds before the signal
  obtain ⟨lists, h1⟩ := @readsFrom env
    ⟨w1.setTagList { w1.readerManager.tagList with numTags := 0 }, SCARD_S_SUCCESS, fun _ => none⟩
    0 (point.rounds w1) fun i hi => by
      rw [Nat.zero_add]
      exact Nat.lt_of_lt_of_le hi reached
  rw [← List.range_eq_range'] at h1
  have harmless := fun {s3 lists' m} => @intact_iff_harmless env w
    (w1.setTagList { w1.readerManager.tagList with numTags := 0 }) _ s3 lists lists' _ _ m point
    context1 reached start phase.polled rfl h1
  cases point with
  | round k =>
    -- the rounds after it
    obtain ⟨lists', h2⟩ := @readsFrom env
      ((readToSignal env (.round k) SCARD_S_SUCCESS w1).hangup env) k
      (((readToSignal env (.round k) SCARD_S_SUCCESS w1).hangup env).world.readerManager.nbReaders
        - k) fun i hi => by omega
    have n : max k ((readToSignal env (.round k) SCARD_S_SUCCESS w1).hangup
        env).world.readerManager.nbReaders =
        k + (((readToSignal env (.round k) SCARD_S_SUCCESS w1).hangup
          env).world.readerManager.nbReaders - k) := by omega
    dsimp only
    rw [n]
    exact harmless h2 (.inr ⟨nofun, rfl⟩)
  | merge =>
    obtain ⟨lists', h2⟩ := @readsFrom env
      ((readToSignal env .merge SCARD_S_SUCCESS w1).hangup env) w1.readerManager.nbReaders 0 nofun
    exact harmless h2 (.inl ⟨rfl, rfl⟩)

/-- Two readers, with a tag on the second one. -/
def second : Env := plain [acr0, acr1] fun _ slot => if slot = 1 then some [0xab, 0xcd] else none

/-- The signal comes before the second reader is read. -/
theorem hangup_intact_second :
    let w := run second READER_BIT_AUTO [.readersManagerConnect]
    Intact w (readersGetTagListHangup second (.round 1) w).2
      (initialised second (.round 1) SCARD_S_SUCCESS (connectIfAutomatic second w).2) := by
  refine (hangup_intact_iff (by decide +kernel) (by decide +kernel) (by decide +kernel)).2 ?_
  exact ⟨by decide +kernel, nofun, by decide +kernel⟩

/-- Two readers, with a tag on each of them. -/
def both : Env := plain [acr0, acr1] fun _ slot => some [0xab, UInt8.ofNat slot]

/-- The signal comes when the first reader has been read: its tag is counted, but not copied. -/
theorem hangup_corrupts_both :
    let w := run both READER_BIT_AUTO [.readersManagerConnect]
    (w.readerManager.hContext ≠ none ∧ (connectIfAutomatic both w).1 = SCARD_S_SUCCESS ∧
      1 < (connectIfAutomatic both w).2.readerManager.nbReaders) ∧
    ¬ Intact w (readersGetTagListHangup both (.round 1) w).2
      (initialised both (.round 1) SCARD_S_SUCCESS (connectIfAutomatic both w).2) := by
  refine ⟨by decide +kernel, fun intact => ?_⟩
  exact absurd intact.written (by decide +kernel)

end TagEventor
