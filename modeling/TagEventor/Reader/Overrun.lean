import TagEventor.Reader.Enumerated
import TagEventor.Reader.Names

/-!
# The end of the table

`readers[]` and the array `pTags` of `readersGetTagList` have `MAX_NUM_READERS` elements, but
`readersEnumerate` counts as many readers as pcscd lists. A call is `Inside` the arrays if it does
the same whatever lies behind their ends, and leaves that alone. All calls are, as long as pcscd
lists no more readers than there is room for (`table_not_overrun`).
-/

namespace TagEventor
open Interact Loop

/-- An array with other contents behind its end. -/
def beyond {α : Type} (f a : Nat → α) : Nat → α := fun i => if i < MAX_NUM_READERS then a i else f i

/-- The world with other contents behind `readers[]`. -/
def World.beyond (f : Nat → tReader) (w : World) : World :=
  { w with readerManager :=
      { w.readerManager with readers := TagEventor.beyond f w.readerManager.readers } }

/-- The read loop with other contents behind `readers[]` and `pTags`. -/
def ReadLoop.beyond (f : Nat → tReader) (g : Nat → Option TempArray) (s : ReadLoop) : ReadLoop :=
  ⟨s.world.beyond f, s.rv, TagEventor.beyond g s.pTags⟩

/-- A list of readers that is read with success has room in `readers[]`. -/
def Call.fits : Call → Bool
  | .SCardListReaders (some _) rv names =>
    rv ≠ SCARD_S_SUCCESS ∨ names.length ≤ MAX_NUM_READERS
  | _ => true

/-- All lists of readers in a log have room in `readers[]`. -/
def Fits (log : List Call) : Prop := ∀ c ∈ log, c.fits = true

instance {log} : Decidable (Fits log) := inferInstanceAs (Decidable (∀ c ∈ log, _))

/-- What came first has fitted, too. -/
lemma Fits.of_append {l l' : List Call} (fits : Fits (l ++ l')) : Fits l :=
  fun c hc => fits c (List.mem_append_left _ hc)

section
variable {f : Nat → tReader} {w : World}

/-- The log is not beyond the array. -/
@[simp] lemma log_beyond : (w.beyond f).log = w.log := rfl

/-- The number of readers is not beyond the array. -/
@[simp] lemma nbReaders_beyond :
    (w.beyond f).readerManager.nbReaders = w.readerManager.nbReaders := rfl

/-- The setting is not beyond the array. -/
@[simp] lemma automatic_beyond :
    (w.beyond f).readerManager.automatic = w.readerManager.automatic := rfl

/-- The setting is not beyond the array. -/
@[simp] lemma wanted_beyond {i} :
    (w.beyond f).readerManager.wanted i = w.readerManager.wanted i := rfl

/-- The merged tag list is not beyond the array. -/
@[simp] lemma tagList_beyond :
    (w.beyond f).readerManager.tagList = w.readerManager.tagList := rfl

/-- A call is logged alike. -/
@[simp] lemma record_beyond {c} : (w.beyond f).record c = (w.record c).beyond f := rfl

/-- An event is dispatched alike. -/
@[simp] lemma eventDispatch_beyond {e i} :
    (w.beyond f).eventDispatch e i = (w.eventDispatch e i).beyond f := rfl

/-- Tags are allocated alike. -/
@[simp] lemma mallocTags_beyond :
    (w.beyond f).mallocTags = (w.mallocTags.1, w.mallocTags.2.beyond f) := rfl

/-- Tags are freed alike. -/
@[simp] lemma freeTags_beyond {b} : (w.beyond f).freeTags b = (w.freeTags b).beyond f := rfl

/-- The merged tag list is stored alike. -/
@[simp] lemma setTagList_beyond {l} : (w.beyond f).setTagList l = (w.setTagList l).beyond f := rfl

/-- A store into the array is not one beyond it. -/
lemma beyond_update {α} {f a : Nat → α} {i x} (hi : i < MAX_NUM_READERS) :
    beyond f (Function.update a i x) = Function.update (beyond f a) i x := by
  funext j
  by_cases hj : j = i
  · subst hj
    simp [beyond, hi]
  · simp [beyond, hj]

/-- A reader in the array is read alike. -/
lemma reader_beyond {i} (hi : i < MAX_NUM_READERS) : (w.beyond f).reader i = w.reader i := if_pos hi

/-- A reader in the array is stored alike. -/
lemma setReader_beyond {i r} (hi : i < MAX_NUM_READERS) :
    (w.beyond f).setReader i r = (w.setReader i r).beyond f := by
  unfold World.setReader World.beyond
  rw [beyond_update hi]

/-- A reader in the array has the same name. -/
lemma nameText_beyond {env : Env} {i} (hi : i < MAX_NUM_READERS) :
    (w.beyond f).nameText env i = w.nameText env i := by
  unfold World.nameText
  rw [reader_beyond hi]
  rfl

end

section
variable {env : Env} {f : Nat → tReader} {g : Nat → Option TempArray} {i : Nat}
  (hi : i < MAX_NUM_READERS) {w : World}
include hi

/-- Exchanges with the card of a reader in the array go alike. -/
lemma onCard_beyond {α} {p : CardProg α} :
    (w.beyond f).onCard env i p = Prod.map id (World.beyond f) (w.onCard env i p) := by
  unfold World.onCard
  rw [reader_beyond hi]
  rfl

/-- A reader in the array is connected alike. -/
lemma SCardConnect_beyond :
    SCardConnect env i (w.beyond f) = Prod.map id (World.beyond f) (SCardConnect env i w) := by
  unfold SCardConnect
  rw [nameText_beyond hi]
  cases w.nameText env i with
  | none => rfl
  | some name =>
    simp only [log_beyond, record_beyond, reader_beyond hi, setReader_beyond hi]
    split
    · rfl
    · rfl

/-- A reader in the array is checked alike. -/
lemma readerCheck_beyond {driver : tReaderDriver} :
    (w.beyond f).readerCheck env driver i =
      Prod.map id (World.beyond f) (w.readerCheck env driver i) := by
  unfold World.readerCheck
  simp only [log_beyond, nameText_beyond hi, reader_beyond hi, onCard_beyond hi, Prod.map, id,
    record_beyond, setReader_beyond hi]

/-- A round of the loop of `readersConnect`. -/
lemma connectReader_beyond :
    connectReader env i (w.beyond f) = Prod.map id (World.beyond f) (connectReader env i w) := by
  unfold connectReader
  simp only [reader_beyond hi, wanted_beyond, SCardConnect_beyond hi, Prod.map, id]
  split
  swap
  · rfl
  generalize SCardConnect env i w = x
  obtain ⟨rv, w1⟩ := x
  dsimp only
  split
  swap
  · simp only [World.RESET_READER, setReader_beyond hi]
  simp only [checkDrivers_table, eventDispatch_beyond, readerCheck_beyond hi, Prod.map, id]
  generalize World.readerCheck env .acr122U i _ = x
  obtain ⟨⟨rv, supported⟩, w2⟩ := x
  dsimp only
  split
  · simp only [World.RESET_READER, setReader_beyond hi]
  cases supported with
  | false => simp only [Bool.false_eq_true, if_false, reader_beyond hi, setReader_beyond hi]
  | true => simp only [if_true, reader_beyond hi, setReader_beyond hi, eventDispatch_beyond]

/-- A round of the loop of `readersDisconnect`. -/
lemma disconnectReader_beyond :
    disconnectReader env (w.beyond f) i = (disconnectReader env w i).beyond f := by
  unfold disconnectReader SCardDisconnect
  simp only [reader_beyond hi, record_beyond, log_beyond, World.RESET_READER, setReader_beyond hi,
    eventDispatch_beyond]
  split
  · rfl
  · rfl

/-- A driver polls a reader in the array alike. -/
lemma getTagList_beyond {driver : tReaderDriver} :
    (w.beyond f).getTagList env driver i =
      Prod.map id (World.beyond f) (w.getTagList env driver i) := by
  unfold World.getTagList World.setReaderTagList
  simp only [log_beyond, onCard_beyond hi, Prod.map, id, record_beyond, reader_beyond hi,
    setReader_beyond hi]

/-- The tags of a reader in the array are cleared alike. -/
lemma clear_beyond {s : ReadLoop} : (s.beyond f g).clear i = (s.clear i).beyond f g := by
  unfold ReadLoop.clear ReadLoop.beyond World.setReaderTagList
  simp only [reader_beyond hi, setReader_beyond hi, beyond_update hi]

/-- The tags of a reader in the array are read alike. -/
lemma readList_beyond {driver : tReaderDriver} {s : ReadLoop} :
    (s.beyond f g).readList env driver i = (s.readList env driver i).beyond f g := by
  unfold ReadLoop.readList ReadLoop.beyond
  simp only [mallocTags_beyond, getTagList_beyond hi, Prod.map, id]
  generalize World.getTagList env driver i s.world.mallocTags.2 = x
  obtain ⟨⟨rv, tags⟩, v⟩ := x
  dsimp only
  unfold World.addNumTags
  split
  · simp only [World.RESET_READER, setReader_beyond hi, freeTags_beyond, tagList_beyond,
      reader_beyond hi, setTagList_beyond]
  · simp only [tagList_beyond, reader_beyond hi, setTagList_beyond, beyond_update hi]

/-- A round of the read loop. -/
lemma readReader_beyond {s : ReadLoop} :
    readReader env (s.beyond f g) i = (readReader env s i).beyond f g := by
  unfold readReader
  rw [clear_beyond hi]
  generalize s.clear i = s
  have world : (s.beyond f g).world = s.world.beyond f := rfl
  simp only [world, reader_beyond hi, wanted_beyond, readList_beyond hi]
  split
  · rfl
  · rfl

/-- A round of the merge loop. -/
lemma mergeReader_beyond {block pTags} {s : List tTag × World} :
    mergeReader block (beyond g pTags) (s.1, s.2.beyond f) i =
      Prod.map id (World.beyond f) (mergeReader block pTags s i) := by
  unfold mergeReader World.setReaderTagList
  have pTag : beyond g pTags i = pTags i := if_pos hi
  simp only [pTag, reader_beyond hi, setReader_beyond hi]
  cases pTags i with
  | none => rfl
  | some a => simp only [freeTags_beyond, Prod.map, id]

end

section
variable {env : Env} {f : Nat → tReader} {w : World}

/-- A list that fits into the array is stored alike. -/
lemma relisted_beyond {size} {names : List ReaderName} (fits : names.length ≤ MAX_NUM_READERS)
    (bound : w.readerManager.nbReaders ≤ MAX_NUM_READERS) :
    (w.beyond f).relisted size names = (w.relisted size names).beyond f := by
  rw [relisted_eq, relisted_eq]
  unfold World.beyond
  simp only [World.record, World.mallocMszReaders, World.freeMszReaders, World.reader]
  congr 2
  funext i
  by_cases hi : i < MAX_NUM_READERS
  · simp only [beyond, if_pos hi]
  · -- the slots behind the end are not those of listed readers, nor of lost ones
    have h1 : ¬ i < names.length := fun h => hi (Nat.lt_of_lt_of_le h fits)
    have h2 : ¬ i < w.readerManager.nbReaders := fun h => hi (Nat.lt_of_lt_of_le h bound)
    simp only [beyond, if_neg hi, if_neg h1, if_neg h2]

/-- The names are listed alike, and the call is logged. -/
lemma SCardListReaders_logged {buffer} : ∃ rv names,
    SCardListReaders env buffer w =
      ((rv, names), w.record (.SCardListReaders buffer rv names)) ∧
    SCardListReaders env buffer (w.beyond f) =
      ((rv, names), (w.record (.SCardListReaders buffer rv names)).beyond f) := ⟨_, _, rfl, rfl⟩

/-- An enumeration that lists no more readers than there is room for. -/
lemma readersEnumerate_beyond (bound : w.readerManager.nbReaders ≤ MAX_NUM_READERS)
    (fits : Fits (readersEnumerate env w).2.log) :
    (readersEnumerate env w).2.readerManager.nbReaders ≤ MAX_NUM_READERS ∧
      readersEnumerate env (w.beyond f) =
        Prod.map id (World.beyond f) (readersEnumerate env w) := by
  obtain ⟨rv, names, first, first'⟩ := @SCardListReaders_logged env f w none
  unfold readersEnumerate at fits ⊢
  rw [first] at fits ⊢
  rw [first']
  dsimp only [nbReaders_beyond] at fits ⊢
  by_cases hrv : rv ≠ SCARD_S_SUCCESS
  · simp only [if_pos hrv]
    split
    · exact ⟨Nat.zero_le _, rfl⟩
    · exact ⟨bound, rfl⟩
  simp only [if_neg hrv] at fits ⊢
  generalize hw : w.record (.SCardListReaders none rv names) = w1 at fits ⊢
  have bound1 : w1.readerManager.nbReaders ≤ MAX_NUM_READERS := hw ▸ bound
  have previous : w.readerManager.nbReaders = w1.readerManager.nbReaders := hw ▸ rfl
  rw [previous] at fits ⊢
  obtain ⟨rv, names', second, second'⟩ := @SCardListReaders_logged env f
    w1.freeMszReaders.mallocMszReaders (some (multiString names).length)
  rw [second] at fits ⊢
  have renewed : (w1.beyond f).freeMszReaders.mallocMszReaders =
      w1.freeMszReaders.mallocMszReaders.beyond f := rfl
  rw [renewed, second']
  dsimp only at fits ⊢
  by_cases hrv : rv ≠ SCARD_S_SUCCESS
  · simp only [if_pos hrv]
    exact ⟨bound1, rfl⟩
  simp only [if_neg hrv] at fits ⊢
  rw [not_not] at hrv
  subst hrv
  have listed := @relisted_eq w1 (multiString names).length names'
  have fits' : names'.length ≤ MAX_NUM_READERS := by
    have room := fits
      (.SCardListReaders (some (multiString names).length) SCARD_S_SUCCESS names') ?_
    · simpa [Call.fits] using room
    · show _ ∈ (w1.relisted (multiString names).length names').log
      rw [listed]
      exact List.mem_append_right _ (List.mem_singleton_self _)
  refine ⟨?_, congrArg (Prod.mk _) (relisted_beyond fits' bound1)⟩
  show (w1.relisted (multiString names).length names').readerManager.nbReaders ≤ _
  rw [listed]
  exact fits'

/-- The listing, where it is made, goes alike, if what it lists fits. -/
lemma enumerateIfAutomatic_beyond (bound : w.readerManager.nbReaders ≤ MAX_NUM_READERS)
    (fits : Fits (enumerateIfAutomatic env w).2.log) :
    (enumerateIfAutomatic env w).2.readerManager.nbReaders ≤ MAX_NUM_READERS ∧
      enumerateIfAutomatic env (w.beyond f) =
        Prod.map id (World.beyond f) (enumerateIfAutomatic env w) := by
  unfold enumerateIfAutomatic at fits ⊢
  rw [automatic_beyond]
  by_cases auto : w.readerManager.automatic = true
  · simp only [if_pos auto] at fits ⊢
    exact readersEnumerate_beyond bound fits
  · simp only [if_neg auto]
    exact ⟨bound, rfl⟩

/-- The loop over the readers of the array goes alike. -/
lemma connectLoop_beyond {n} (bound : n ≤ MAX_NUM_READERS) :
    scan (connectReader env) (List.range n) (w.beyond f) =
      Prod.map id (World.beyond f) (scan (connectReader env) (List.range n) w) := by
  have step : ∀ i ∈ List.range n, ∀ s t : World, t = s.beyond f →
      (connectReader env i s).1 = (connectReader env i t).1 ∧
        (connectReader env i t).2 = (connectReader env i s).2.beyond f := by
    rintro i hi s t rfl
    rw [connectReader_beyond (Nat.lt_of_lt_of_le (List.mem_range.1 hi) bound)]
    exact ⟨rfl, rfl⟩
  have sim := scan_sim (R := fun s t : World => t = s.beyond f) step (s := w) rfl
  exact Prod.ext sim.1.symm sim.2

/-- The connection phase goes alike, if what it lists fits. -/
lemma readersConnect_beyond (bound : w.readerManager.nbReaders ≤ MAX_NUM_READERS)
    (fits : Fits (readersConnect env w).2.log) :
    (readersConnect env w).2.readerManager.nbReaders ≤ MAX_NUM_READERS ∧
      readersConnect env (w.beyond f) = Prod.map id (World.beyond f) (readersConnect env w) := by
  obtain ⟨l, hlog⟩ := @readersConnect_log env w
  obtain ⟨bound1, e⟩ := @enumerateIfAutomatic_beyond env f w bound (Fits.of_append (hlog ▸ fits))
  unfold readersConnect
  rw [e]
  generalize enumerateIfAutomatic env w = x at bound1 ⊢
  obtain ⟨rv, w1⟩ := x
  dsimp only [Prod.map, id] at bound1 ⊢
  rw [nbReaders_beyond]
  by_cases hrv : rv ≠ SCARD_S_SUCCESS
  · rw [if_pos hrv, if_pos hrv]
    exact ⟨bound1, rfl⟩
  rw [if_neg hrv, if_neg hrv]
  by_cases hn : w1.readerManager.nbReaders = 0
  · rw [if_pos hn, if_pos hn]
    exact ⟨bound1, rfl⟩
  rw [if_neg hn, if_neg hn, connectLoop_beyond bound1]
  have nbReaders := (@connectLoop_rounds env w1).nbReaders
  generalize scan (connectReader env) _ w1 = y at nbReaders ⊢
  obtain ⟨ret, w2⟩ := y
  cases ret with
  | none => exact ⟨nbReaders ▸ bound1, rfl⟩
  | some rv => exact ⟨nbReaders ▸ bound1, rfl⟩

/-- To disconnect goes alike, if what is listed fits. -/
lemma readersDisconnect_beyond (bound : w.readerManager.nbReaders ≤ MAX_NUM_READERS)
    (fits : Fits (readersDisconnect env w).log) :
    (readersDisconnect env w).readerManager.nbReaders ≤ MAX_NUM_READERS ∧
      readersDisconnect env (w.beyond f) = (readersDisconnect env w).beyond f := by
  have same : (w.beyond f).readerManager.hContext = w.readerManager.hContext := rfl
  by_cases context : w.readerManager.hContext = none
  · rw [readersDisconnect, readersDisconnect, same, if_pos context, if_pos context]
    exact ⟨bound, rfl⟩
  obtain ⟨l, hlog⟩ := @readersDisconnect_log env w context
  obtain ⟨bound1, e⟩ := @enumerateIfAutomatic_beyond env f w bound (Fits.of_append (hlog ▸ fits))
  unfold readersDisconnect
  rw [same, if_neg context, if_neg context, e]
  generalize enumerateIfAutomatic env w = x at bound1 ⊢
  obtain ⟨rv, w1⟩ := x
  dsimp only [Prod.map, id] at bound1 ⊢
  rw [nbReaders_beyond]
  by_cases hrv : rv ≠ SCARD_S_SUCCESS
  · rw [if_pos hrv, if_pos hrv]
    exact ⟨bound1, rfl⟩
  rw [if_neg hrv, if_neg hrv]
  refine ⟨Nat.le_trans (Nat.le_of_eq (@disconnectLoop_rounds env w1).nbReaders) bound1, ?_⟩
  refine List.foldl_rel (r := fun s t : World => s = t.beyond f) rfl ?_
  rintro i hi _ t rfl
  exact disconnectReader_beyond (Nat.lt_of_lt_of_le (List.mem_range.1 hi) bound1)

/-- The part of `readersGetTagList` after the connection phase, for given contents of the local
array `pTags`, with what it leaves there. -/
def readTagsIn (env : Env) (pTags : Nat → Option TempArray) (rv : LONG) (w : World) :
    (LONG × World) × (Nat → Option TempArray) :=
  let w := w.setTagList { w.readerManager.tagList with numTags := 0 }
  let s := (List.range w.readerManager.nbReaders).foldl (readReader env) ⟨w, rv, pTags⟩
  ((s.rv, mergeTags s.pTags s.world), s.pTags)

/-- A call of the library starts with an empty local array. -/
lemma readTagsIn_none {rv} : (readTagsIn env (fun _ => none) rv w).1 = readTags env rv w := rfl

/-- The tag lists of the readers of the array are merged alike. -/
lemma mergeTags_beyond {g pTags} (bound : w.readerManager.nbReaders ≤ MAX_NUM_READERS) :
    mergeTags (beyond g pTags) (w.beyond f) = (mergeTags pTags w).beyond f := by
  unfold mergeTags
  dsimp only
  rw [tagList_beyond, setTagList_beyond]
  generalize hw : w.setTagList { w.readerManager.tagList with pTags := none } = w1
  have bound1 : w1.readerManager.nbReaders ≤ MAX_NUM_READERS := hw ▸ bound
  rw [tagList_beyond, mallocTags_beyond]
  split
  swap
  · rfl
  dsimp only
  have bound2 : w1.mallocTags.2.readerManager.nbReaders ≤ MAX_NUM_READERS := bound1
  generalize w1.mallocTags.2 = w2 at bound2 ⊢
  have loop : (List.range w2.readerManager.nbReaders).foldl
      (mergeReader w1.mallocTags.1 (beyond g pTags)) ([], w2.beyond f) =
        Prod.map id (World.beyond f) ((List.range w2.readerManager.nbReaders).foldl
          (mergeReader w1.mallocTags.1 pTags) ([], w2)) := by
    refine List.foldl_rel (r := fun s t => s = Prod.map id (World.beyond f) t) rfl ?_
    rintro i hi _ t rfl
    exact mergeReader_beyond (Nat.lt_of_lt_of_le (List.mem_range.1 hi) bound2)
  rw [nbReaders_beyond, loop]
  rfl

/-- The tags of the readers of the array are read alike. -/
lemma readTagsIn_beyond {g pTags rv} (bound : w.readerManager.nbReaders ≤ MAX_NUM_READERS) :
    readTagsIn env (beyond g pTags) rv (w.beyond f) =
      Prod.map (Prod.map id (World.beyond f)) (beyond g) (readTagsIn env pTags rv w) := by
  unfold readTagsIn
  simp only [tagList_beyond, setTagList_beyond, nbReaders_beyond]
  generalize hw : w.setTagList { w.readerManager.tagList with numTags := 0 } = w1
  have bound1 : w1.readerManager.nbReaders ≤ MAX_NUM_READERS := hw ▸ bound
  have nbReaders : ((List.range w1.readerManager.nbReaders).foldl (readReader env)
      ⟨w1, rv, pTags⟩).world.readerManager.nbReaders = w1.readerManager.nbReaders := by
    refine foldl_range (I := fun _ (s : ReadLoop) => s.world.readerManager.nbReaders =
      w1.readerManager.nbReaders) rfl fun i hi s hs => ?_
    obtain ⟨_, r⟩ := @readReader_round env s i (hs ▸ hi)
    exact r.reads.nbReaders.trans hs
  have loop : (List.range w1.readerManager.nbReaders).foldl (readReader env)
      ⟨w1.beyond f, rv, beyond g pTags⟩ = ReadLoop.beyond f g
        ((List.range w1.readerManager.nbReaders).foldl (readReader env) ⟨w1, rv, pTags⟩) := by
    refine List.foldl_rel (r := fun s (t : ReadLoop) => s = t.beyond f g) rfl ?_
    rintro i hi _ t rfl
    exact readReader_beyond (Nat.lt_of_lt_of_le (List.mem_range.1 hi) bound1)
  rw [loop]
  refine congrArg (fun v => ((_, v), _)) ?_
  exact mergeTags_beyond (Nat.le_trans (Nat.le_of_eq nbReaders) bound1)

/-- The connection phase, where it is made, goes alike, if what it lists fits. -/
lemma connectIfAutomatic_beyond (bound : w.readerManager.nbReaders ≤ MAX_NUM_READERS)
    (fits : Fits (connectIfAutomatic env w).2.log) :
    (connectIfAutomatic env w).2.readerManager.nbReaders ≤ MAX_NUM_READERS ∧
      connectIfAutomatic env (w.beyond f) =
        Prod.map id (World.beyond f) (connectIfAutomatic env w) := by
  unfold connectIfAutomatic at fits ⊢
  rw [automatic_beyond]
  by_cases auto : w.readerManager.automatic = true
  · simp only [if_pos auto] at fits ⊢
    exact readersConnect_beyond bound fits
  · simp only [if_neg auto]
    exact ⟨bound, rfl⟩

/-- The log of the connection phase is part of that of the call. -/
lemma Fits.connection (context : w.readerManager.hContext ≠ none)
    (fits : Fits (readersGetTagList env w).2.log) : Fits (connectIfAutomatic env w).2.log := by
  obtain ⟨_, e⟩ | ⟨_, e⟩ := @readersGetTagList_cases env _ context
  · exact e ▸ fits
  · obtain ⟨lists, collected⟩ := @readTags_collected env (connectIfAutomatic env w).2
      (connectIfAutomatic env w).1
    obtain ⟨l, hlog⟩ := collected.reads.toManages.log
    rw [e, hlog] at fits
    exact fits.of_append

/-- A call that reads all tags goes alike, if what it lists fits. -/
lemma readersGetTagList_beyond (bound : w.readerManager.nbReaders ≤ MAX_NUM_READERS)
    (fits : Fits (readersGetTagList env w).2.log) :
    (readersGetTagList env w).2.readerManager.nbReaders ≤ MAX_NUM_READERS ∧
      readersGetTagList env (w.beyond f) =
        Prod.map id (World.beyond f) (readersGetTagList env w) := by
  have same : (w.beyond f).readerManager.hContext = w.readerManager.hContext := rfl
  by_cases context : w.readerManager.hContext = none
  · rw [readersGetTagList, readersGetTagList, same, if_pos context, if_pos context]
    exact ⟨bound, rfl⟩
  obtain ⟨bound1, e⟩ := @connectIfAutomatic_beyond env f w bound (fits.connection context)
  unfold readersGetTagList
  rw [same, if_neg context, if_neg context, e]
  generalize connectIfAutomatic env w = x at bound1 ⊢
  obtain ⟨rv, w1⟩ := x
  dsimp only [Prod.map, id] at bound1 ⊢
  by_cases hrv : rv ≠ SCARD_S_SUCCESS
  · rw [if_pos hrv, if_pos hrv]
    exact ⟨bound1, rfl⟩
  · rw [if_neg hrv, if_neg hrv]
    obtain ⟨lists, collected⟩ := @readTags_collected env w1 rv
    refine ⟨Nat.le_trans (Nat.le_of_eq collected.reads.nbReaders) bound1, ?_⟩
    have none : beyond (fun _ => none) (fun _ => none) = fun _ => (none : Option TempArray) := by
      funext i
      exact ite_self none
    have reads := congrArg Prod.fst
      (@readTagsIn_beyond env f w1 (fun _ => Option.none) (fun _ => Option.none) rv bound1)
    rw [none, readTagsIn_none, Prod.map_fst, readTagsIn_none] at reads
    exact reads

/-- To establish a context goes alike, if what is listed fits. -/
lemma readersManagerConnect_beyond (bound : w.readerManager.nbReaders ≤ MAX_NUM_READERS)
    (fits : Fits (readersManagerConnect env w).2.log) :
    (readersManagerConnect env w).2.readerManager.nbReaders ≤ MAX_NUM_READERS ∧
      readersManagerConnect env (w.beyond f) =
        Prod.map id (World.beyond f) (readersManagerConnect env w) := by
  unfold readersManagerConnect at fits ⊢
  dsimp only [log_beyond] at fits ⊢
  by_cases hrv : (env.SCardEstablishContext w.log).1 ≠ SCARD_S_SUCCESS
  · simp only [if_pos hrv]
    exact ⟨bound, rfl⟩
  · simp only [if_neg hrv] at fits ⊢
    exact readersEnumerate_beyond bound fits

/-- To release the context goes alike. -/
lemma readersManagerDisconnect_beyond (bound : w.readerManager.nbReaders ≤ MAX_NUM_READERS) :
    (readersManagerDisconnect env w).2.readerManager.nbReaders ≤ MAX_NUM_READERS ∧
      readersManagerDisconnect env (w.beyond f) =
        Prod.map id (World.beyond f) (readersManagerDisconnect env w) := by
  unfold readersManagerDisconnect
  have same : (w.beyond f).readerManager.hContext = w.readerManager.hContext := rfl
  rw [same]
  cases w.readerManager.hContext with
  | none => exact ⟨bound, rfl⟩
  | some => exact ⟨bound, rfl⟩

end

/-- A call of a function of the library, with the code it returns if it returns one. -/
def Op.call (env : Env) : Op → World → Option LONG × World
  | readersManagerConnect, w => Prod.map some id (TagEventor.readersManagerConnect env w)
  | readersConnect, w => Prod.map some id (TagEventor.readersConnect env w)
  | readersGetTagList, w => Prod.map some id (TagEventor.readersGetTagList env w)
  | readersDisconnect, w => (none, TagEventor.readersDisconnect env w)
  | readersManagerDisconnect, w => Prod.map some id (TagEventor.readersManagerDisconnect env w)

/-- A call uses no element behind the end of `readers[]`, nor of `pTags`: what is stored there makes
no difference and stays as it is. -/
structure Inside (env : Env) (op : Op) (w : World) : Prop where
  nbReaders : (op.exec env w).readerManager.nbReaders ≤ MAX_NUM_READERS
  readers : ∀ f, op.call env (w.beyond f) = Prod.map id (World.beyond f) (op.call env w)
  pTags : op = .readersGetTagList → w.readerManager.hContext ≠ none →
    (connectIfAutomatic env w).1 = SCARD_S_SUCCESS → ∀ f g pTags,
      let w' := (connectIfAutomatic env w).2
      readTagsIn env (beyond g pTags) SCARD_S_SUCCESS (w'.beyond f) =
        Prod.map (Prod.map id (World.beyond f)) (beyond g)
          (readTagsIn env pTags SCARD_S_SUCCESS w')

/-- A call that starts inside the table stays inside if the lists of readers have room. -/
lemma exec_inside {env : Env} {op : Op} {w : World}
    (bound : w.readerManager.nbReaders ≤ MAX_NUM_READERS) (fits : Fits (op.exec env w).log) :
    Inside env op w := by
  cases op with
  | readersManagerConnect =>
    have h := fun f => @readersManagerConnect_beyond env f w bound fits
    exact ⟨(h w.reader).1, fun f => congrArg (Prod.map some id) (h f).2, nofun⟩
  | readersConnect =>
    have h := fun f => @readersConnect_beyond env f w bound fits
    exact ⟨(h w.reader).1, fun f => congrArg (Prod.map some id) (h f).2, nofun⟩
  | readersGetTagList =>
    have h := fun f => @readersGetTagList_beyond env f w bound fits
    refine ⟨(h w.reader).1, fun f => congrArg (Prod.map some id) (h f).2, ?_⟩
    intro _ context _ f g pTags
    exact readTagsIn_beyond (connectIfAutomatic_beyond (f := f) bound (fits.connection context)).1
  | readersDisconnect =>
    have h := fun f => @readersDisconnect_beyond env f w bound fits
    exact ⟨(h w.reader).1, fun f => congrArg (Prod.mk none) (h f).2, nofun⟩
  | readersManagerDisconnect =>
    have h := fun f => @readersManagerDisconnect_beyond env f w bound
    exact ⟨(h w.reader).1, fun f => congrArg (Prod.map some id) (h f).2, nofun⟩

/-- The readers are never more than there is room for. -/
lemma Reachable.nbReaders_le {env : Env} {w : World} (reachable : Reachable env w)
    (fits : Fits w.log) : w.readerManager.nbReaders ≤ MAX_NUM_READERS := by
  induction reachable with
  | init => exact Nat.zero_le _
  | @call w op _ ih =>
    obtain ⟨l, hlog⟩ := (@exec_manages env op w).log
    exact (exec_inside (ih (Fits.of_append (hlog ▸ fits))) fits).nbReaders
  | @between w w' _ same ih =>
    have log : w'.log = w.log := congrArg Conn.log same
    have nbReaders : w'.readerManager.nbReaders = w.readerManager.nbReaders :=
      congrArg Conn.nbReaders same
    exact nbReaders ▸ ih (log ▸ fits)

/-- If pcscd has listed no more readers than there is room for, up to the end of a call, the call
stays inside the table. -/
theorem table_not_overrun {env : Env} {w : World} {op : Op} (reachable : Reachable env w)
    (fits : Fits (op.exec env w).log) : Inside env op w := by
  obtain ⟨l, hlog⟩ := (@exec_manages env op w).log
  exact exec_inside (reachable.nbReaders_le (Fits.of_append (hlog ▸ fits))) fits

/-- Two readers are inside the table. -/
theorem table_not_overrun_two :
    Inside twoListed .readersGetTagList (run twoListed READER_BIT_AUTO [.readersManagerConnect]) :=
  table_not_overrun reachable_run (by decide +kernel)

/-- An outside with seven readers. -/
def sevenListed : Env :=
  plain [acr0, acr1, ⟨"ACS ACR 38U-CCID 02".toList, by decide⟩,
    ⟨"ACS ACR 38U-CCID 03".toList, by decide⟩, ⟨"ACS ACR 38U-CCID 04".toList, by decide⟩,
    ⟨"ACS ACR 38U-CCID 05".toList, by decide⟩, ⟨"ACS ACR 38U-CCID 06".toList, by decide⟩]
    fun _ _ => none

/-- The seventh reader is written behind the end of the table. -/
theorem table_overrun_seven :
    (run sevenListed READER_BIT_AUTO []).readerManager.nbReaders = 0 ∧
      (run sevenListed READER_BIT_AUTO [.readersManagerConnect]).readerManager.nbReaders = 7 ∧
      (run sevenListed READER_BIT_AUTO [.readersManagerConnect]).reader MAX_NUM_READERS ≠
        (run sevenListed READER_BIT_AUTO []).reader MAX_NUM_READERS ∧
      ¬ Inside sevenListed .readersManagerConnect (run sevenListed READER_BIT_AUTO []) := by
  refine ⟨rfl, by decide +kernel, by decide +kernel, fun h => ?_⟩
  exact absurd h.nbReaders (by decide +kernel)

end TagEventor
