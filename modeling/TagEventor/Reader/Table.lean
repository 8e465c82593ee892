import TagEventor.Lib.Machine
import TagEventor.Reader.Polled
import TagEventor.Reader.Runs

/-!
# What happens to the slots

Everything the library ever does to `readers[]`, with the calls and the events that go with it, as
the steps of a relation (`Table.Step`). Every function of the library is a run of these steps
(`exec_moves`), so what each of them preserves holds in every reachable state (`run_table`).
-/

namespace TagEventor
open Interact Loop Relation

/-- A successful `SCardConnect` for a slot. -/
def Call.opens (i : Nat) : Call → Bool
  | .SCardConnect j _ _ (some _) => j = i
  | _ => false

/-- A driver's check that accepts the reader of a slot. -/
def Call.accepts (i : Nat) : Call → Bool
  | .readerCheck j rv supported => j = i ∧ rv = SCARD_S_SUCCESS ∧ supported
  | _ => false

/-- A call that neither connects a reader nor accepts one. -/
def Call.Quiet (c : Call) : Prop := ∀ i, c.opens i = false ∧ c.accepts i = false

/-- The slots of `readers[]`, with the calls and the events so far. -/
structure Table where
  readers : Nat → tReader
  log : List Call
  events : List Event

/-- What the table sees of a state. -/
def World.table (w : World) : Table := ⟨w.reader, w.log, w.events⟩

namespace Table

/-- All slots are empty, and nothing has happened. -/
def init : Table := ⟨fun _ => .reset, [], []⟩

/-- Some calls are logged. -/
def record (t : Table) (l : List Call) : Table := { t with log := t.log ++ l }

/-- A slot is changed. -/
def set (t : Table) (i : Nat) (r : tReader) : Table :=
  { t with readers := Function.update t.readers i r }

/-- An event of a reader is dispatched. -/
def dispatch (t : Table) (eventType : tEventType) (i : Nat) : Table :=
  { t with events := t.events ++ [⟨eventType, none, i⟩] }

/-- The calls for slot `i` that opened the handle `h` and asked a driver about the reader. -/
def check (t : Table) (i : Nat) (h : tCardHandle) (l : List Call) (rv : LONG) (supported : Bool) :
    Table :=
  (t.record (.SCardConnect i (some h.reader) SCARD_S_SUCCESS (some h) :: l ++
    [.readerCheck i rv supported])).dispatch .READER_DETECTED i

/-- What happens to the slots. -/
inductive Step (t : Table) : Table → Prop where
  | logged {l} (quiet : ∀ c ∈ l, c.Quiet) : Step t (t.record l)
  | pcscd {eventType} (h : eventType = .PCSCD_CONNECT ∨ eventType = .PCSCD_FAIL ∨
      eventType = .PCSCD_DISCONNECT) : Step t (t.dispatch eventType 0)
  /-- readers are lost or get another name -/
  | relisted {readers : Nat → tReader} (h : ∀ i, readers i = t.readers i ∨ readers i = .reset ∨
      ∃ name, readers i = { t.readers i with name := name }) : Step t { t with readers }
  | failed {i h l rv supported} (onCard : ∀ c ∈ l, OnCard i c) (error : rv ≠ SCARD_S_SUCCESS) :
    Step t ((t.check i h l rv supported).set i .reset)
  | unsupported {i h h' l r} (onCard : ∀ c ∈ l, OnCard i c) (free : (t.readers i).hCard = none)
    (checked : Checked { t.readers i with hCard := some h' } r) :
    Step t ((t.check i h l SCARD_S_SUCCESS false).set i { r with pDriver := none })
  | accepted {i h h' l r driver} (onCard : ∀ c ∈ l, OnCard i c) (free : (t.readers i).hCard = none)
    (checked : Checked { t.readers i with hCard := some h' } r) :
    Step t (((t.check i h l SCARD_S_SUCCESS true).set i
      { r with
        pDriver := some driver
        driverDescriptor := some driver.driverDescriptor }).dispatch .READER_DETECTED i)
  | disconnected {i hCard rv} :
    Step t (((t.record [.SCardDisconnect i hCard rv]).set i .reset).dispatch .READER_DISCONNECT i)
  /-- the tags of a reader are forgotten, or put into another array -/
  | tagList {i l} (h : l.numTags = 0 ∨ l.numTags = (t.readers i).tagList.numTags) :
    Step t (t.set i { t.readers i with tagList := l })
  | delivered {i driver l} (hCard : (t.readers i).hCard ≠ none)
    (pDriver : (t.readers i).pDriver = some driver) (le : l.numTags ≤ driver.maxTags) :
    Step t (t.set i { t.readers i with tagList := l })

/-- A slot is reset. -/
lemma Step.reset {t : Table} {i} : Step t (t.set i .reset) := by
  refine .relisted fun j => ?_
  by_cases hj : j = i
  · subst hj
    exact .inr (.inl (Function.update_self ..))
  · exact .inl (Function.update_of_ne hj ..)

end Table

/-- The functions of the library move the slots by these steps. -/
def Moves (w w' : World) : Prop := ReflTransGen Table.Step w.table w'.table

/-- Nothing has happened. -/
lemma Moves.refl {w} : Moves w w := ReflTransGen.refl

/-- Some steps after others. -/
lemma Moves.trans {w w' w''} (h : Moves w w') (h' : Moves w' w'') : Moves w w'' :=
  ReflTransGen.trans h h'

/-- A single step. -/
lemma Moves.step {w w'} (h : Table.Step w.table w'.table) : Moves w w' := .single h

/-- What concerns neither the slots, nor the calls, nor the events. -/
lemma Moves.of_eq {w w' : World} (h : w'.table = w.table) : Moves w w' := by
  unfold Moves
  rw [h]

/-- An event is one of the table. -/
lemma table_eventDispatch {w : World} {e i} :
    (w.eventDispatch e i).table = w.table.dispatch e i := rfl

/-- Exchanges with a card change no slot by themselves. -/
lemma quiet_onCard {i} {c : Call} (h : OnCard i c) : c.Quiet := by
  intro j
  cases c with
  | SCardStatus => exact ⟨rfl, rfl⟩
  | SCardTransmit => exact ⟨rfl, rfl⟩
  | _ => cases h

/-- A quiet call is logged. -/
lemma moves_record {w : World} {c} (quiet : c.Quiet) : Moves w (w.record c) :=
  .step (.logged (l := [c]) (by simpa using quiet))

/-- Exchanges with a card are steps. -/
lemma moves_onCard {α} {env : Env} {i} {p : CardProg α} {w : World} :
    Moves w (w.onCard env i p).2 := by
  obtain ⟨l, e, hl⟩ := @onCard_log _ env i p w
  apply Moves.step
  have h : (w.onCard env i p).2.table = w.table.record l := by
    simp only [World.table, Table.record, e]
    rfl
  rw [h]
  exact .logged fun c hc => quiet_onCard (hl c hc)

/-- Asking for the list, and taking it over. -/
lemma readersEnumerate_moves {env : Env} {w : World} : Moves w (readersEnumerate env w).2 := by
  have outcome := @readersEnumerate_outcome env w
  generalize readersEnumerate env w = x at outcome ⊢
  have asked {buffer rv names} {w : World} :
      Moves w (w.record (.SCardListReaders buffer rv names)) := moves_record fun _ => ⟨rfl, rfl⟩
  cases outcome with
  | failed => exact asked
  | noReaders => exact asked.trans (.of_eq rfl)
  | renewed => exact (asked.trans (.of_eq rfl)).trans asked
  | @relisted names size success =>
    refine (@asked none SCARD_S_SUCCESS names w).trans ?_
    generalize w.record _ = w1
    dsimp only
    rw [relisted_eq]
    refine (asked (w := w1.freeMszReaders.mallocMszReaders)).trans (.step (.relisted fun i => ?_))
    dsimp only [World.reader]
    split_ifs
    · exact .inr (.inr ⟨_, rfl⟩)
    · exact .inr (.inl rfl)
    · exact .inl rfl

/-- The listing, where it is made, goes by steps. -/
lemma enumerateIfAutomatic_moves {env : Env} {w : World} :
    Moves w (enumerateIfAutomatic env w).2 := by
  unfold enumerateIfAutomatic
  split
  · exact readersEnumerate_moves
  · exact .refl

/-- The slots after a check, whatever is written to the slot that was checked. -/
lemma Checks.table {env : Env} {i} {w w' : World} {r rv supported} (h : Checks env i w w' r) :
    ∃ hCard l, (∀ c ∈ l, OnCard i c) ∧ ∀ r',
      ((w'.record (.readerCheck i rv supported)).setReader i r').table =
        (w.table.check i hCard l rv supported).set i r' := by
  obtain ⟨hCard, l, _, hl, hlog⟩ := h.log
  refine ⟨hCard, l, hl, fun r' => ?_⟩
  have readers : Function.update w'.reader i r' = Function.update w.reader i r' := by
    funext j
    by_cases hj : j = i
    · subst hj
      rw [Function.update_self, Function.update_self]
    · rw [Function.update_of_ne hj, Function.update_of_ne hj, h.others j hj]
  show Table.mk (Function.update w'.reader i r') (w'.log ++ _) w'.events = _
  rw [readers, hlog, h.events, List.append_assoc]
  rfl

/-- A round of the loop of `readersConnect`. -/
lemma connectReader_moves {env : Env} {i} {w : World} : Moves w (connectReader env i w).2 := by
  have outcome := @connectReader_outcome env i w
  generalize connectReader env i w = x at outcome ⊢
  cases outcome with
  | skipped => exact .refl
  | unconnected => exact (moves_record fun _ => ⟨rfl, rfl⟩).trans (.step .reset)
  | @failed w' r rv supported checks error =>
    obtain ⟨hCard, l, hl, e⟩ := @Checks.table _ _ _ _ _ rv supported checks
    apply Moves.step
    rw [e]
    exact .failed hl error
  | @unsupported w' r checks =>
    obtain ⟨hCard, l, hl, e⟩ := @Checks.table _ _ _ _ _ SCARD_S_SUCCESS false checks
    obtain ⟨h, hr⟩ := checks.reader
    apply Moves.step
    rw [e]
    exact .unsupported hl checks.free (hr ▸ checks.checked)
  | @accepted w' r checks =>
    obtain ⟨hCard, l, hl, e⟩ := @Checks.table _ _ _ _ _ SCARD_S_SUCCESS true checks
    obtain ⟨h, hr⟩ := checks.reader
    apply Moves.step
    rw [table_eventDispatch, e]
    exact .accepted hl checks.free (hr ▸ checks.checked)

/-- The connection phase goes by steps. -/
lemma readersConnect_moves {env : Env} {w : World} : Moves w (readersConnect env w).2 := by
  have enumerated := @enumerateIfAutomatic_moves env w
  have rounds := @scan_path _ _ _ Moves (connectReader env) (fun _ => .refl) .trans
    (List.range (enumerateIfAutomatic env w).2.readerManager.nbReaders)
    (fun i _ s => @connectReader_moves env i s) (enumerateIfAutomatic env w).2
  have outcome := @readersConnect_outcome env w
  generalize readersConnect env w = x at outcome ⊢
  cases outcome with
  | failed => exact enumerated
  | noReaders => exact enumerated
  | looped _ _ loop =>
    rw [loop] at rounds
    exact enumerated.trans rounds

/-- To disconnect goes by steps. -/
lemma readersDisconnect_moves {env : Env} {w : World} : Moves w (readersDisconnect env w) := by
  by_cases context : w.readerManager.hContext = none
  · rw [readersDisconnect, if_pos context]
    exact .refl
  have enumerated := @enumerateIfAutomatic_moves env w
  rcases @readersDisconnect_cases env w context with ⟨_, e⟩ | ⟨_, e⟩
  · rw [e]
    exact enumerated
  rw [e]
  refine enumerated.trans (foldl_path (fun _ => .refl) .trans (fun i _ s => ?_) _)
  unfold disconnectReader
  split
  · exact .step .disconnected
  · exact .refl

/-- To establish a context goes by steps. -/
lemma readersManagerConnect_moves {env : Env} {w : World} :
    Moves w (readersManagerConnect env w).2 := by
  unfold readersManagerConnect
  have established : Moves w
      (w.record (.SCardEstablishContext (env.SCardEstablishContext w.log).1)) :=
    moves_record fun _ => ⟨rfl, rfl⟩
  dsimp only
  split
  · exact established.trans (.step (.pcscd (.inr (.inl rfl))))
  · exact (established.trans (.step (.pcscd (.inl rfl)))).trans readersEnumerate_moves

/-- To release the context goes by steps. -/
lemma readersManagerDisconnect_moves {env : Env} {w : World} :
    Moves w (readersManagerDisconnect env w).2 := by
  unfold readersManagerDisconnect
  split
  · exact .step (.pcscd (.inr (.inr rfl)))
  · have released : Moves w (w.record (.SCardReleaseContext (env.SCardReleaseContext w.log))) :=
      moves_record fun _ => ⟨rfl, rfl⟩
    exact released.trans (.step (.pcscd (.inr (.inr rfl))))

/-- A tag list is emptied, or keeps its number of tags. -/
lemma moves_setReaderTagList {w : World} {i l}
    (h : l.numTags = 0 ∨ l.numTags = (w.reader i).tagList.numTags) :
    Moves w (w.setReaderTagList i l) := .step (.tagList h)

/-- A driver's poll lists at most as many tags as the array it gets has room for. -/
lemma getTagList_moves {env : Env} {driver : tReaderDriver} {i} {w : World}
    (hCard : (w.reader i).hCard ≠ none) (pDriver : (w.reader i).pDriver = some driver) :
    Moves w (w.getTagList env driver i).2 := by
  unfold World.getTagList
  have onCard := @moves_onCard _ env i
    (driver.getTagList (env.stack w.log i) uninitialisedTags) w
  have hr : (w.onCard env i (driver.getTagList (env.stack w.log i) uninitialisedTags)).2.reader i =
      w.reader i := rfl
  have le : (w.onCard env i
      (driver.getTagList (env.stack w.log i) uninitialisedTags)).1.2.1 ≤ driver.maxTags := by
    cases driver with
    | acr122U => exact (acr122UGetTagList_ensures.run _ _).1
  generalize w.onCard env i (driver.getTagList (env.stack w.log i) uninitialisedTags) = x
    at onCard hr le ⊢
  obtain ⟨⟨rv, numTags, tags⟩, w1⟩ := x
  dsimp only at onCard hr le ⊢
  rw [← hr] at hCard pDriver
  refine (onCard.trans (moves_record ?_)).trans (.step (.delivered hCard pDriver le))
  exact fun _ => ⟨rfl, rfl⟩

/-- A round of the read loop. -/
lemma readReader_moves {env : Env} {i} {s : ReadLoop} :
    Moves s.world (readReader env s i).world := by
  unfold readReader
  have cleared : Moves s.world (s.clear i).world := moves_setReaderTagList (.inl rfl)
  dsimp only
  split
  swap
  · exact cleared
  next driver hc hd _ =>
  refine cleared.trans ?_
  generalize s.clear i = s at hc hd ⊢
  unfold ReadLoop.readList
  have read := @getTagList_moves env driver i s.world.mallocTags.2
    (by show (s.world.reader i).hCard ≠ none; rw [hc]; simp) hd
  dsimp only
  generalize World.getTagList env driver i s.world.mallocTags.2 = x at read ⊢
  obtain ⟨⟨rv, tags⟩, w⟩ := x
  dsimp only at read ⊢
  have read : Moves s.world w := Moves.trans (.of_eq rfl) read
  split
  · exact read.trans (.step .reset)
  · exact read.trans (.of_eq rfl)

/-- A round of the merge loop. -/
lemma mergeReader_moves {block pTags i} {s : List tTag × World} :
    Moves s.2 (mergeReader block pTags s i).2 := by
  unfold mergeReader
  have sliced : Moves s.2 (s.2.setReaderTagList i
      { (s.2.reader i).tagList with pTags := some ⟨block, s.1.length⟩ }) :=
    moves_setReaderTagList (.inr rfl)
  dsimp only
  split
  · exact sliced
  · exact sliced.trans (.of_eq rfl)

/-- The merge of the tag lists goes by steps. -/
lemma mergeTags_moves {pTags} {w : World} : Moves w (mergeTags pTags w) := by
  unfold mergeTags
  have emptied : Moves w (w.setTagList { w.readerManager.tagList with pTags := none }) := .of_eq rfl
  generalize w.setTagList _ = w0 at emptied ⊢
  dsimp only
  split
  swap
  · exact emptied
  have merges := @foldl_path _ _ (fun s s' : List tTag × World => Moves s.2 s'.2) _
    (fun _ => .refl) .trans (.range w0.mallocTags.2.readerManager.nbReaders)
    (fun i _ t => @mergeReader_moves w0.mallocTags.1 pTags i t) ([], w0.mallocTags.2)
  generalize List.foldl (mergeReader _ pTags) _ _ = t at merges ⊢
  exact emptied.trans (Moves.trans (.of_eq rfl) (Moves.trans merges (.of_eq rfl)))

/-- The tags are read by steps. -/
lemma readTags_moves {env : Env} {rv} {w : World} : Moves w (readTags env rv w).2 := by
  unfold readTags
  have emptied : Moves w (w.setTagList { w.readerManager.tagList with numTags := 0 }) := .of_eq rfl
  generalize w.setTagList _ = w0 at emptied ⊢
  have reads := @foldl_path _ _ (fun s s' : ReadLoop => Moves s.world s'.world) _
    (fun _ => .refl) .trans (.range w0.readerManager.nbReaders)
    (fun i _ s => @readReader_moves env i s) ⟨w0, rv, fun _ => none⟩
  exact emptied.trans (Moves.trans reads mergeTags_moves)

/-- A call that reads all tags goes by steps. -/
lemma readersGetTagList_moves {env : Env} {w : World} : Moves w (readersGetTagList env w).2 := by
  by_cases context : w.readerManager.hContext = none
  · rw [readersGetTagList, if_pos context]
    exact .refl
  have connected : Moves w (connectIfAutomatic env w).2 := by
    unfold connectIfAutomatic
    split
    · exact readersConnect_moves
    · exact .refl
  obtain ⟨_, e⟩ | ⟨_, e⟩ := @readersGetTagList_cases env _ context
  · rw [e]
    exact connected
  · rw [e]
    exact connected.trans readTags_moves

/-- Every function of the library moves the slots by the steps. -/
theorem exec_moves {env : Env} {op : Op} {w : World} : Moves w (op.exec env w) := by
  cases op with
  | readersManagerConnect => exact readersManagerConnect_moves
  | readersConnect => exact readersConnect_moves
  | readersGetTagList => exact readersGetTagList_moves
  | readersDisconnect => exact readersDisconnect_moves
  | readersManagerDisconnect => exact readersManagerDisconnect_moves

/-- What every step preserves holds in every reachable state. -/
theorem run_table {I : Table → Prop} (init : I .init) (step : ∀ t t', I t → t.Step t' → I t')
    {env : Env} {setting ops} : I (run env setting ops).table := by
  have moves : Moves (.init setting) (run env setting ops) :=
    foldl_path (R := Moves) (fun _ => .refl) .trans (fun _ _ _ => exec_moves) (World.init setting)
  exact Machine.steps_inv step moves init

end TagEventor
