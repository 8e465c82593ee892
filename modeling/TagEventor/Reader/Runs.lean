import TagEventor.Reader.TagLists

/-!
# Runs of the library

`Op.exec` is a call of one of the functions of the library, and `run` any sequence of such calls
from the state left by `readersInit`. The connections of the state a run reaches are what the
connection machine makes of the log of the run, and all steps of the machine on the way are legal
(`run_conn`): an invariant of the legal steps of the machine is an invariant of the library, also if
the program changes the setting between the calls (`Reachable.inv`).
-/

namespace TagEventor
open Machine

/-- Where it is made, the connection phase does what it does. -/
lemma connectIfAutomatic_connects {env : Env} {w : World} :
    Connects w (connectIfAutomatic env w).2 := by
  unfold connectIfAutomatic
  split
  · exact readersConnect_connects
  · exact .refl

/-- `readersGetTagList` stops in the connection phase, or collects the answers of the drivers. -/
lemma readersGetTagList_cases {env : Env} {w : World} (h : w.readerManager.hContext ≠ none) :
    ((connectIfAutomatic env w).1 ≠ SCARD_S_SUCCESS ∧
      readersGetTagList env w = connectIfAutomatic env w) ∨
    (connectIfAutomatic env w).1 = SCARD_S_SUCCESS ∧
      readersGetTagList env w =
        readTags env (connectIfAutomatic env w).1 (connectIfAutomatic env w).2 := by
  unfold readersGetTagList
  rw [if_neg h]
  rcases he : connectIfAutomatic env w with ⟨rv, w1⟩
  by_cases hrv : rv = SCARD_S_SUCCESS
  · exact .inr ⟨hrv, by simp [hrv]⟩
  · exact .inl ⟨hrv, by simp [hrv]⟩

/-- `readersGetTagList` refines the machine and keeps the context. -/
theorem readersGetTagList_manages {env : Env} {w : World} :
    Manages w (readersGetTagList env w).2 ∧
      (readersGetTagList env w).2.readerManager.hContext = w.readerManager.hContext := by
  by_cases h : w.readerManager.hContext = none
  · simp only [readersGetTagList, if_pos h]
    exact ⟨.refl, trivial⟩
  have hc := @connectIfAutomatic_connects env w
  obtain ⟨_, e⟩ | ⟨_, e⟩ := @readersGetTagList_cases env _ h
  · rw [e]
    exact ⟨hc.toManages, hc.hContext⟩
  · rw [e]
    obtain ⟨lists, hl⟩ := @readTags_collected env (connectIfAutomatic env w).2
      (connectIfAutomatic env w).1
    exact ⟨hc.toManages.trans hl.reads.toManages, hl.reads.hContext.trans hc.hContext⟩

/-- The functions of the library. -/
inductive Op where
  | readersManagerConnect
  | readersConnect
  | readersGetTagList
  | readersDisconnect
  | readersManagerDisconnect
deriving DecidableEq

/-- A call of a function of the library. -/
def Op.exec (env : Env) : Op → World → World
  | readersManagerConnect, w => (TagEventor.readersManagerConnect env w).2
  | readersConnect, w => (TagEventor.readersConnect env w).2
  | readersGetTagList, w => (TagEventor.readersGetTagList env w).2
  | readersDisconnect, w => TagEventor.readersDisconnect env w
  | readersManagerDisconnect, w => (TagEventor.readersManagerDisconnect env w).2

/-- The state after a sequence of calls. -/
def run (env : Env) (readerSetting : BitVec 32) (ops : List Op) : World :=
  ops.foldl (fun w op => op.exec env w) (.init readerSetting)

/-- Every call of the library moves the connections legally. -/
lemma exec_manages {env : Env} {op : Op} {w : World} : Manages w (op.exec env w) := by
  cases op with
  | readersManagerConnect => exact readersManagerConnect_prepares.toManages
  | readersConnect => exact readersConnect_connects.toManages
  | readersGetTagList => exact readersGetTagList_manages.1
  | readersDisconnect => exact readersDisconnect_connects.toManages
  | readersManagerDisconnect => exact readersManagerDisconnect_manages

/-- The log of a run begins with the logs of its first calls. -/
lemma run_take_log {env : Env} {setting ops k} :
    (run env setting (ops.take k)).log <+: (run env setting ops).log := by
  have e : run env setting ops =
      (ops.drop k).foldl (fun w op => op.exec env w) (run env setting (ops.take k)) := by
    rw [run, run, ← List.foldl_append, List.take_append_drop]
  have rest : Manages (run env setting (ops.take k))
      ((ops.drop k).foldl (fun w op => op.exec env w) (run env setting (ops.take k))) :=
    Loop.foldl_path (fun _ => .refl) (fun h h' => h.trans h')
      (fun op _ w => @exec_manages env op w) _
  obtain ⟨l, hl⟩ := rest.log
  rw [e, hl]
  exact List.prefix_append _ _

/-- The machine replays its log, by legal steps only. -/
lemma Follows.replay {s : Conn} (h : Follows .init s) :
    s = s.log.foldl Conn.next .init ∧ Meets Conn.next Conn.Legal .init s.log := by
  obtain ⟨l, rfl, hl⟩ := h
  have e : (l.foldl Conn.next .init).log = l := by simp [Conn.foldl_next_log, Conn.init]
  rw [e]
  exact ⟨rfl, hl⟩

/-- The connections after a run are what the machine makes of the log. -/
theorem run_conn {env : Env} {setting ops} : Follows .init (run env setting ops).conn :=
  (Loop.foldl_path (R := Manages) (fun _ => .refl) (fun h h' => h.trans h')
    (fun _ _ _ => exec_manages) (World.init setting)).conn

/-- A run whose calls all meet a condition establishes the invariants of the steps that do. -/
lemma run_inv {P : Conn → Call → Prop} {I : Conn → Prop} (init : I .init)
    (step : ∀ s c, I s → s.Legal c → P s c → I (s.next c)) {env : Env} {setting ops}
    (h : Meets Conn.next P .init (run env setting ops).log) : I (run env setting ops).conn := by
  obtain ⟨e, legal⟩ := (@run_conn env setting ops).replay
  rw [e]
  exact (legal.and h).inv (fun s c hs hc => step s c hs hc.1 hc.2) init

/-- The states at the calls of a program that uses the library. What the program does between two
calls leaves the connections alone: it changes the setting, say, or takes the list of tags. -/
inductive Reachable (env : Env) : World → Prop where
  | init {setting} :
    Reachable env (.init setting)
  | call {w} {op : Op} :
    Reachable env w →
    Reachable env (op.exec env w)
  | between {w w'} :
    Reachable env w →
    w'.conn = w.conn →
    Reachable env w'

/-- The end of a run is reachable. -/
lemma reachable_run {env : Env} {setting ops} : Reachable env (run env setting ops) :=
  Loop.foldl_inv (I := Reachable env) (fun _ _ _ h => .call h) .init

/-- An invariant of the legal steps of the machine holds in every reachable state. -/
lemma Reachable.inv {I : Conn → Prop} (init : I .init)
    (step : ∀ s c, I s → s.Legal c → I (s.next c)) {env : Env} {w} (h : Reachable env w) :
    I w.conn := by
  induction h with
  | init => exact init
  | call _ ih =>
    obtain ⟨l, e, legal⟩ := exec_manages.conn
    rw [e]
    exact legal.inv step ih
  | between _ same ih => exact same ▸ ih

/-- Two readers of the kind the driver supports. -/
def acr0 : ReaderName := ⟨"ACS ACR 38U-CCID 00".toList, by decide⟩
/-- The name of a second supported reader. -/
def acr1 : ReaderName := ⟨"ACS ACR 38U-CCID 01".toList, by decide⟩

/-- The firmware string of the supported kind. -/
def acr122Firmware : List BYTE := [0x41, 0x43, 0x52, 0x31, 0x32, 0x32, 0x55]

/-- The answer to a poll for tags: the UID of the tag that is found, if there is one. -/
def pollAnswer : Option (List BYTE) → List BYTE
  | none => [0xD5, 0x4B, 0]
  | some uid => [0xD5, 0x4B, 1, 1, 0, 4, 8, UInt8.ofNat uid.length] ++ uid

/-- An outside in which nothing fails: pcscd lists `names`, and the reader in a slot finds the tag
whose UID is `tag`. -/
def plain (names : List ReaderName) (tag : List Call → Nat → Option (List BYTE)) : Env where
  SCardEstablishContext _ := (SCARD_S_SUCCESS, 1)
  SCardReleaseContext _ := SCARD_S_SUCCESS
  SCardListReaders _ := (SCARD_S_SUCCESS, names)
  SCardConnect _ _ _ := SCARD_S_SUCCESS
  SCardDisconnect _ _ := SCARD_S_SUCCESS
  SCardStatus _ _ := (SCARD_S_SUCCESS, [0x3B, 0x00])
  SCardTransmit log slot send :=
    if send = APDU_GET_READER_FIRMWARE then (SCARD_S_SUCCESS, acr122Firmware)
    else if send.take 4 = APDU_GET_RESPONSE then (SCARD_S_SUCCESS, pollAnswer (tag log slot))
    else (SCARD_S_SUCCESS, [SW1_SUCCESS, 0x0A])
  stack _ _ _ := 0
  stale _ := []

/-- The calls of `SCardListReaders` that ask for the names. -/
def enumerations (log : List Call) : Nat :=
  log.countP fun
    | .SCardListReaders (some _) _ _ => true
    | _ => false

end TagEventor
