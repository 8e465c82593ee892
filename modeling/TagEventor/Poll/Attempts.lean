import TagEventor.Poll.Context
import TagEventor.Reader.Attempts

/-!
# Which readers a poll tries

In AUTO mode a poll tries to connect to every reader that pcscd lists and that is not connected,
except for those behind a reader that a driver refuses: the refusal ends the connection phase. With
a fixed set of reader numbers there is no connection phase once there is a context.
-/

namespace TagEventor

/-- The calls of the connection phase of a poll: those before the readers are read. -/
def connectCalls (env : Env) (callBack : Bool) (w : World) : List Call :=
  (connectIfAutomatic env (w.shifted env callBack)).2.log.drop w.log.length

/-- The readers that pcscd lists: when the poll asks for them in AUTO mode, else at its start. -/
def currentList (env : Env) (w : World) : List ReaderName :=
  let answer := if w.readerManager.automatic then namesListed env w else env.SCardListReaders w.log
  if answer.1 = SCARD_S_SUCCESS then answer.2 else []

/-- A reader that is listed under a name, wanted, and not connected. -/
def Pending (env : Env) (w : World) (i : Nat) (name : ReaderName) : Prop :=
  name ∈ (currentList env w)[i]? ∧ w.readerManager.wanted i = true ∧ (w.reader i).hCard = none

instance (env : Env) (w : World) (i : Nat) (name : ReaderName) : Decidable (Pending env w i name) :=
  inferInstanceAs (Decidable (_ ∧ _))

/-- The poll calls `SCardConnect` with the name of every pending reader, unless a call failed
before. -/
def TriesPending (env : Env) (callBack : Bool) (w : World) : Prop :=
  ∀ i < MAX_NUM_READERS, ∀ name, Pending env w i name →
    (∃ c ∈ pollCalls env callBack w, c.attempts i (some name.val) = true) ∨
      ∃ c ∈ connectCalls env callBack w, c.failed = true

/-- Readers are pending in AUTO mode only, and if a driver refuses a reader before one of them, then
because a call failed. -/
def RefusesLast (env : Env) (callBack : Bool) (w : World) : Prop :=
  ∀ i < MAX_NUM_READERS, ∀ name ∈ (currentList env w)[i]?, Pending env w i name →
    w.readerManager.automatic = true ∧
      ((∃ s < i, ∃ c ∈ connectCalls env callBack w, c.refuses s = true) →
        ∃ c ∈ connectCalls env callBack w, c.failed = true)

instance (env : Env) (callBack : Bool) (w : World) : Decidable (RefusesLast env callBack w) :=
  inferInstanceAs (Decidable (∀ i < MAX_NUM_READERS, ∀ name ∈ (currentList env w)[i]?, _))

/-- The log of a poll: first the calls of the connection phase. -/
lemma pollTagLists_log {env : Env} {callBack} {w : World}
    (hc : connected env callBack w = true) :
    ∃ l, (tagListCheck env callBack w).log =
      (connectIfAutomatic env (w.shifted env callBack)).2.log ++ l := by
  rw [tagListCheck_uids.2]
  obtain ⟨_, after⟩ | ⟨lists, collected⟩ := connected_outcome hc
  · exact after.toManages.log
  · exact collected.reads.toManages.log

/-- With a context a poll begins by shifting the tag lists. -/
lemma shifted_of_context {env : Env} {callBack} {w : World}
    (context : w.readerManager.hContext ≠ none) : w.shifted env callBack = w.shiftTagLists := by
  rw [World.shifted, connectPcscd_of_context context]

/-- With a context, a poll tries every reader that is listed, wanted and not connected (or meets a
failed call before), if there are such readers in AUTO mode only, and none of them is listed behind
a reader that a driver refuses. -/
theorem pending_tried_of_refusesLast {env : Env} {callBack setting n}
    (context : (polls env callBack setting n).readerManager.hContext ≠ none)
    (h : RefusesLast env callBack (polls env callBack setting n)) :
    TriesPending env callBack (polls env callBack setting n) := by
  generalize polls env callBack setting n = w at context h
  intro i hi name hp
  obtain ⟨auto, refused⟩ := h i hi name hp.1 hp
  obtain ⟨hname, -, hc⟩ := hp
  have shifts := @shiftTagLists_shifts w
  have hcon : connected env callBack w = true := by rw [connected, connectPcscd_of_context context]
  have hlog := @shiftTagLists_log w
  have hauto : w.shiftTagLists.readerManager.automatic = true := by
    rw [automatic_congr shifts.readerSetting, auto]
  have hcard : (w.shiftTagLists.reader i).hCard = none := by
    rw [show w.shiftTagLists.reader i = w.reader i from congrFun shifts.readers i, hc]
  have hnames : namesListed env w.shiftTagLists = namesListed env w := by
    simp only [namesListed, firstCall, hlog]
  obtain ⟨l, hl, tried⟩ := @readersConnect_attempts env w.shiftTagLists hauto
  have phase : (connectIfAutomatic env (w.shifted env callBack)).2.log = w.log ++ l := by
    rw [shifted_of_context context, connectIfAutomatic, if_pos hauto, hl, hlog]
  have hcalls : connectCalls env callBack w = l := by
    rw [connectCalls, phase, List.drop_left]
  obtain ⟨l', hpoll⟩ := pollTagLists_log hcon
  have hsub : ∀ c ∈ l, c ∈ pollCalls env callBack w := fun c hc => by
    rw [pollCalls, hpoll, phase, List.append_assoc, List.drop_left]
    exact List.mem_append_left _ hc
  rw [hcalls] at refused ⊢
  rw [hnames] at tried
  rcases tried with failed | ⟨hrv, tried⟩
  · exact .inr failed
  have hlist : currentList env w = (namesListed env w).2 := by
    simp only [currentList, auto, if_true, hrv]
  rw [hlist] at hname
  obtain ⟨hlt, hget⟩ := List.getElem?_eq_some_iff.1 hname
  rcases tried i hlt hcard with ⟨c, hmem, ha⟩ | stop
  · exact .inl ⟨c, hsub c hmem, hget ▸ ha⟩
  · exact .inr (refused stop)

/-- A second reader is plugged in after the first poll. -/
def grown : Env :=
  { plain [acr0] fun _ _ => none with
    SCardListReaders := fun log =>
      (SCARD_S_SUCCESS, if enumerations log < 3 then [acr0] else [acr0, acr1]) }

/-- The second poll tries the second reader. -/
theorem pending_tried_grown : TriesPending grown true (polls grown true READER_BIT_AUTO 1) :=
  pending_tried_of_refusesLast (by decide +kernel) (by decide +kernel)

/-- The only reader is plugged in after the context was established. -/
def pluggedLate : Env :=
  { plain [acr0] fun _ _ => none with
    SCardListReaders := fun log =>
      if log.length < 2 then (SCARD_E_NO_READERS_AVAILABLE, []) else (SCARD_S_SUCCESS, [acr0]) }

/-- With the setting for reader 0 only, the second poll does not try the reader, though it has a
context and no call of it fails. -/
theorem pending_untried_pluggedLate :
    (polls pluggedLate true 2#32 1).readerManager.hContext ≠ none ∧
      ¬ TriesPending pluggedLate true (polls pluggedLate true 2#32 1) := by
  refine ⟨by decide +kernel, fun h => ?_⟩
  rcases h 0 (by decide) acr0 (by decide +kernel) with tried | failed
  · exact absurd tried (by decide +kernel)
  · exact absurd failed (by decide +kernel)

end TagEventor
