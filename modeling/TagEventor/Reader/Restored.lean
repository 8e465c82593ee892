import Mathlib.Data.Set.Basic
import TagEventor.Reader.Hangup
import TagEventor.Reader.Enumerated

/-!
# What a hangup restores

`handleSignal` on `SIGHUP` disconnects the readers and connects to them again. The disconnection
resets the slots, their names included, and only the enumeration of the AUTO mode writes the names
again. If nothing else goes wrong (`Steady`), the connected readers are restored exactly in AUTO
mode (`hangup_restores_iff`).
-/

namespace TagEventor
open Loop

/-- An answer that does not list the readers `names`, refuses to connect to one of them, or comes
from a driver that does not accept its reader. -/
def Call.unsteady (names : List ReaderName) : Call → Bool
  | .SCardListReaders _ rv listed => rv ≠ SCARD_S_SUCCESS ∨ listed ≠ names
  | .SCardConnect _ (some name) rv _ => names.any (·.val = name) ∧ rv ≠ SCARD_S_SUCCESS
  | .readerCheck _ rv supported => rv ≠ SCARD_S_SUCCESS ∨ supported = false
  | _ => false

/-- The readers are those of the list all the time, can be connected to, and are accepted. -/
def Steady (names : List ReaderName) (calls : List Call) : Prop :=
  ∀ c ∈ calls, c.unsteady names = false

instance {names calls} : Decidable (Steady names calls) :=
  inferInstanceAs (Decidable (∀ c ∈ calls, _))

/-- The outside is steady during some calls iff it is during their parts. -/
lemma steady_append {names} {l l' : List Call} :
    Steady names (l ++ l') ↔ Steady names l ∧ Steady names l' := List.forall_mem_append

/-- The calls the handler of a hangup makes. -/
def hangupCalls (env : Env) (w : World) : List Call := (handleSIGHUP env w).log.drop w.log.length

/-- The slots after an enumeration that lists `names`. -/
structure Lists (names : List ReaderName) (w w' : World) : Prop where
  nbReaders : w'.readerManager.nbReaders = names.length
  named : ∀ i, ∀ hi : i < names.length, w'.conn.Named i names[i].val
  hCard : ∀ i < names.length, (w'.reader i).hCard = (w.reader i).hCard

/-- An enumeration in a steady outside succeeds. -/
lemma readersEnumerate_steady {env : Env} {w : World} {names} :
    ∃ l, (readersEnumerate env w).2.log = w.log ++ l ∧ (Steady names l →
      (readersEnumerate env w).1 = SCARD_S_SUCCESS ∧ Lists names w (readersEnumerate env w).2) := by
  have outcome := @readersEnumerate_outcome env w
  generalize readersEnumerate env w = x at outcome ⊢
  cases outcome with
  | failed error =>
    refine ⟨_, rfl, fun steady => ?_⟩
    have h := steady _ (List.mem_singleton_self _)
    simp [Call.unsteady, error] at h
  | noReaders =>
    refine ⟨_, rfl, fun steady => ?_⟩
    have h := steady _ (List.mem_singleton_self _)
    simp [Call.unsteady, SCARD_E_NO_READERS_AVAILABLE, SCARD_S_SUCCESS] at h
  | renewed error =>
    refine ⟨_, List.append_assoc .., fun steady => ?_⟩
    have h := steady _ (List.mem_append_right _ (List.mem_singleton_self _))
    simp [Call.unsteady, error] at h
  | @relisted listed size success =>
    have e := @relisted_eq (w.record (.SCardListReaders none SCARD_S_SUCCESS listed)) size
      (namesListed env w).2
    have log : ((w.record (.SCardListReaders none SCARD_S_SUCCESS listed)).relisted size
        (namesListed env w).2).log = w.log ++ [.SCardListReaders none SCARD_S_SUCCESS listed,
          .SCardListReaders (some size) SCARD_S_SUCCESS (namesListed env w).2] := by
      rw [e]
      exact List.append_assoc ..
    refine ⟨_, log, fun steady => ⟨rfl, ?_⟩⟩
    have h := steady (.SCardListReaders (some size) SCARD_S_SUCCESS (namesListed env w).2) (by simp)
    have listed : (namesListed env w).2 = names := by simpa [Call.unsteady] using h
    rw [listed] at e ⊢
    refine ⟨by rw [e], fun i hi => (relisted_named hi).1, fun i hi => (relisted_named hi).2⟩

/-- The calls of a function that starts with the enumeration of the AUTO mode are steady: so are
those after the enumeration, which succeeds. -/
lemma enumerateIfAutomatic_steady {env : Env} {w w' : World} {names l l2}
    (auto : w.readerManager.automatic = true) (log : w'.log = w.log ++ l)
    (after : w'.log = (enumerateIfAutomatic env w).2.log ++ l2) (steady : Steady names l) :
    (enumerateIfAutomatic env w).1 = SCARD_S_SUCCESS ∧
      Lists names w (enumerateIfAutomatic env w).2 ∧ Steady names l2 := by
  have enumerate : enumerateIfAutomatic env w = readersEnumerate env w := if_pos auto
  obtain ⟨l1, log1, lists⟩ := @readersEnumerate_steady env w names
  have calls : l = l1 ++ l2 := by
    rw [enumerate, log1, log, List.append_assoc] at after
    exact List.append_cancel_left after
  rw [calls, steady_append] at steady
  rw [enumerate]
  obtain ⟨success, lists⟩ := lists steady.1
  exact ⟨success, lists, steady.2⟩

/-- The reader in a slot is connected, and a driver handles it. -/
structure Driven (w : World) (i : Nat) : Prop where
  hCard : (w.reader i).hCard ≠ none
  pDriver : (w.reader i).pDriver ≠ none

/-- In a steady outside the driver accepts the reader. -/
lemma Checks.steady {env : Env} {i} {w w' : World} {r} (h : Checks env i w w' r)
    (rv : LONG) (supported : Bool) (names : List ReaderName) :
    ∃ l, w'.log ++ [.readerCheck i rv supported] = w.log ++ l ∧
      (Steady names l → rv = SCARD_S_SUCCESS ∧ supported = true) := by
  obtain ⟨hCard, l, _, _, hlog⟩ := h.log
  refine ⟨_, by rw [hlog, List.append_assoc], fun steady => ?_⟩
  have answer := steady (.readerCheck i rv supported) (by simp)
  simpa [Call.unsteady] using answer

/-- A round of the loop of `readersConnect` for a listed reader in a steady outside. -/
lemma connectReader_steady {env : Env} {i} {w : World} {names} {name : ReaderName}
    (free : (w.reader i).hCard = none) (wanted : w.readerManager.wanted i = true)
    (named : w.conn.Named i name.val) (listed : name ∈ names) :
    ∃ l, (connectReader env i w).2.log = w.log ++ l ∧ (Steady names l →
      (connectReader env i w).1 = none ∧ Driven (connectReader env i w).2 i ∧
        ((connectReader env i w).2.reader i).name = (w.reader i).name) := by
  have text := @nameText_of_named env _ _ _ named
  have outcome := @connectReader_outcome env i w
  generalize connectReader env i w = x at outcome ⊢
  cases outcome with
  | skipped unwanted => exact absurd ⟨free, wanted⟩ unwanted
  | @unconnected rv _ error =>
    refine ⟨[.SCardConnect i (w.nameText env i) rv none], rfl, fun steady => ?_⟩
    have h := steady _ (List.mem_singleton_self _)
    rw [text] at h
    have mem : names.any (·.val = name.val) = true :=
      List.any_eq_true.2 ⟨name, listed, decide_eq_true rfl⟩
    simp only [Call.unsteady, mem, error, ne_eq, not_false_eq_true, and_self, decide_true] at h
    cases h
  | @failed w' r rv supported checks error =>
    obtain ⟨l, hlog, hl⟩ := checks.steady rv supported names
    exact ⟨l, hlog, fun steady => absurd (hl steady).1 error⟩
  | unsupported checks =>
    obtain ⟨l, hlog, hl⟩ := checks.steady SCARD_S_SUCCESS false names
    exact ⟨l, hlog, fun steady => absurd (hl steady).2 nofun⟩
  | @accepted w' r checks =>
    obtain ⟨l, hlog, _⟩ := checks.steady SCARD_S_SUCCESS true names
    have self : ∀ r' : tReader, ((((w'.record (.readerCheck i SCARD_S_SUCCESS true)).setReader i
        r').eventDispatch .READER_DETECTED i).reader i) = r' := fun _ => reader_setReader
    have slot := checks.checked.slot
    obtain ⟨hCard, opened⟩ := checks.reader
    refine ⟨l, hlog, fun _ => ⟨rfl, ⟨?_, ?_⟩, ?_⟩⟩
    · rw [self]
      exact (congrArg Slot.hCard slot).trans_ne checks.hCard
    · rw [self]
      nofun
    · rw [self]
      refine (congrArg Slot.name slot).trans ?_
      show (w'.reader i).name = _
      rw [opened]

/-- The state of the loop of `readersConnect` after `n` rounds in a steady outside. -/
structure Connecting (names : List ReaderName) (w : World) (n : Nat) (s : World) (l : List Call) :
    Prop where
  log : s.log = w.log ++ l
  mszReaders : s.readerManager.mszReaders = w.readerManager.mszReaders
  readerSetting : s.readerManager.readerSetting = w.readerManager.readerSetting
  others : ∀ j ≥ n, s.reader j = w.reader j
  driven : Steady names l → ∀ j < n, Driven s j ∧ (s.reader j).name = (w.reader j).name

/-- Whether a reader is driven depends on its slot only. -/
lemma Driven.congr {w w' : World} {i} (h : Driven w i) (e : w'.reader i = w.reader i) :
    Driven w' i := ⟨by rw [e]; exact h.hCard, by rw [e]; exact h.pDriver⟩

/-- A name stays where it is if the pointer to it and the buffer do. -/
lemma Conn.Named.of_name {w w' : World} {i name} (h : w.conn.Named i name)
    (hn : (w'.reader i).name = (w.reader i).name)
    (hm : w'.readerManager.mszReaders = w.readerManager.mszReaders) : w'.conn.Named i name := by
  obtain ⟨p, hp, msz, hmsz, designates⟩ := h
  exact ⟨p, hn.trans hp, msz, hm.trans hmsz, designates⟩

/-- A round of the loop in AUTO mode. -/
lemma Connecting.round (env : Env) {w s : World} {names : List ReaderName} {i l}
    (h : Connecting names w i s l) (hi : i < names.length)
    (auto : w.readerManager.automatic = true) (named : w.conn.Named i names[i].val)
    (free : (w.reader i).hCard = none) :
    ∃ l', Connecting names w (i + 1) (connectReader env i s).2 (l ++ l') ∧
      (Steady names l' → (connectReader env i s).1 = none) := by
  have self := h.others i (Nat.le_refl i)
  have wanted : s.readerManager.wanted i = true := by
    rw [wanted_congr h.readerSetting]
    exact Bool.or_eq_true_iff.2 (.inl auto)
  obtain ⟨l', log, driven⟩ := @connectReader_steady env i s names names[i] (self ▸ free) wanted
    (named.congr self h.mszReaders) (List.getElem_mem hi)
  obtain ⟨_, calls⟩ := @connectReader_log env i s
  obtain ⟨_, mszReaders, readerSetting⟩ := @connectReader_frame env i s
  refine ⟨l', ?_, fun steady => (driven steady).1⟩
  exact
    { log := by rw [log, h.log, List.append_assoc]
      mszReaders := mszReaders.trans h.mszReaders
      readerSetting := readerSetting.trans h.readerSetting
      others := fun j hj => (calls.others j (Nat.ne_of_gt hj)).trans
        (h.others j (Nat.le_of_succ_le hj))
      driven := fun steady j hj => by
        obtain ⟨before, now⟩ := steady_append.1 steady
        rcases Nat.lt_succ_iff_lt_or_eq.1 hj with hj | rfl
        · have same := calls.others j (Nat.ne_of_lt hj)
          obtain ⟨d, name⟩ := h.driven before j hj
          exact ⟨d.congr same, (congrArg tReader.name same).trans name⟩
        · obtain ⟨_, d, name⟩ := driven now
          exact ⟨d, name.trans (congrArg tReader.name self)⟩ }

/-- The loop of `readersConnect` in AUTO mode over listed readers, none of which is connected. -/
lemma connectLoop_steady {env : Env} {w : World} {names : List ReaderName}
    (auto : w.readerManager.automatic = true)
    (named : ∀ i, ∀ hi : i < names.length, w.conn.Named i names[i].val)
    (free : ∀ i < names.length, (w.reader i).hCard = none) :
    let x := scan (connectReader env) (List.range names.length) w
    ∃ l, x.2.log = w.log ++ l ∧ (Steady names l →
      ∀ i, ∀ hi : i < names.length, Driven x.2 i ∧ x.2.conn.Named i names[i].val) := by
  have start : Connecting names w 0 w [] :=
    ⟨(List.append_nil _).symm, rfl, rfl, fun _ _ => rfl, nofun⟩
  have step : ∀ i < names.length, ∀ s t, (∃ l, Connecting names w i s l) →
      connectReader env i s = (none, t) → ∃ l, Connecting names w (i + 1) t l := by
    rintro i hi s t ⟨l, h⟩ e
    obtain ⟨l', h', _⟩ := h.round env hi auto (named i hi) (free i hi)
    rw [e] at h'
    exact ⟨_, h'⟩
  rcases scan_range (I := fun n t => ∃ l, Connecting names w n t l) ⟨[], start⟩ step with
    ⟨t, e, l, h⟩ | ⟨i, hi, u, r, t, ⟨l, h⟩, he, e⟩
  · rw [e]
    refine ⟨l, h.log, fun steady i hi => ?_⟩
    obtain ⟨driven, name⟩ := h.driven steady i hi
    exact ⟨driven, (named i hi).of_name name h.mszReaders⟩
  · -- a round returns only if its reader is not accepted
    obtain ⟨l', h', ret⟩ := h.round env hi auto (named i hi) (free i hi)
    rw [he] at h' ret
    rw [e]
    refine ⟨l ++ l', h'.log, fun steady => ?_⟩
    cases ret (steady_append.1 steady).2

/-- In AUTO mode `readersConnect` connects to all listed readers, if none of them is connected. -/
lemma readersConnect_steady {env : Env} {w : World} {names : List ReaderName} {l}
    (auto : w.readerManager.automatic = true)
    (free : ∀ i < names.length, (w.reader i).hCard = none)
    (log : (readersConnect env w).2.log = w.log ++ l) (steady : Steady names l) :
    ∀ i, ∀ hi : i < names.length,
      Driven (readersConnect env w).2 i ∧ (readersConnect env w).2.conn.Named i names[i].val := by
  intro i hi
  obtain ⟨l2, after⟩ := @readersConnect_log env w
  obtain ⟨success, lists, steady⟩ := enumerateIfAutomatic_steady auto log after steady
  have setting := (@enumerateIfAutomatic_connects env w).readerSetting
  have outcome := @readersConnect_outcome env w
  generalize readersConnect env w = x at after outcome ⊢
  generalize enumerateIfAutomatic env w = x1 at success lists setting after outcome
  obtain ⟨rv, w1⟩ := x1
  cases outcome with
  | failed error => exact absurd success error
  | noReaders _ zero => exact absurd (lists.nbReaders.symm.trans zero) (Nat.ne_zero_of_lt hi)
  | @looped ret w2 _ _ loop =>
    obtain ⟨l', calls, driven⟩ := @connectLoop_steady env w1 names
      ((automatic_congr setting).trans auto) lists.named
      fun i hi => (lists.hCard i hi).trans (free i hi)
    rw [lists.nbReaders] at loop
    rw [loop] at calls driven
    have rest : l2 = l' := List.append_cancel_left (after.symm.trans calls)
    exact driven (rest ▸ steady) i hi

/-- In AUTO mode `readersDisconnect` disconnects from all listed readers. -/
lemma readersDisconnect_steady {env : Env} {w : World} {names : List ReaderName} {l}
    (context : w.readerManager.hContext ≠ none) (auto : w.readerManager.automatic = true)
    (log : (readersDisconnect env w).log = w.log ++ l) (steady : Steady names l) :
    ∀ i < names.length, ((readersDisconnect env w).reader i).hCard = none := by
  intro i hi
  obtain ⟨l2, after⟩ := @readersDisconnect_log env w context
  obtain ⟨success, lists, _⟩ := enumerateIfAutomatic_steady auto log after steady
  obtain ⟨error, _⟩ | ⟨_, e⟩ := @readersDisconnect_cases env w context
  · exact absurd success error
  rw [e, (@disconnectLoop_readers env _ _ i).2 (lists.nbReaders ▸ hi)]
  split
  next free => exact free
  next => rfl

/-- A slot that was reset stays so: without a name there is nothing to connect to. -/
lemma connectReader_reset {env : Env} {i j} {w : World} (reset : w.reader i = .reset) :
    (connectReader env j w).2.reader i = .reset := by
  by_cases hij : i = j
  swap
  · obtain ⟨_, calls⟩ := @connectReader_log env j w
    exact (calls.others i hij).trans reset
  subst hij
  have nameless : w.nameText env i = none := by
    rw [World.nameText, reset]
    rfl
  have unnamed : ∀ {w' r}, ¬ Checks env i w w' r := fun checks => by
    obtain ⟨h, _, hn, _⟩ := checks.log
    rw [nameless] at hn
    cases hn
  have outcome := @connectReader_outcome env i w
  generalize connectReader env i w = x at outcome ⊢
  cases outcome with
  | skipped => exact reset
  | unconnected => exact reader_setReader
  | failed checks => exact absurd checks unnamed
  | unsupported checks => exact absurd checks unnamed
  | accepted checks => exact absurd checks unnamed

/-- Without AUTO mode a connected reader that is disconnected is not connected to again: its slot
has lost the name. -/
lemma handleSIGHUP_loses {env : Env} {w : World} {i} (context : w.readerManager.hContext ≠ none)
    (manual : ¬ w.readerManager.automatic = true) (hi : i < w.readerManager.nbReaders)
    (connected : (w.reader i).hCard ≠ none) : ((handleSIGHUP env w).reader i).hCard = none := by
  have disconnected : (readersDisconnect env w).reader i = .reset := by
    have cases := @readersDisconnect_cases env w context
    rw [enumerateIfAutomatic, if_neg manual] at cases
    rcases cases with ⟨error, _⟩ | ⟨_, e⟩
    · exact absurd rfl error
    · rw [e, (@disconnectLoop_readers env w _ i).2 hi, if_neg connected]
  have setting := (@readersDisconnect_connects env w).readerSetting
  unfold handleSIGHUP
  generalize readersDisconnect env w = w1 at disconnected setting ⊢
  suffices h : (readersConnect env w1).2.reader i = .reset by rw [h]; rfl
  have manual : ¬ w1.readerManager.automatic = true := by rwa [automatic_congr setting]
  have outcome := @readersConnect_outcome env w1
  rw [enumerateIfAutomatic, if_neg manual] at outcome
  generalize readersConnect env w1 = x at outcome ⊢
  cases outcome with
  | failed => exact disconnected
  | noReaders => exact disconnected
  | looped _ _ loop =>
    have rounds := @scan_inv _ _ _ (fun s : World => s.reader i = .reset) (connectReader env)
      (List.range w1.readerManager.nbReaders) w1 (fun _ _ _ => connectReader_reset) disconnected
    rw [loop] at rounds
    exact rounds

/-- The slots in `C` are connected to listed readers that a driver handles and that are wanted. -/
structure Holding (w : World) (C : Set Nat) (names : List ReaderName) : Prop where
  nbReaders : w.readerManager.nbReaders = names.length
  driven : ∀ i ∈ C, Driven w i
  wanted : ∀ i ∈ C, w.readerManager.wanted i = true
  listed : ∀ i ∈ C, ∃ hi : i < names.length, w.conn.Named i names[i].val

/-- The reader in a slot is connected, and has the name and the driver it had. -/
structure Restored (env : Env) (w w' : World) (i : Nat) : Prop where
  hCard : (w'.reader i).hCard ≠ none
  pDriver : (w'.reader i).pDriver = (w.reader i).pDriver
  name : w'.nameText env i = w.nameText env i

/-- There is but one driver. -/
lemma Driven.same {w w' : World} {i} (h : Driven w i) (h' : Driven w' i) :
    (w'.reader i).pDriver = (w.reader i).pDriver := by
  obtain ⟨driver, e⟩ := Option.ne_none_iff_exists'.1 h.pDriver
  obtain ⟨driver', e'⟩ := Option.ne_none_iff_exists'.1 h'.pDriver
  cases driver with
  | acr122U =>
    cases driver' with
    | acr122U => rw [e, e']

/-- In a steady outside a hangup restores the connected readers exactly in AUTO mode. -/
theorem hangup_restores_iff {env : Env} {w : World} {C : Set Nat} {names : List ReaderName}
    (context : w.readerManager.hContext ≠ none) (holding : Holding w C names)
    (steady : Steady names (hangupCalls env w)) :
    (∀ i ∈ C, Restored env w (handleSIGHUP env w) i) ↔
      w.readerManager.automatic = true ∨ C = ∅ := by
  constructor
  · intro restored
    by_cases auto : w.readerManager.automatic = true
    · exact .inl auto
    · refine .inr (Set.eq_empty_of_forall_notMem fun i hi => ?_)
      obtain ⟨lt, _⟩ := holding.listed i hi
      exact (restored i hi).hCard (handleSIGHUP_loses context auto (holding.nbReaders ▸ lt)
        (holding.driven i hi).hCard)
  · rintro (auto | rfl)
    swap
    · exact nofun
    intro i hi
    obtain ⟨lt, named⟩ := holding.listed i hi
    -- the calls of the handler are those of its two functions
    obtain ⟨l1, hlog1⟩ := (@readersDisconnect_connects env w).toManages.log
    obtain ⟨l2, hlog2⟩ := (@readersConnect_connects env (readersDisconnect env w)).toManages.log
    have calls : hangupCalls env w = l1 ++ l2 := by
      rw [hangupCalls, handleSIGHUP, hlog2, hlog1, List.append_assoc, List.drop_left]
    rw [calls, steady_append] at steady
    have free := readersDisconnect_steady context auto hlog1 steady.1
    have setting := (@readersDisconnect_connects env w).readerSetting
    obtain ⟨driven, named'⟩ := readersConnect_steady ((automatic_congr setting).trans auto) free
      hlog2 steady.2 i lt
    have name := @nameText_of_named env _ _ _ named
    have name' := @nameText_of_named env _ _ _ named'
    exact ⟨driven.hCard, (holding.driven i hi).same driven, name'.trans name.symm⟩

/-- In AUTO mode two connected readers are restored. -/
theorem hangup_restores_two :
    let w := run twoListed READER_BIT_AUTO [.readersManagerConnect, .readersConnect]
    ∀ i ∈ ({0, 1} : Set Nat), Restored twoListed w (handleSIGHUP twoListed w) i := by
  refine (@hangup_restores_iff twoListed _ {0, 1} [acr0, acr1] (by decide +kernel) ?_
    (by decide +kernel)).2 (.inl (by decide +kernel))
  refine ⟨by decide +kernel, ?_, ?_, ?_⟩
  · rintro i (rfl | rfl)
    · exact ⟨by decide +kernel, by decide +kernel⟩
    · exact ⟨by decide +kernel, by decide +kernel⟩
  · rintro i (rfl | rfl)
    · decide +kernel
    · decide +kernel
  · rintro i (rfl | rfl)
    · exact ⟨by decide, by decide +kernel⟩
    · exact ⟨by decide, by decide +kernel⟩

/-- If the readers are chosen by their numbers, the connected reader is lost. -/
theorem hangup_loses_chosen :
    let w := run twoListed 2#32 [.readersManagerConnect, .readersConnect]
    w.readerManager.hContext ≠ none ∧ Holding w {0} [acr0, acr1] ∧
      Steady [acr0, acr1] (hangupCalls twoListed w) ∧
      ¬ ∀ i ∈ ({0} : Set Nat), Restored twoListed w (handleSIGHUP twoListed w) i := by
  refine ⟨by decide +kernel, ⟨by decide +kernel, ?_, ?_, ?_⟩, by decide +kernel, fun h => ?_⟩
  · rintro i rfl
    exact ⟨by decide +kernel, by decide +kernel⟩
  · rintro i rfl
    decide +kernel
  · rintro i rfl
    exact ⟨by decide, by decide +kernel⟩
  · exact (h 0 rfl).hCard (by decide +kernel)

end TagEventor
