import TagEventor.Reader.Enumerated
import TagEventor.Reader.Handles
import TagEventor.Reader.Hangup

/-!
# What a disconnection closes

`readersDisconnect` closes the readers one after the other, up to the number of readers. In AUTO
mode this is the number of readers pcscd lists at that time, none if it reports an error. A reader
that is connected and comes later is not closed (`closed_iff`).
-/

namespace TagEventor
open Loop

/-- How often a handle is passed to `SCardDisconnect`. -/
def closings (h : tCardHandle) (log : List Call) : Nat :=
  log.countP fun
    | .SCardDisconnect _ hCard _ => hCard = some h
    | _ => false

/-- The closings among some calls are those among their parts. -/
@[simp] lemma closings_append {h} {l l' : List Call} :
    closings h (l ++ l') = closings h l + closings h l' := List.countP_append

/-- A round of the loop closes the handle its slot holds. -/
lemma disconnectReader_closings {env : Env} {i h} {w : World} :
    closings h (disconnectReader env w i).log =
      closings h w.log + if (w.reader i).hCard = some h then 1 else 0 := by
  unfold disconnectReader
  split
  next connected =>
    have log : ((SCardDisconnect env i w).2.RESET_READER i).log =
        w.log ++ [.SCardDisconnect i (w.reader i).hCard (env.SCardDisconnect w.log i)] := rfl
    show closings h ((SCardDisconnect env i w).2.RESET_READER i).log = _
    rw [log, closings_append]
    by_cases e : (w.reader i).hCard = some h
    · simp [closings, e]
    · simp [closings, e]
  next free =>
    rw [not_not] at free
    simp [free]

/-- The loop closes every handle it meets once. -/
lemma disconnectLoop_closings {env : Env} {w : World} {n h} (inSlot : w.conn.InSlot) :
    closings h ((List.range n).foldl (disconnectReader env) w).log = closings h w.log +
      if h.slot < n ∧ (w.reader h.slot).hCard = some h then 1 else 0 := by
  induction n with
  | zero => simp
  | succ n ih =>
    have self := (@disconnectLoop_readers env w n n).1 (Nat.le_refl n)
    rw [List.range_succ, List.foldl_append, List.foldl_cons, List.foldl_nil,
      disconnectReader_closings, ih, self, Nat.add_assoc]
    congr 1
    by_cases e : (w.reader n).hCard = some h
    · have slot : h.slot = n := inSlot n h e
      simp [slot, e]
    · rw [if_neg e, Nat.add_zero]
      refine if_congr ?_ rfl rfl
      constructor
      · rintro ⟨lt, held⟩
        exact ⟨Nat.lt_succ_of_lt lt, held⟩
      · rintro ⟨le, held⟩
        rcases Nat.lt_succ_iff_lt_or_eq.1 le with lt | rfl
        · exact ⟨lt, held⟩
        · exact absurd held e

/-- How many readers pcscd lists when it is asked again: none if it reports an error, or if the list
has outgrown the buffer in the meantime. -/
def listedAgain (env : Env) (w : World) : Nat :=
  if (env.SCardListReaders w.log).1 = SCARD_S_SUCCESS ∧ (namesListed env w).1 = SCARD_S_SUCCESS ∧
      (multiString (namesListed env w).2).length ≤
        (multiString (env.SCardListReaders w.log).2).length then
    (namesListed env w).2.length
  else 0

/-- The number of slots `readersDisconnect` goes through. -/
def reached (env : Env) (w : World) : Nat :=
  if w.readerManager.automatic then listedAgain env w else w.readerManager.nbReaders

/-- The call for the names succeeds if pcscd lists them and they fit into the buffer. -/
lemma SCardListReaders_success {env : Env} {w : World} {size} :
    (SCardListReaders env (some size) w).1.1 = SCARD_S_SUCCESS ↔
      (env.SCardListReaders w.log).1 = SCARD_S_SUCCESS ∧
        (multiString (env.SCardListReaders w.log).2).length ≤ size := by
  unfold SCardListReaders
  simp only [Option.any_some, decide_eq_true_eq]
  split
  next small => exact iff_of_false (by decide) fun h => absurd small.1 (Nat.not_lt.2 h.2)
  next fits =>
    constructor
    · intro success
      exact ⟨success, Nat.not_lt.1 fun small => fits ⟨small, success⟩⟩
    · exact And.left

/-- An enumeration succeeds if pcscd lists the readers, and counts them. -/
lemma readersEnumerate_listedAgain {env : Env} {w : World} :
    ((readersEnumerate env w).1 = SCARD_S_SUCCESS →
      (readersEnumerate env w).2.readerManager.nbReaders = listedAgain env w) ∧
    ((readersEnumerate env w).1 ≠ SCARD_S_SUCCESS → listedAgain env w = 0) := by
  unfold readersEnumerate listedAgain
  rw [SCardListReaders_none]
  by_cases hrv : (env.SCardListReaders w.log).1 = SCARD_S_SUCCESS
  swap
  · simp only [if_pos hrv, hrv, false_and, if_false, implies_true, and_true]
    split
    next none => exact fun h => absurd (none.symm.trans h) (by decide)
    next => exact fun h => absurd h hrv
  simp only [ne_eq, hrv, not_true_eq_false, if_false, true_and]
  obtain ⟨rv, _, e⟩ := @SCardListReaders_some env
    ((w.record (firstCall env w)).freeMszReaders.mallocMszReaders)
    (multiString (env.SCardListReaders w.log).2).length
  have success := @SCardListReaders_success env
    ((w.record (firstCall env w)).freeMszReaders.mallocMszReaders)
    (multiString (env.SCardListReaders w.log).2).length
  rw [e] at success ⊢
  have names : env.SCardListReaders
      ((w.record (firstCall env w)).freeMszReaders.mallocMszReaders).log = namesListed env w := rfl
  rw [names] at success ⊢
  dsimp only at success ⊢
  simp only [← success]
  by_cases hrv : rv = SCARD_S_SUCCESS
  · subst hrv
    simp only [not_true_eq_false, if_false, if_true, false_implies, and_true]
    exact fun _ => congrArg (fun w : World => w.readerManager.nbReaders)
      (@relisted_eq (w.record (firstCall env w)) _ (namesListed env w).2)
  · simp only [hrv, not_false_eq_true, if_true, if_false, false_implies, implies_true, and_true]

/-- The handles after an enumeration: those of the listed readers stay, no slot gets a new one. -/
lemma readersEnumerate_hCard {env : Env} {w : World} (i) :
    let x := readersEnumerate env w
    (x.1 ≠ SCARD_S_SUCCESS ∨ i < x.2.readerManager.nbReaders →
      (x.2.reader i).hCard = (w.reader i).hCard) ∧
    ((x.2.reader i).hCard = (w.reader i).hCard ∨ (x.2.reader i).hCard = none) := by
  have outcome := @readersEnumerate_outcome env w
  generalize readersEnumerate env w = x at outcome ⊢
  cases outcome with
  | failed => exact ⟨fun _ => rfl, .inl rfl⟩
  | noReaders => exact ⟨fun _ => rfl, .inl rfl⟩
  | renewed => exact ⟨fun _ => rfl, .inl rfl⟩
  | @relisted names size success =>
    have e := @relisted_enumerated env (w.record (.SCardListReaders none SCARD_S_SUCCESS names))
      size (namesListed env w).2
    have listed (hi : i < (namesListed env w).2.length) := congrArg tReader.hCard (e.fields i hi)
    constructor
    · rintro (error | hi)
      · exact absurd rfl error
      · exact listed (e.nbReaders ▸ hi)
    · by_cases hi : i < (namesListed env w).2.length
      · exact .inl (listed hi)
      by_cases lost : i < w.readerManager.nbReaders
      · exact .inr (congrArg tReader.hCard (e.lost i (Nat.not_lt.1 hi) lost))
      · exact .inl (congrArg tReader.hCard (e.others i (Nat.not_lt.1 hi) (Nat.not_lt.1 lost)))

/-- The listing closes nothing. -/
lemma readersEnumerate_closings {env : Env} {w : World} {h} :
    closings h (readersEnumerate env w).2.log = closings h w.log := by
  obtain ⟨l, hlog, hl⟩ := @readersEnumerate_log env w
  rw [hlog, closings_append, Nat.add_eq_left]
  refine List.countP_eq_zero.2 fun c hc => ?_
  obtain ⟨buffer, rv, names, rfl⟩ := hl c hc
  nofun

/-- What `readersDisconnect` has done before its loop starts. -/
structure Reaches (env : Env) (w : World) (x : LONG × World) : Prop where
  closings : ∀ h, closings h x.2.log = closings h w.log
  listed : x.1 = SCARD_S_SUCCESS → x.2.readerManager.nbReaders = reached env w
  failed : x.1 ≠ SCARD_S_SUCCESS → reached env w = 0
  stays : ∀ i, x.1 ≠ SCARD_S_SUCCESS ∨ i < x.2.readerManager.nbReaders →
    (x.2.reader i).hCard = (w.reader i).hCard
  keeps : ∀ i, (x.2.reader i).hCard = (w.reader i).hCard ∨ (x.2.reader i).hCard = none

/-- The listing, where it is made, comes to one of these ends. -/
lemma enumerateIfAutomatic_reaches {env : Env} {w : World} :
    Reaches env w (enumerateIfAutomatic env w) := by
  unfold enumerateIfAutomatic
  split
  next auto =>
    have counts := @readersEnumerate_listedAgain env w
    exact
      { closings := fun _ => readersEnumerate_closings
        listed := fun success => (counts.1 success).trans (if_pos auto).symm
        failed := fun error => (if_pos auto).trans (counts.2 error)
        stays := fun i => (readersEnumerate_hCard i).1
        keeps := fun i => (readersEnumerate_hCard i).2 }
  next manual =>
    exact
      { closings := fun _ => rfl
        listed := fun _ => (if_neg manual).symm
        failed := fun error => absurd rfl error
        stays := fun _ _ => rfl
        keeps := fun _ => .inl rfl }

/-- Every slot is empty, and every handle that was in one of them was closed once. -/
structure Closed (w w' : World) : Prop where
  empty : ∀ i < MAX_NUM_READERS, (w'.reader i).hCard = none
  closed : ∀ i < MAX_NUM_READERS, ∀ h, (w.reader i).hCard = some h →
    closings h (w'.log.drop w.log.length) = 1

/-- If nothing is closed, everything is exactly if there is nothing to close. -/
lemma closed_same_iff {w w' : World} (same : ∀ i, (w'.reader i).hCard = (w.reader i).hCard) :
    Closed w w' ↔ ∀ i < MAX_NUM_READERS, (w.reader i).hCard = none := by
  constructor
  · intro closed i hi
    exact (same i).symm.trans (closed.empty i hi)
  · intro free
    constructor
    · intro i hi
      exact (same i).trans (free i hi)
    · intro i hi h held
      rw [free i hi] at held
      cases held

/-- The loop closes everything exactly if it gets to every slot that holds a handle. -/
lemma closed_loop_iff {env : Env} {w w1 : World} (inSlot : w.conn.InSlot)
    (reaches : Reaches env w (SCARD_S_SUCCESS, w1)) (log : ∃ l, w1.log = w.log ++ l) :
    Closed w ((List.range w1.readerManager.nbReaders).foldl (disconnectReader env) w1) ↔
      ∀ i < MAX_NUM_READERS, (w.reader i).hCard ≠ none → i < reached env w := by
  have inSlot1 : w1.conn.InSlot := fun i h held => by
    rcases reaches.keeps i with e | e
    · exact inSlot i h (e.symm.trans held)
    · exact absurd (e.symm.trans held) nofun
  have readers := @disconnectLoop_readers env w1 w1.readerManager.nbReaders
  have count := fun h => @disconnectLoop_closings env w1 w1.readerManager.nbReaders h inSlot1
  obtain ⟨l, hlog⟩ := (@disconnectLoop_rounds env w1).toManages.log
  rw [reaches.listed rfl] at readers count hlog ⊢
  generalize (List.range (reached env w)).foldl (disconnectReader env) w1 = w' at *
  -- the calls of the loop close the handles it meets
  have new : ∀ h, closings h (w'.log.drop w.log.length) =
      if h.slot < reached env w ∧ (w1.reader h.slot).hCard = some h then 1 else 0 := fun h => by
    obtain ⟨l1, hlog1⟩ := log
    have before := reaches.closings h
    have all := count h
    rw [hlog, hlog1, List.append_assoc] at *
    rw [List.drop_left]
    simp only [closings_append] at before all ⊢
    omega
  constructor
  · intro closed i hi connected
    obtain ⟨h, held⟩ := Option.ne_none_iff_exists'.1 connected
    have once := closed.closed i hi h held
    rw [new h] at once
    split at once
    next met => exact inSlot i h held ▸ met.1
    next => cases once
  · intro reach
    constructor
    · intro i hi
      by_cases lt : i < reached env w
      · rw [(readers i).2 lt]
        split
        next free => exact free
        next => rfl
      · rw [(readers i).1 (Nat.not_lt.1 lt)]
        rcases reaches.keeps i with e | e
        · rw [e]
          by_contra connected
          exact lt (reach i hi connected)
        · exact e
    · intro i hi h held
      have slot : h.slot = i := inSlot i h held
      have lt := reach i hi (by rw [held]; nofun)
      rw [new h, slot, if_pos]
      refine ⟨lt, (reaches.stays i (.inr ?_)).trans held⟩
      exact (reaches.listed rfl).symm ▸ lt

/-- A disconnection closes everything exactly if it reaches every connected reader. -/
lemma readersDisconnect_closed_iff {env : Env} {w : World}
    (context : w.readerManager.hContext ≠ none) (inSlot : w.conn.InSlot) :
    Closed w (readersDisconnect env w) ↔
      ∀ i < MAX_NUM_READERS, (w.reader i).hCard ≠ none → i < reached env w := by
  have reaches := @enumerateIfAutomatic_reaches env w
  have log := (@enumerateIfAutomatic_connects env w).toManages.log
  rcases @readersDisconnect_cases env w context with ⟨error, e⟩ | ⟨success, e⟩
  · rw [e, closed_same_iff fun i => reaches.stays i (.inl error), reaches.failed error]
    refine forall₂_congr fun i _ => ?_
    rw [← not_iff_not, Classical.not_imp]
    exact (and_iff_left (Nat.not_lt_zero i)).symm
  · rw [e]
    generalize enumerateIfAutomatic env w = x at reaches log success ⊢
    obtain ⟨rv, w1⟩ := x
    cases success
    exact closed_loop_iff inSlot reaches log

/-- In every reachable state with a context, a disconnection closes everything exactly if every
connected reader is among those that are listed again. -/
theorem closed_iff {env : Env} {w : World} (reachable : Reachable env w)
    (context : w.readerManager.hContext ≠ none) :
    Closed w (readersDisconnect env w) ↔
      ∀ i < MAX_NUM_READERS, (w.reader i).hCard ≠ none → i < reached env w := by
  apply readersDisconnect_closed_iff context
  exact reachable.inv nofun fun _ _ h legal => h.next legal

/-- Two connected readers are closed. -/
theorem closed_two :
    let w := run twoListed READER_BIT_AUTO [.readersManagerConnect, .readersConnect]
    (w.reader 1).hCard ≠ none ∧ Closed w (readersDisconnect twoListed w) :=
  ⟨by decide +kernel, (closed_iff reachable_run (by decide +kernel)).2 (by decide +kernel)⟩

/-- The second of two readers is unplugged after both were connected. -/
def secondGone : Env :=
  { twoListed with
    SCardListReaders := fun log =>
      if connects log 1 = 0 then (SCARD_S_SUCCESS, [acr0, acr1]) else (SCARD_S_SUCCESS, [acr0]) }

/-- The handle of a reader that is not listed any more is forgotten, not closed. -/
theorem unclosed_secondGone :
    let w := run secondGone READER_BIT_AUTO [.readersManagerConnect, .readersConnect]
    w.readerManager.hContext ≠ none ∧
      (w.reader 1).hCard = some ⟨1, 0, acr1.val⟩ ∧
      ((readersDisconnect secondGone w).reader 1).hCard = none ∧
      closings ⟨1, 0, acr1.val⟩ ((readersDisconnect secondGone w).log.drop w.log.length) = 0 ∧
      ¬ Closed w (readersDisconnect secondGone w) := by
  refine ⟨by decide +kernel, by decide +kernel, by decide +kernel, by decide +kernel, fun h => ?_⟩
  have once := h.closed 1 (by decide) ⟨1, 0, acr1.val⟩ (by decide +kernel)
  exact absurd once (by decide +kernel)

end TagEventor
