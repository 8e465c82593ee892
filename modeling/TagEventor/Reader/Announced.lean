import TagEventor.Lib.Replay
import TagEventor.Reader.Table

/-!
# Reader events

The connected readers according to the reader events (`announced`), against the slots that hold a
card and a driver (`Tells`). No step announces a connection: where a driver accepts a reader,
`READER_DETECTED` is dispatched a second time. So the events tell the connected readers as long as
no driver accepts one, and no longer (`tells_iff`).
-/

namespace TagEventor
open Replay

/-- The change that an event announces. -/
def Event.readerChange (e : Event) : Option (Change Nat) :=
  match e.eventType with
  | .READER_CONNECTED_TO => some (.enter e.readerNumber)
  | .READER_LOST | .READER_DISCONNECT => some (.leave e.readerNumber)
  | _ => none

/-- The readers that are connected according to the events. -/
def announced (events : List Event) : Finset Nat := replay ∅ (events.filterMap Event.readerChange)

/-- How often a reader was detected according to the events. -/
def detections (i : Nat) (events : List Event) : Nat :=
  events.countP fun e => e.eventType = .READER_DETECTED ∧ e.readerNumber = i

/-- The events tell which readers are connected, and each connection is detected once. -/
structure Tells (t : Table) : Prop where
  connected : ∀ i, i ∈ announced t.events ↔
    (t.readers i).hCard ≠ none ∧ (t.readers i).pDriver ≠ none
  detected : ∀ i, detections i t.events = t.log.countP (Call.opens i)

/-- No reader is announced; one is detected when it is opened and when a driver accepts it; a driver
comes from a check that accepted the reader. -/
structure Unannounced (t : Table) : Prop where
  silent : announced t.events = ∅
  detected : ∀ i, detections i t.events =
    t.log.countP (Call.opens i) + t.log.countP (Call.accepts i)
  driven : ∀ i, (t.readers i).pDriver ≠ none → ∃ c ∈ t.log, c.accepts i = true

/-- More calls and events, among which no connection is announced. -/
lemma Unannounced.extend {t t' : Table} {calls events} (h : Unannounced t)
    (log : t'.log = t.log ++ calls) (dispatched : t'.events = t.events ++ events)
    (silent : ∀ e ∈ events, ∀ i, e.readerChange ≠ some (.enter i))
    (detected : ∀ i,
      detections i events = calls.countP (Call.opens i) + calls.countP (Call.accepts i))
    (driven : ∀ i, (t'.readers i).pDriver ≠ none →
      (t.readers i).pDriver ≠ none ∨ ∃ c ∈ calls, c.accepts i = true) : Unannounced t' where
  silent := by
    rw [dispatched, announced, List.filterMap_append, replay_append]
    change replay (announced t.events) _ = ∅
    rw [h.silent]
    apply Finset.subset_empty.1
    apply replay_subset
    intro i hi
    obtain ⟨e, he, hei⟩ := List.mem_filterMap.1 hi
    exact silent e he i hei
  detected := fun i => by
    have before := h.detected i
    have now := detected i
    unfold detections at before now ⊢
    rw [dispatched, log, List.countP_append, List.countP_append, List.countP_append]
    omega
  driven := fun i hi => by
    rw [log]
    rcases driven i hi with hi | ⟨c, hc, accepts⟩
    · obtain ⟨c, hc, accepts⟩ := h.driven i hi
      exact ⟨c, List.mem_append_left _ hc, accepts⟩
    · exact ⟨c, List.mem_append_right _ hc, accepts⟩

/-- Calls that neither connect a reader nor accept one, and slots that get no driver. -/
lemma Unannounced.quiet {t t' : Table} {calls events} (h : Unannounced t)
    (log : t'.log = t.log ++ calls) (dispatched : t'.events = t.events ++ events)
    (quiet : ∀ c ∈ calls, c.Quiet)
    (silent : ∀ e ∈ events, e.eventType ≠ .READER_DETECTED ∧ e.eventType ≠ .READER_CONNECTED_TO)
    (driven : ∀ i, (t'.readers i).pDriver ≠ none → (t.readers i).pDriver ≠ none) :
    Unannounced t' := by
  refine h.extend log dispatched (fun e he i => ?_) (fun i => ?_) fun i hi => .inl (driven i hi)
  · obtain ⟨eventType, uid, j⟩ := e
    have hne := (silent _ he).2
    cases eventType with
    | READER_CONNECTED_TO => exact absurd rfl hne
    | _ => nofun
  · have opens : calls.countP (Call.opens i) = 0 :=
      List.countP_eq_zero.2 fun c hc => by simp [(quiet c hc i).1]
    have accepts : calls.countP (Call.accepts i) = 0 :=
      List.countP_eq_zero.2 fun c hc => by simp [(quiet c hc i).2]
    rw [opens, accepts]
    exact List.countP_eq_zero.2 fun e he => by simp [(silent e he).1]

/-- A write to one slot gives no driver but to this slot. -/
lemma driven_update {readers : Nat → tReader} {i j r}
    (h : (Function.update readers i r j).pDriver ≠ none) :
    (readers j).pDriver ≠ none ∨ j = i ∧ r.pDriver ≠ none := by
  by_cases hj : j = i
  · subst hj
    rw [Function.update_self] at h
    exact .inr ⟨rfl, h⟩
  · rw [Function.update_of_ne hj] at h
    exact .inl h

/-- The calls of a check. -/
lemma count_check {i j : Nat} {h l rv supported} (onCard : ∀ c ∈ l, OnCard i c) :
    let calls := Call.SCardConnect i (some h.reader) SCARD_S_SUCCESS (some h) :: l ++
      [.readerCheck i rv supported]
    calls.countP (Call.opens j) = (if i = j then 1 else 0) ∧
      calls.countP (Call.accepts j) =
        if i = j ∧ rv = SCARD_S_SUCCESS ∧ supported = true then 1 else 0 := by
  have opens : l.countP (Call.opens j) = 0 :=
    List.countP_eq_zero.2 fun c hc => by simp [(quiet_onCard (onCard c hc) j).1]
  have accepts : l.countP (Call.accepts j) = 0 :=
    List.countP_eq_zero.2 fun c hc => by simp [(quiet_onCard (onCard c hc) j).2]
  simp [List.countP_cons, opens, accepts, Call.opens, Call.accepts]

/-- Whatever happens to the slots, no connection is announced. -/
lemma unannounced_step {t t' : Table} (h : Unannounced t) (st : t.Step t') : Unannounced t' := by
  have none : t.log = t.log ++ [] := (List.append_nil _).symm
  have silent : t.events = t.events ++ [] := (List.append_nil _).symm
  cases st with
  | logged quiet => exact h.quiet rfl silent quiet nofun fun _ hi => hi
  | pcscd he =>
    refine h.quiet none rfl nofun ?_ fun _ hi => hi
    rcases he with rfl | rfl | rfl <;> simp
  | relisted hr =>
    refine h.quiet none silent nofun nofun fun i hi => ?_
    dsimp only at hi
    rcases hr i with e | e | ⟨name, e⟩
    · rw [e] at hi
      exact hi
    · rw [e] at hi
      exact absurd rfl hi
    · rw [e] at hi
      exact hi
  | @failed i hCard l rv supported onCard error =>
    refine h.extend rfl rfl (by simp [Event.readerChange]) (fun j => ?_) fun j hj => ?_
    · obtain ⟨opens, accepts⟩ :=
        @count_check i j hCard l rv supported onCard
      rw [opens, accepts]
      simp [detections, List.countP_cons, error]
    · exact (driven_update hj).imp_right fun hj => absurd rfl hj.2
  | @unsupported i hCard _ l r onCard free checked =>
    refine h.extend rfl rfl (by simp [Event.readerChange]) (fun j => ?_) fun j hj => ?_
    · obtain ⟨opens, accepts⟩ := @count_check i j hCard l SCARD_S_SUCCESS false onCard
      rw [opens, accepts]
      simp [detections, List.countP_cons]
    · exact (driven_update hj).imp_right fun hj => absurd rfl hj.2
  | @accepted i hCard _ l r driver onCard free checked =>
    refine h.extend rfl (List.append_assoc ..) (by simp [Event.readerChange]) (fun j => ?_)
      fun j hj => ?_
    · obtain ⟨opens, accepts⟩ := @count_check i j hCard l SCARD_S_SUCCESS true onCard
      rw [opens, accepts]
      by_cases hij : i = j <;> simp [detections, hij]
    · refine (driven_update hj).imp_right fun hj => ⟨.readerCheck i SCARD_S_SUCCESS true, ?_, ?_⟩
      · simp
      · simp [Call.accepts, hj.1]
  | disconnected =>
    refine h.quiet rfl rfl (by simp [Call.Quiet, Call.opens, Call.accepts]) (by simp) fun j hj => ?_
    exact (driven_update hj).resolve_right fun hj => hj.2 rfl
  | @tagList i l hl =>
    refine h.quiet none silent nofun nofun fun j hj => ?_
    rcases driven_update hj with hj | ⟨rfl, hj⟩
    · exact hj
    · exact hj
  | @delivered i driver l hCard pDriver le =>
    refine h.quiet none silent nofun nofun fun j hj => ?_
    rcases driven_update hj with hj | ⟨rfl, hj⟩
    · exact hj
    · exact hj

/-- The events tell the connected readers iff no driver has accepted one. -/
lemma Unannounced.tells_iff_not_accepts {t : Table} (h : Unannounced t) :
    Tells t ↔ ∀ c ∈ t.log, ∀ i, c.accepts i = false := by
  constructor
  · intro tells c hc i
    have e := (tells.detected i).symm.trans (h.detected i)
    have none : t.log.countP (Call.accepts i) = 0 := by omega
    simpa using List.countP_eq_zero.1 none c hc
  · intro none
    refine ⟨fun i => ?_, fun i => ?_⟩
    · rw [h.silent]
      refine iff_of_false (Finset.notMem_empty i) fun connected => ?_
      obtain ⟨c, hc, accepts⟩ := h.driven i connected.2
      rw [none c hc i] at accepts
      cases accepts
    · rw [h.detected i]
      exact Nat.add_eq_left.2 (List.countP_eq_zero.2 fun c hc => by simp [none c hc i])

/-- The invariant holds after every run. -/
lemma unannounced_of_run {env : Env} {setting ops} : Unannounced (run env setting ops).table :=
  run_table ⟨rfl, fun _ => rfl, fun _ hi => absurd rfl hi⟩ fun _ _ h st => unannounced_step h st

/-- At the return of every function of a run the events tell the connected readers, if and only if
no driver accepts a reader in the run. -/
theorem tells_iff {env : Env} {setting ops} :
    (∀ k, Tells (run env setting (ops.take k)).table) ↔
      ∀ c ∈ (run env setting ops).log, ∀ i, c.accepts i = false := by
  constructor
  · intro tells
    have last := tells ops.length
    rw [List.take_length] at last
    exact unannounced_of_run.tells_iff_not_accepts.1 last
  · intro none k
    refine unannounced_of_run.tells_iff_not_accepts.2 fun c hc i => ?_
    exact none c (run_take_log.subset hc) i

/-- A reader that the driver accepts is connected, but not according to the events. -/
theorem tells_plain_not :
    ¬ ∀ k, Tells (run (plain [acr0] fun _ _ => none) READER_BIT_AUTO
      ([.readersManagerConnect, .readersConnect].take k)).table := by
  intro tells
  have connected := ((tells 2).connected 0).2 (by decide +kernel)
  revert connected
  decide +kernel

end TagEventor
