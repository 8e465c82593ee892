import TagEventor.Reader.Alike

/-!
# A faulty reader among others

What a reader `k` does to the tags that one call of `readersGetTagList` collects from the others, in
two outsides that agree on these others. It concerns them in one way only: a refusal of reader `k`
ends the connection phase, and then no reader is read (`collected_alike_iff`).
-/

namespace TagEventor
open Loop

/-- How often a driver has refused reader `k`. -/
def refusals (k : Nat) (log : List Call) : Nat := log.countP fun c => c.refuses k

/-- The refusals among some calls are those among their parts. -/
@[simp] lemma refusals_append {k} {l l' : List Call} :
    refusals k (l ++ l') = refusals k l + refusals k l' := List.countP_append ..

/-- There is no refusal among the calls. -/
lemma refusals_eq_zero {k} {l : List Call} :
    refusals k l = 0 ↔ ¬ ∃ c ∈ l, c.refuses k = true := by
  simp [refusals, List.countP_eq_zero]

/-- A refusal is one of a call for that reader. -/
lemma Call.refuses_slot {k} {c : Call} (h : c.refuses k = true) : c.slot = some k := by
  cases c with
  | readerCheck j rv supported =>
    simp only [Call.refuses, decide_eq_true_eq] at h
    exact congrArg some h.1
  | _ => cases h

/-- A round of the loop of `readersConnect` falls through exactly if it does not refuse its
reader. -/
lemma connectReader_refusals {env : Env} {k i} {w : World} :
    refusals k (connectReader env i w).2.log = refusals k w.log ↔
      (i = k → (connectReader env i w).1 = none) := by
  obtain ⟨l, hl⟩ := @connectReader_log env i w
  rw [hl.log, refusals_append, Nat.add_eq_left, refusals_eq_zero]
  constructor
  · rintro h rfl
    by_contra hret
    exact h (hl.refuses.1 hret)
  · rintro h ⟨c, hc, hr⟩
    have e : i = k := Option.some.inj ((hl.slot c hc).symm.trans (Call.refuses_slot hr))
    subst e
    exact hl.refuses.2 ⟨c, hc, hr⟩ (h rfl)

/-- A loop over other readers does not refuse reader `k`. -/
lemma connectOthers_refusals {env : Env} {k} {is : List Nat} {w : World} (hk : k ∉ is) :
    refusals k (scan (connectReader env) is w).2.log = refusals k w.log := by
  refine scan_inv (I := fun t : World => refusals k t.log = refusals k w.log) (fun i hi t ht => ?_)
    rfl
  refine (connectReader_refusals.2 fun e => ?_).trans ht
  exact absurd (e ▸ hi) hk

/-- The loop of `readersConnect` returns if it refuses a reader. -/
lemma connectLoop_refuses {env : Env} {k n} {w : World}
    (h : (scan (connectReader env) (List.range n) w).1 = none) :
    refusals k (scan (connectReader env) (List.range n) w).2.log = refusals k w.log := by
  let I (t : World) : Prop := refusals k t.log = refusals k w.log
  have step : ∀ i < n, ∀ s t, I s → connectReader env i s = (none, t) → I t := by
    rintro i _ s t hs e
    have hr := (@connectReader_refusals env k i s).2 fun _ => by rw [e]
    rw [e] at hr
    exact hr.trans hs
  rcases scan_range (I := fun _ => I) rfl step with ⟨t, e, ht⟩ | ⟨_, _, u, r, t, _, _, e⟩
  · rw [e]
    exact ht
  · rw [e] at h
    cases h

/-- The rounds for other readers go alike. -/
lemma connectOthers_alike {k} {env env' : Env} (agree : env.AgreeOff k env') {is : List Nat}
    (hk : k ∉ is) {w w' : World} (h : Alike k w w') :
    (scan (connectReader env) is w).1 = (scan (connectReader env') is w').1 ∧
      Alike k (scan (connectReader env) is w).2 (scan (connectReader env') is w').2 :=
  scan_sim (R := Alike k)
    (fun _ hi _ _ h => connectReader_alike agree (fun e => hk (e ▸ hi)) h) h

/-- From reader `k` on, the two loops end alike if reader `k` is refused in both or in none. -/
lemma connectFrom_alike {k} {env env' : Env} (agree : env.AgreeOff k env') {is : List Nat}
    (hk : k ∉ is) {w w' : World} (ha : Alike k w w')
    (h : refusals k (scan (connectReader env) (k :: is) w).2.log = refusals k w.log ↔
      refusals k (scan (connectReader env') (k :: is) w').2.log = refusals k w'.log) :
    ((scan (connectReader env) (k :: is) w).1 = none ↔
      (scan (connectReader env') (k :: is) w').1 = none) ∧
    Alike k (scan (connectReader env) (k :: is) w).2
      (scan (connectReader env') (k :: is) w').2 := by
  have off := (@connectReader_off env k w).symm.trans (ha.trans (@connectReader_off env' k w'))
  have hret := @connectReader_refusals env k k w
  have hret' := @connectReader_refusals env' k k w'
  rw [scan, scan] at h ⊢
  generalize connectReader env k w = x at h off hret ⊢
  generalize connectReader env' k w' = x' at h off hret' ⊢
  obtain ⟨ret, v⟩ := x
  obtain ⟨ret', v'⟩ := x'
  dsimp only at h off hret hret' ⊢
  cases ret with
  | some rv =>
    cases ret' with
    | some rv' => exact ⟨by simp, off⟩
    | none =>
      -- the second loop goes on, but does not refuse `k` any more
      have hb := (@connectOthers_refusals env' k is v' hk).trans (hret'.2 fun _ => rfl)
      exact absurd (hret.1 (h.2 hb) rfl) (by simp)
  | none =>
    cases ret' with
    | some rv =>
      have hb := (@connectOthers_refusals env k is v hk).trans (hret.2 fun _ => rfl)
      exact absurd (hret'.1 (h.1 hb) rfl) (by simp)
    | none =>
      obtain ⟨e, ha⟩ := connectOthers_alike agree hk off
      exact ⟨by rw [e], ha⟩

/-- The two loops end alike if reader `k` is refused in both or in none. -/
lemma connectLoop_alike {k} {env env' : Env} (agree : env.AgreeOff k env') {w : World}
    {is : List Nat} (nodup : is.Nodup)
    (h : refusals k (scan (connectReader env) is w).2.log = refusals k w.log ↔
      refusals k (scan (connectReader env') is w).2.log = refusals k w.log) :
    ((scan (connectReader env) is w).1 = none ↔ (scan (connectReader env') is w).1 = none) ∧
      Alike k (scan (connectReader env) is w).2 (scan (connectReader env') is w).2 := by
  by_cases hk : k ∈ is
  swap
  · obtain ⟨e, ha⟩ := connectOthers_alike agree hk .refl
    exact ⟨by rw [e], ha⟩
  obtain ⟨before, behind, rfl⟩ := List.append_of_mem hk
  obtain ⟨hk1, hk2⟩ : k ∉ before ∧ k ∉ behind := by
    simp only [List.nodup_append, List.nodup_cons] at nodup
    exact ⟨fun hb => nodup.2.2 k hb k List.mem_cons_self rfl, nodup.2.1.1⟩
  rw [scan_append, scan_append] at h ⊢
  obtain ⟨e, ha⟩ := connectOthers_alike agree hk1 (.refl (w := w))
  have hr := @connectOthers_refusals env k before w hk1
  have hr' := @connectOthers_refusals env' k before w hk1
  generalize scan (connectReader env) before w = x at h e ha hr ⊢
  generalize scan (connectReader env') before w = x' at h e ha hr' ⊢
  obtain ⟨ret, u⟩ := x
  obtain ⟨_, u'⟩ := x'
  cases e
  cases ret with
  | some rv => exact ⟨.rfl, ha⟩
  | none =>
    dsimp only at h ha hr hr'
    refine connectFrom_alike agree hk2 ha ?_
    rw [hr, hr']
    exact h

/-- No reader refuses while the readers are listed. -/
lemma readersEnumerate_refusals {env : Env} {k} {w : World} :
    refusals k (readersEnumerate env w).2.log = refusals k w.log := by
  obtain ⟨l, hlog, hl⟩ := @readersEnumerate_log env w
  rw [hlog, refusals_append]
  refine Nat.add_eq_left.2 (refusals_eq_zero.2 ?_)
  rintro ⟨c, hc, hr⟩
  obtain ⟨buffer, rv, names, rfl⟩ := hl c hc
  cases hr

/-- No reader refuses while the readers are listed, where they are. -/
lemma enumerateIfAutomatic_refusals {env : Env} {k} {w : World} :
    refusals k (enumerateIfAutomatic env w).2.log = refusals k w.log := by
  unfold enumerateIfAutomatic
  split
  · exact readersEnumerate_refusals
  · rfl

/-- A round that returns reports an error. -/
lemma connectReader_error {env : Env} {i} {w : World} {rv}
    (h : (connectReader env i w).1 = some rv) : rv ≠ SCARD_S_SUCCESS := by
  have outcome := @connectReader_outcome env i w
  generalize connectReader env i w = x at outcome h
  cases outcome with
  | failed checks error => cases h; exact error
  | unsupported checks => cases h; decide
  | _ => cases h

/-- The loop returns with an error only. -/
lemma connectLoop_error {env : Env} {n} {w : World} {rv}
    (h : (scan (connectReader env) (List.range n) w).1 = some rv) : rv ≠ SCARD_S_SUCCESS := by
  rcases @scan_range _ _ (fun _ _ => True) (connectReader env) n w trivial
    (fun _ _ _ _ _ _ => trivial) with ⟨t, e, _⟩ | ⟨i, _, u, r, t, _, he, e⟩
  · rw [e] at h
    cases h
  · rw [e] at h
    cases h
    exact connectReader_error (congrArg Prod.fst he)

/-- `readersConnect` ends alike in both if reader `k` is refused in both or in none. -/
lemma readersConnect_alike {k} {env env' : Env} (agree : env.AgreeOff k env') {w : World}
    (h : refusals k (readersConnect env w).2.log = refusals k w.log ↔
      refusals k (readersConnect env' w).2.log = refusals k w.log) :
    ((readersConnect env w).1 = SCARD_S_SUCCESS ↔ (readersConnect env' w).1 = SCARD_S_SUCCESS) ∧
      Alike k (readersConnect env w).2 (readersConnect env' w).2 := by
  have hr := @enumerateIfAutomatic_refusals env' k w
  unfold readersConnect at h ⊢
  rw [enumerateIfAutomatic_alike agree] at h ⊢
  generalize enumerateIfAutomatic env' w = x at h hr ⊢
  obtain ⟨rv, w1⟩ := x
  dsimp only at h hr ⊢
  by_cases hrv : rv ≠ SCARD_S_SUCCESS
  · simp only [if_pos hrv]
    exact ⟨trivial, .refl⟩
  simp only [if_neg hrv] at h ⊢
  by_cases hn : w1.readerManager.nbReaders = 0
  · simp only [if_pos hn]
    exact ⟨trivial, .refl⟩
  simp only [if_neg hn, ← hr] at h ⊢
  have loop := @connectLoop_alike k env env' agree w1 (.range w1.readerManager.nbReaders)
    List.nodup_range
  have error := @connectLoop_error env w1.readerManager.nbReaders w1
  have error' := @connectLoop_error env' w1.readerManager.nbReaders w1
  generalize scan (connectReader env) _ w1 = y at h loop error ⊢
  generalize scan (connectReader env') _ w1 = y' at h loop error' ⊢
  obtain ⟨ret, w2⟩ := y
  obtain ⟨ret', w2'⟩ := y'
  match ret, ret' with
  | none, none => exact ⟨.rfl, (loop h).2⟩
  | some rv, some rv' => exact ⟨iff_of_false (error rfl) (error' rfl), (loop h).2⟩
  | none, some rv' => exact absurd ((loop h).1.1 rfl) (by simp)
  | some rv, none => exact absurd ((loop h).1.2 rfl) (by simp)

/-- `readersConnect` fails if a reader is refused. -/
lemma readersConnect_refuses {env : Env} {k} {w : World}
    (h : (readersConnect env w).1 = SCARD_S_SUCCESS) :
    refusals k (readersConnect env w).2.log = refusals k w.log := by
  have hr := @enumerateIfAutomatic_refusals env k w
  have outcome := @readersConnect_outcome env w
  generalize readersConnect env w = x at h outcome ⊢
  generalize enumerateIfAutomatic env w = x1 at hr outcome
  obtain ⟨rv, w1⟩ := x1
  cases outcome with
  | failed error => exact absurd h error
  | noReaders => cases h
  | @looped ret w2 _ _ scanned =>
    have loop := @connectLoop_refuses env k w1.readerManager.nbReaders w1
    have error := @connectLoop_error env w1.readerManager.nbReaders w1
    rw [scanned] at loop error
    cases ret with
    | none => exact (loop rfl).trans hr
    | some rv => exact absurd h (error rfl)

/-- The phases that end with the same success leave the other readers alike. -/
lemma connectIfAutomatic_alike {k} {env env' : Env} (agree : env.AgreeOff k env') {w : World}
    (h : refusals k (connectIfAutomatic env w).2.log = refusals k w.log ↔
      refusals k (connectIfAutomatic env' w).2.log = refusals k w.log) :
    ((connectIfAutomatic env w).1 = SCARD_S_SUCCESS ↔
      (connectIfAutomatic env' w).1 = SCARD_S_SUCCESS) ∧
    Alike k (connectIfAutomatic env w).2 (connectIfAutomatic env' w).2 := by
  unfold connectIfAutomatic at h ⊢
  split at h
  next auto =>
    rw [if_pos auto, if_pos auto] at *
    exact readersConnect_alike agree h
  next manual =>
    rw [if_neg manual, if_neg manual]
    exact ⟨.rfl, .refl⟩

/-- A reader cannot refuse while the tags are read. -/
lemma readTags_refusals {env : Env} {k} {w : World} {rv} :
    refusals k (readTags env rv w).2.log = refusals k w.log := by
  unfold readTags
  dsimp only
  rw [mergeTags_log]
  refine foldl_inv (I := fun s : ReadLoop => refusals k s.world.log = refusals k w.log)
    (fun i _ s h => ?_) rfl
  obtain ⟨l, hlog, hl⟩ := @readReader_log env i s
  rw [hlog, refusals_append, h]
  refine Nat.add_eq_left.2 (refusals_eq_zero.2 ?_)
  rintro ⟨c, hc, hr⟩
  rw [(hl c hc).2] at hr
  cases hr

/-- The calls `readersGetTagList` makes. -/
def readCalls (env : Env) (w : World) : List Call :=
  (readersGetTagList env w).2.log.drop w.log.length

/-- The tags that are collected from reader `i` by some calls. -/
def collectedFrom (i : Nat) (calls : List Call) : List tTag :=
  answered (calls.filter fun c => c.slot = some i)

/-- A poll of a reader that finds a tag. -/
def Call.delivers : Call → Bool
  | .getTagList _ rv tags => rv = SCARD_S_SUCCESS ∧ tags ≠ []
  | _ => false

/-- The calls are those at the end of the log. -/
lemma readCalls_log {env : Env} {w : World} :
    (readersGetTagList env w).2.log = w.log ++ readCalls env w := by
  obtain ⟨l, h⟩ := (@readersGetTagList_manages env w).1.log
  rw [readCalls, h, List.drop_left]

/-- No tag is delivered by any of the calls. -/
lemma answered_eq_nil {l : List Call} : answered l = [] ↔ ∀ c ∈ l, c.delivers = false := by
  unfold answered
  rw [List.flatMap_eq_nil_iff]
  refine forall₂_congr fun c _ => ?_
  cases c with
  | getTagList i rv tags => by_cases h : rv = SCARD_S_SUCCESS <;> simp [Call.delivers, h]
  | _ => exact iff_of_true rfl rfl

/-- What is collected from a reader shows in the calls that are not made for another one. -/
lemma collectedFrom_callsOff {k i} {l : List Call} (hi : i ≠ k) :
    collectedFrom i (callsOff k l) = collectedFrom i l := by
  unfold collectedFrom callsOff
  rw [List.filter_filter]
  congr 1
  refine List.filter_congr fun c _ => ?_
  by_cases h : c.slot = some i <;> simp [h, hi]

/-- Refusals come from the connection phase only. -/
lemma readersGetTagList_refusals {env : Env} {k} {w : World} (h : w.readerManager.hContext ≠ none) :
    refusals k (readersGetTagList env w).2.log = refusals k (connectIfAutomatic env w).2.log := by
  obtain ⟨_, e⟩ | ⟨_, e⟩ := @readersGetTagList_cases env _ h
  · rw [e]
  · rw [e, readTags_refusals]

/-- No reader is read if one is refused. -/
lemma answered_of_refused {env : Env} {k} {w : World}
    (h : refusals k (readersGetTagList env w).2.log ≠ refusals k w.log) :
    answered (readCalls env w) = [] := by
  have context : w.readerManager.hContext ≠ none := fun hc => by
    rw [readersGetTagList, if_pos hc] at h
    exact h rfl
  obtain ⟨_, e⟩ | ⟨hrv, _⟩ := @readersGetTagList_cases env _ context
  · have hlog := @readCalls_log env w
    have ha := (@connectIfAutomatic_connects env w).answered
    rw [← e, hlog, answered_append] at ha
    exact List.append_right_eq_self.1 ha
  · rw [readersGetTagList_refusals context] at h
    unfold connectIfAutomatic at h hrv
    split at h
    next auto =>
      rw [if_pos auto] at hrv
      exact absurd (readersConnect_refuses hrv) h
    · exact absurd rfl h

/-- The readers but `k` get the same calls if reader `k` is refused in both or in none. -/
lemma readersGetTagList_alike {k} {env env' : Env} (agree : env.AgreeOff k env') {w : World}
    (h : refusals k (readersGetTagList env w).2.log = refusals k w.log ↔
      refusals k (readersGetTagList env' w).2.log = refusals k w.log) :
    callsOff k (readCalls env w) = callsOff k (readCalls env' w) := by
  suffices e : callsOff k (readersGetTagList env w).2.log =
      callsOff k (readersGetTagList env' w).2.log by
    rw [readCalls_log, readCalls_log, callsOff_append, callsOff_append] at e
    exact List.append_cancel_left e
  by_cases context : w.readerManager.hContext = none
  · rw [readersGetTagList, readersGetTagList, if_pos context, if_pos context]
  rw [readersGetTagList_refusals context, readersGetTagList_refusals context] at h
  have phase := connectIfAutomatic_alike agree h
  obtain ⟨hrv, e⟩ | ⟨hrv, e⟩ := @readersGetTagList_cases env _ context
  · obtain ⟨_, e'⟩ | ⟨hrv', _⟩ := @readersGetTagList_cases env' _ context
    · rw [e, e', phase.2.calls]
    · exact absurd (phase.1.2 hrv') hrv
  · obtain ⟨hrv', _⟩ | ⟨_, e'⟩ := @readersGetTagList_cases env' _ context
    · exact absurd (phase.1.1 hrv) hrv'
    · rw [e, e', readTags_alike agree phase.2]

/-- A reader is refused in some calls exactly if they add to its refusals. -/
lemma refused_iff {env : Env} {k} {w : World} :
    (∃ c ∈ readCalls env w, c.refuses k = true) ↔
      refusals k (readersGetTagList env w).2.log ≠ refusals k w.log := by
  rw [readCalls_log, refusals_append, Ne, Nat.add_eq_left, refusals_eq_zero, not_not]

/-- Nothing is collected from a reader exactly if no poll of it finds a tag. -/
lemma collectedFrom_eq_nil {i} {l : List Call} :
    collectedFrom i l = [] ↔ ∀ c ∈ l, c.delivers = true → c.slot ≠ some i := by
  unfold collectedFrom
  rw [answered_eq_nil]
  constructor
  · intro h c hc hd hs
    have := h c (List.mem_filter.2 ⟨hc, by simpa using hs⟩)
    rw [hd] at this
    cases this
  · intro h c hc
    obtain ⟨hc, hs⟩ := List.mem_filter.1 hc
    by_contra hd
    exact h c hc (by simpa using hd) (by simpa using hs)

/-- What some calls collect is collected by their parts. -/
@[simp] lemma collectedFrom_append {i} {l l' : List Call} :
    collectedFrom i (l ++ l') = collectedFrom i l ++ collectedFrom i l' := by
  simp [collectedFrom]

/-- Calls for other readers collect nothing from this one. -/
lemma collectedFrom_others {i} {l : List Call} (h : ∀ c ∈ l, c.slot ≠ some i) :
    collectedFrom i l = [] :=
  collectedFrom_eq_nil.2 fun c hc _ => h c hc

/-- Where nothing is delivered, nothing is collected. -/
lemma collectedFrom_of_answered {i} {l : List Call} (h : answered l = []) :
    collectedFrom i l = [] := by
  refine collectedFrom_eq_nil.2 fun c hc hd => ?_
  rw [answered_eq_nil.1 h c hc] at hd
  cases hd

/-- Calls for one reader collect what they deliver. -/
lemma collectedFrom_self {i} {l : List Call} (h : ∀ c ∈ l, c.slot = some i) :
    collectedFrom i l = answered l := by
  rw [collectedFrom, List.filter_eq_self.2 (by simpa using h)]

/-- The read loop asks the readers in their order. -/
lemma readTags_calls {env : Env} {w : World} {rv} :
    ∃ l, (readTags env rv w).2.log = w.log ++ l ∧
      answered l = (List.range w.readerManager.nbReaders).flatMap (collectedFrom · l) := by
  let I (n : Nat) (s : ReadLoop) : Prop :=
    ∃ l, s.world.log = w.log ++ l ∧ (∀ c ∈ l, ∃ i < n, c.slot = some i) ∧
      answered l = (List.range n).flatMap (collectedFrom · l)
  have step : ∀ n < w.readerManager.nbReaders, ∀ s, I n s → I (n + 1) (readReader env s n) := by
    rintro n - s ⟨l, hlog, hl, ha⟩
    obtain ⟨l', hlog', hl'⟩ := @readReader_log env n s
    refine ⟨l ++ l', by rw [hlog', hlog, List.append_assoc], fun c hc => ?_, ?_⟩
    · rcases List.mem_append.1 hc with hc | hc
      · obtain ⟨i, hi, hs⟩ := hl c hc
        exact ⟨i, Nat.lt_succ_of_lt hi, hs⟩
      · exact ⟨n, Nat.lt_succ_self n, (hl' c hc).1⟩
    · -- the readers before `n` deliver nothing in this round, and `n` did not before
      have before : ∀ i ∈ List.range n, collectedFrom i (l ++ l') = collectedFrom i l := by
        intro i hi
        have silent : collectedFrom i l' = [] := collectedFrom_others fun c hc hs => by
          have e := Option.some.inj ((hl' c hc).1.symm.trans hs)
          exact absurd (List.mem_range.1 hi) (by omega)
        rw [collectedFrom_append, silent, List.append_nil]
      have self : collectedFrom n (l ++ l') = answered l' := by
        have silent : collectedFrom n l = [] := collectedFrom_others fun c hc hs => by
          obtain ⟨i, hi, hs'⟩ := hl c hc
          have e := Option.some.inj (hs'.symm.trans hs)
          omega
        rw [collectedFrom_append, silent, List.nil_append,
          collectedFrom_self fun c hc => (hl' c hc).1]
      rw [answered_append, ha, flatMap_range_succ, self, List.flatMap_congr before]
  have loop := @foldl_range _ I (readReader env) w.readerManager.nbReaders
    ⟨w.setTagList { w.readerManager.tagList with numTags := 0 }, rv, fun _ => none⟩
    ⟨[], (List.append_nil _).symm, nofun, rfl⟩ step
  obtain ⟨l, hlog, _, ha⟩ := loop
  refine ⟨l, ?_, ha⟩
  unfold readTags
  dsimp only
  rw [mergeTags_log]
  exact hlog

/-- A call of `readersGetTagList` that gets to the readers leaves the tags collected from them in
the list of the manager, reader by reader. -/
theorem entries_collectedFrom {env : Env} {w : World} (context : w.readerManager.hContext ≠ none)
    (success : (connectIfAutomatic env w).1 = SCARD_S_SUCCESS) :
    (readersGetTagList env w).2.readerManager.tagList.entries =
      (List.range (readersGetTagList env w).2.readerManager.nbReaders).flatMap
        (collectedFrom · (readCalls env w)) := by
  obtain ⟨hrv, _⟩ | ⟨_, e⟩ := @readersGetTagList_cases env _ context
  · exact absurd success hrv
  have hlog := @readCalls_log env w
  rw [e] at hlog ⊢
  obtain ⟨phase, hphase⟩ := (@connectIfAutomatic_connects env w).toManages.log
  have silent := (@connectIfAutomatic_connects env w).answered
  generalize (connectIfAutomatic env w).1 = rv at hlog ⊢
  generalize (connectIfAutomatic env w).2 = w1 at hlog hphase silent ⊢
  obtain ⟨lists, collected⟩ := @readTags_collected env w1 rv
  obtain ⟨l, hl, reads⟩ := @readTags_calls env w1 rv
  have calls : readCalls env w = phase ++ l := by
    rw [hl, hphase, List.append_assoc] at hlog
    exact (List.append_cancel_left hlog).symm
  rw [hphase, answered_append, List.append_right_eq_self] at silent
  have answers := collected.answered
  rw [hl, answered_append] at answers
  rw [collected.entries, ← List.append_cancel_left answers, reads, collected.reads.nbReaders, calls]
  refine List.flatMap_congr fun i _ => ?_
  rw [collectedFrom_append, collectedFrom_of_answered silent, List.nil_append]

/-- After a refusal nothing is collected. -/
lemma collectedFrom_of_refused {env : Env} {k i} {w : World}
    (h : ∃ c ∈ readCalls env w, c.refuses k = true) : collectedFrom i (readCalls env w) = [] :=
  collectedFrom_of_answered (answered_of_refused (refused_iff.1 h))

/-- Tags are delivered for a reader. -/
lemma Call.delivers_slot {c : Call} (h : c.delivers = true) : ∃ i, c.slot = some i := by
  cases c with
  | getTagList i => exact ⟨i, rfl⟩
  | _ => cases h

/-- If the same is collected from the readers but `k`, and a reader is refused in one of the
outsides, then no poll of these readers finds a tag in the other one. -/
lemma delivers_of_refused {env env' : Env} {k} {w : World}
    (h : ∀ i, i ≠ k → collectedFrom i (readCalls env w) = collectedFrom i (readCalls env' w))
    (hr : ∃ c ∈ readCalls env w, c.refuses k = true) :
    ∀ c ∈ readCalls env w ++ readCalls env' w, c.delivers = true → c.slot = some k := by
  intro c hc hd
  obtain ⟨i, hs⟩ := Call.delivers_slot hd
  have hnil : collectedFrom i (readCalls env w) = [] := collectedFrom_of_refused hr
  by_contra hk
  have hik : i ≠ k := fun e => hk (e ▸ hs)
  rcases List.mem_append.1 hc with hc | hc
  · exact collectedFrom_eq_nil.1 hnil c hc hd hs
  · exact collectedFrom_eq_nil.1 ((h i hik).symm.trans hnil) c hc hd hs

/-- In two outsides that agree on all readers but `k`, the same tags are collected from these
readers exactly if reader `k` is refused in both or in none, or no poll of another reader finds a
tag. -/
theorem collected_alike_iff {k} {env env' : Env} (agree : env.AgreeOff k env') {w : World} :
    (∀ i, i ≠ k → collectedFrom i (readCalls env w) = collectedFrom i (readCalls env' w)) ↔
      ((∃ c ∈ readCalls env w, c.refuses k = true) ↔ ∃ c ∈ readCalls env' w, c.refuses k = true) ∨
        ∀ c ∈ readCalls env w ++ readCalls env' w, c.delivers = true → c.slot = some k := by
  constructor
  · intro h
    by_cases hr : ∃ c ∈ readCalls env w, c.refuses k = true
    · exact .inr (delivers_of_refused h hr)
    by_cases hr' : ∃ c ∈ readCalls env' w, c.refuses k = true
    · refine .inr fun c hc => delivers_of_refused (fun i hi => (h i hi).symm) hr' c ?_
      exact (List.mem_append.1 hc).elim (List.mem_append_right _) (List.mem_append_left _)
    · exact .inl (iff_of_false hr hr')
  · rintro (h | h) i hi
    · have := readersGetTagList_alike agree (w := w) (by simpa [refused_iff, not_iff_not] using h)
      rw [← collectedFrom_callsOff hi, this, collectedFrom_callsOff hi]
    · have none_of : ∀ l, (∀ c ∈ l, c ∈ readCalls env w ++ readCalls env' w) →
          collectedFrom i l = [] := fun l hl => collectedFrom_eq_nil.2 fun c hc hd hs => by
        have := Option.some.inj (hs.symm.trans (h c (hl c hc) hd))
        exact hi this
      rw [none_of _ fun c => List.mem_append_left _, none_of _ fun c => List.mem_append_right _]

/-- Two readers, each with a tag. -/
def twoTags : Env := plain [acr0, acr1] fun _ slot => some [0xAB, UInt8.ofNat slot]

/-- The first of them was unplugged. -/
def firstUnplugged : Env :=
  { twoTags with
    SCardConnect := fun _ slot _ => if slot = 0 then SCARD_E_NO_SERVICE else SCARD_S_SUCCESS }

/-- The first of them does not answer. -/
def firstMute : Env :=
  { twoTags with
    SCardTransmit := fun log slot send =>
      if slot = 0 then (SCARD_F_COMM_ERROR, []) else twoTags.SCardTransmit log slot send }

/-- The state after pcscd was connected to, in AUTO mode. -/
def connectedTwo : World := (readersManagerConnect twoTags (.init READER_BIT_AUTO)).2

/-- The tag of the second reader is collected whether the first one is plugged in or not. -/
theorem collected_alike_unplugged :
    collectedFrom 1 (readCalls twoTags connectedTwo) ≠ [] ∧
      ∀ i, i ≠ 0 → collectedFrom i (readCalls twoTags connectedTwo) =
        collectedFrom i (readCalls firstUnplugged connectedTwo) := by
  have agree : twoTags.AgreeOff 0 firstUnplugged :=
    ⟨fun _ => rfl, fun _ => rfl, fun _ hi => (if_neg hi).symm, fun _ _ => rfl, fun _ _ => rfl,
      fun _ _ => rfl⟩
  exact ⟨by decide +kernel, (collected_alike_iff agree).2 (.inl (by decide +kernel))⟩

/-- The tag of the second reader is not collected if the first reader is mute. -/
theorem collected_differs_mute :
    connectedTwo.readerManager.automatic = true ∧ twoTags.AgreeOff 0 firstMute ∧
      ¬ ∀ i, i ≠ 0 → collectedFrom i (readCalls twoTags connectedTwo) =
        collectedFrom i (readCalls firstMute connectedTwo) := by
  refine ⟨by decide +kernel, ⟨fun _ => rfl, fun _ => rfl, fun _ _ => rfl, fun _ _ => rfl,
    fun _ hi => (if_neg hi).symm, fun _ _ => rfl⟩, fun h => ?_⟩
  exact absurd (h 1 (by decide)) (by decide +kernel)

end TagEventor
