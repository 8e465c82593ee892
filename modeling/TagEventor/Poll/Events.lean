import TagEventor.Poll.Polls

/-!
# Tag events over runs of polls

The tag events of a poll, read against the UIDs the drivers deliver in it: `tagListCheck` keeps the
UIDs of the last list it read, and a poll that succeeds dispatches the difference between the UIDs
kept and those delivered. Two properties of runs follow, each with the polls it fails for: no event
is lost or invented by polls that fail, and the events of a UID alternate.
-/

namespace TagEventor
open Machine Presence

/-- The poll gets as far as `processTagLists`. -/
def reaches (env : Env) (callBack : Bool) (w : World) : Bool := (pollTagLists env callBack w).1

/-- The poll is connected to pcscd, so that it shifts the lists. -/
def connected (env : Env) (callBack : Bool) (w : World) : Bool := (connectPcscd env callBack w).1

/-- The UIDs of the tags that the drivers deliver with success in the poll. -/
def delivered (env : Env) (callBack : Bool) (w : World) : List CString :=
  uidsOf ((answered (tagListCheck env callBack w).log).drop (answered w.log).length)

/-- The events for the change from the UIDs `l` to the UIDs `l'`. -/
def changes (l l' : List CString) : List Event :=
  (missing l l').map (tagEvent .TAG_OUT) ++ (missing l' l).map (tagEvent .TAG_IN)

/-- From `w` to `w'` no event of a tag is dispatched. -/
def Quiet (w w' : World) : Prop := ∃ l, w'.events = w.events ++ l ∧ ∀ e ∈ l, e.uid = none

/-- No event of a tag before or after. -/
lemma Quiet.trans {w w' w''} (h : Quiet w w') (h' : Quiet w' w'') : Quiet w w'' := by
  obtain ⟨l, e, hl⟩ := h
  obtain ⟨l', e', hl'⟩ := h'
  refine ⟨l ++ l', by rw [e', e, List.append_assoc], fun x hx => ?_⟩
  exact (List.mem_append.1 hx).elim (hl x) (hl' x)

/-- The functions of the library dispatch no event of a tag. -/
lemma Manages.quiet {w w'} (h : Manages w w') : Quiet w w' := h.events

/-- No event of a tag is dispatched before the lists are compared. -/
lemma PollOutcome.quiet {env callBack w ok w'} (h : PollOutcome env callBack w ok w') :
    Quiet w w' := by
  have hs : Quiet w (connectIfAutomatic env (w.shifted env callBack)).2 :=
    ((@connectPcscd_prepares env callBack w).quiet.trans
      ⟨[], by simp [World.shifted, shiftTagLists_shifts.events], nofun⟩).trans
      connectIfAutomatic_connects.quiet
  cases h with
  | unconnected _ prepares => exact prepares.quiet
  | stopped _ _ after => exact hs.trans after.quiet
  | read _ _ collected => exact hs.trans collected.reads.quiet

/-- No tag is read before the connection phase is over. -/
lemma shifted_answered {env : Env} {callBack} {w : World} :
    answered (connectIfAutomatic env (w.shifted env callBack)).2.log = answered w.log := by
  rw [connectIfAutomatic_connects.answered, World.shifted, shiftTagLists_log,
    connectPcscd_prepares.answered]

/-- A poll compares the lists if it gets so far. -/
lemma tagListCheck_eq {env : Env} {callBack} {w : World} :
    tagListCheck env callBack w =
      if reaches env callBack w then processTagLists callBack (pollTagLists env callBack w).2
      else (pollTagLists env callBack w).2 := by
  unfold tagListCheck reaches
  rcases pollTagLists env callBack w with ⟨ok, w'⟩
  cases ok <;> rfl

/-- The comparison leaves the UIDs and the log alone. -/
lemma tagListCheck_uids {env : Env} {callBack} {w : World} :
    (tagListCheck env callBack w).readerManager.tagList.uids =
        (pollTagLists env callBack w).2.readerManager.tagList.uids ∧
      (tagListCheck env callBack w).log = (pollTagLists env callBack w).2.log := by
  rw [tagListCheck_eq]
  split
  · exact ⟨processTagLists_processed.uids, congrArg Conn.log processTagLists_processed.conn⟩
  · exact ⟨rfl, rfl⟩

/-- A poll that is not connected leaves the lists alone. -/
lemma tagListCheck_unconnected {env : Env} {callBack} {w : World}
    (h : connected env callBack w = false) :
    reaches env callBack w = false ∧ Prepares w (tagListCheck env callBack w) := by
  have ho := @pollTagLists_outcome env callBack w
  rw [tagListCheck_eq]
  unfold reaches
  generalize pollTagLists env callBack w = x at ho ⊢
  obtain ⟨ok, w'⟩ := x
  cases ho with
  | unconnected _ prepares => exact ⟨rfl, prepares⟩
  | stopped hc => exact absurd (h.symm.trans hc) Bool.false_ne_true
  | read hc => exact absurd (h.symm.trans hc) Bool.false_ne_true

/-- A poll that is connected stops in the connection phase, or reads the readers. -/
lemma connected_outcome {env : Env} {callBack} {w : World} (h : connected env callBack w = true) :
    ((connectIfAutomatic env (w.shifted env callBack)).1 ≠ SCARD_S_SUCCESS ∧
      Rounds (connectIfAutomatic env (w.shifted env callBack)).2
        (pollTagLists env callBack w).2) ∨
    ∃ lists, Collected (connectIfAutomatic env (w.shifted env callBack)).2
      (pollTagLists env callBack w).2 lists := by
  have ho := @pollTagLists_outcome env callBack w
  generalize pollTagLists env callBack w = x at ho ⊢
  obtain ⟨ok, w'⟩ := x
  cases ho with
  | unconnected hc => exact absurd (h.symm.trans hc) (by simp)
  | stopped _ stop after => exact .inl ⟨stop, after⟩
  | read _ _ collected => exact .inr ⟨_, collected⟩

/-- A connection phase that fails leaves the empty list. -/
lemma stopped_tagList {env : Env} {callBack} {w w' : World}
    (after : Rounds (connectIfAutomatic env (w.shifted env callBack)).2 w') :
    w'.readerManager.tagList = .empty := by
  rw [after.tagList, connectIfAutomatic_connects.tagList]
  exact shiftTagLists_tagList

/-- A poll that is connected holds the UIDs delivered in it. -/
lemma tagListCheck_connected {env : Env} {callBack} {w : World}
    (h : connected env callBack w = true) :
    (tagListCheck env callBack w).readerManager.tagList.uids = delivered env callBack w := by
  rw [delivered, tagListCheck_uids.1, tagListCheck_uids.2]
  obtain ⟨_, after⟩ | ⟨lists, collected⟩ := connected_outcome h
  · rw [after.answered, shifted_answered, List.drop_length, stopped_tagList after]
    rfl
  · rw [collected.answered, shifted_answered, List.drop_left, tTagList.uids, collected.entries]

/-- A poll that compares the lists is connected. -/
lemma connected_of_reaches {env : Env} {callBack} {w : World} (h : reaches env callBack w = true) :
    connected env callBack w = true := by
  by_contra hc
  rw [(tagListCheck_unconnected (Bool.eq_false_iff.2 hc)).1] at h
  cases h

/-- A poll that is connected compares with the list held before. -/
lemma pollTagLists_previous {env : Env} {callBack} {w : World}
    (h : connected env callBack w = true) :
    (pollTagLists env callBack w).2.previousTagList = w.readerManager.tagList := by
  have hs : (connectIfAutomatic env (w.shifted env callBack)).2.previousTagList =
      w.readerManager.tagList := by
    rw [connectIfAutomatic_connects.previousTagList, World.shifted, shiftTagLists_previousTagList,
      connectPcscd_prepares.tagList]
  obtain ⟨_, after⟩ | ⟨lists, collected⟩ := connected_outcome h
  · exact after.previousTagList.trans hs
  · exact collected.reads.previousTagList.trans hs

/-- A poll dispatches the changes of the UIDs if it succeeds, and no event of a tag otherwise. -/
lemma tagListCheck_events {env : Env} {callBack} {w : World} :
    ∃ l, (∀ e ∈ l, e.uid = none) ∧ (tagListCheck env callBack w).events = w.events ++ l ++
      if reaches env callBack w then
        changes w.readerManager.tagList.uids (delivered env callBack w)
      else [] := by
  obtain ⟨l, e, hl⟩ := (@pollTagLists_outcome env callBack w).quiet
  refine ⟨l, hl, ?_⟩
  rw [tagListCheck_eq]
  by_cases h : reaches env callBack w
  · have hu := tagListCheck_connected (connected_of_reaches h)
    rw [tagListCheck_uids.1] at hu
    have hp := pollTagLists_previous (connected_of_reaches h)
    simp only [h, if_true]
    rw [processTagLists_processed.events, e, List.append_assoc, hu, hp]
    rfl
  · simp only [h, Bool.false_eq_true, if_false, List.append_nil]
    exact e

/-- The UID of an event, if it is of the given kind. -/
def Event.uidOf (eventType : tEventType) (e : Event) : Option CString :=
  if e.eventType = eventType then e.uid else none

/-- The UIDs of the events of a kind that the poll dispatches. -/
def dispatched (env : Env) (callBack : Bool) (w : World) (eventType : tEventType) : List CString :=
  ((tagListCheck env callBack w).events.drop w.events.length).filterMap (Event.uidOf eventType)

/-- The UIDs read by the last of the first `n` polls that reached `processTagLists`. -/
def lastList (env : Env) (callBack : Bool) (setting : BitVec 32) : Nat → List CString
  | 0 => []
  | n + 1 =>
    if reaches env callBack (polls env callBack setting n) then
      (polls env callBack setting (n + 1)).readerManager.tagList.uids
    else lastList env callBack setting n

/-- A poll that fails after it has shifted the lists delivers the UIDs that were held before. -/
def KeepsList (env : Env) (callBack : Bool) (w : World) : Prop :=
  connected env callBack w = true → reaches env callBack w = false →
    ∀ u, u ∈ delivered env callBack w ↔ u ∈ w.readerManager.tagList.uids

/-- One more poll. -/
@[simp] lemma polls_succ {env : Env} {callBack setting n} :
    polls env callBack setting (n + 1) = tagListCheck env callBack (polls env callBack setting n) :=
  Function.iterate_succ_apply' ..

/-- The UIDs of events of one kind. -/
lemma filterMap_tagEvent {l : List CString} {e e' : tEventType} :
    (l.map (tagEvent e)).filterMap (Event.uidOf e') = if e = e' then l else [] := by
  rw [List.filterMap_map]
  split
  next h => simp [Function.comp_def, Event.uidOf, tagEvent, h]
  next h => simp [Function.comp_def, Event.uidOf, tagEvent, h]

/-- A poll that succeeds dispatches the difference to the list held before. -/
lemma mem_dispatched {env : Env} {callBack} {w : World} (h : reaches env callBack w = true) (u) :
    (u ∈ dispatched env callBack w .TAG_OUT ↔ u ∈ w.readerManager.tagList.uids ∧
      u ∉ (tagListCheck env callBack w).readerManager.tagList.uids) ∧
    (u ∈ dispatched env callBack w .TAG_IN ↔ u ∉ w.readerManager.tagList.uids ∧
      u ∈ (tagListCheck env callBack w).readerManager.tagList.uids) := by
  obtain ⟨l, hl, e⟩ := @tagListCheck_events env callBack w
  rw [if_pos h, ← tagListCheck_connected (connected_of_reaches h), List.append_assoc] at e
  have hnil : ∀ t, l.filterMap (Event.uidOf t) = [] := fun t =>
    List.filterMap_eq_nil_iff.2 fun x hx => by simp [Event.uidOf, hl x hx]
  simp only [dispatched, e, List.drop_left, List.filterMap_append, hnil, changes,
    filterMap_tagEvent]
  simp [missing, and_comm]

/-- Under the condition the list held is the list of the last poll that succeeded. -/
lemma mem_lastList {env : Env} {callBack setting n}
    (h : ∀ m < n, KeepsList env callBack (polls env callBack setting m)) (u) :
    u ∈ (polls env callBack setting n).readerManager.tagList.uids ↔
      u ∈ lastList env callBack setting n := by
  induction n with
  | zero => exact .rfl
  | succ n ih =>
    have ih := ih fun m hm => h m (Nat.lt_succ_of_lt hm)
    have keeps := h n (Nat.lt_succ_self n)
    rw [lastList, polls_succ]
    generalize polls env callBack setting n = w at ih keeps
    by_cases hr : reaches env callBack w = true
    · rw [if_pos hr]
    rw [if_neg hr, ← ih]
    by_cases hc : connected env callBack w = true
    · rw [tagListCheck_connected hc]
      exact keeps hc (Bool.eq_false_iff.2 hr) u
    · rw [(tagListCheck_unconnected (Bool.eq_false_iff.2 hc)).2.tagList]

/-- Failed polls lose and invent no tag events in a run in which those that fail after the shift
deliver the UIDs that are held: every other poll dispatches the difference between its list and
that of the last poll that got so far. -/
theorem events_of_kept_lists {env : Env} {callBack setting n}
    (h : ∀ m < n, KeepsList env callBack (polls env callBack setting m))
    (hr : reaches env callBack (polls env callBack setting n) = true) (u : CString) :
    (u ∈ dispatched env callBack (polls env callBack setting n) .TAG_OUT ↔
      u ∈ lastList env callBack setting n ∧
        u ∉ (polls env callBack setting (n + 1)).readerManager.tagList.uids) ∧
    (u ∈ dispatched env callBack (polls env callBack setting n) .TAG_IN ↔
      u ∉ lastList env callBack setting n ∧
        u ∈ (polls env callBack setting (n + 1)).readerManager.tagList.uids) := by
  rw [← mem_lastList h u, polls_succ]
  exact mem_dispatched hr u

/-- The daemon is started late: the first poll finds no pcscd. -/
def lateStart : Env :=
  { plain [acr0] fun _ _ => some [0xab, 0xcd] with
    SCardEstablishContext := fun log =>
      if log = [] then (SCARD_E_NO_SERVICE, 0) else (SCARD_S_SUCCESS, 1) }

/-- After a failed first poll, the second one dispatches what it reads. -/
theorem events_lateStart :
    ("abcd".toList ∈ dispatched lateStart true (polls lateStart true READER_BIT_AUTO 1) .TAG_OUT ↔
      "abcd".toList ∈ lastList lateStart true READER_BIT_AUTO 1 ∧
        "abcd".toList ∉ (polls lateStart true READER_BIT_AUTO 2).readerManager.tagList.uids) ∧
    ("abcd".toList ∈ dispatched lateStart true (polls lateStart true READER_BIT_AUTO 1) .TAG_IN ↔
      "abcd".toList ∉ lastList lateStart true READER_BIT_AUTO 1 ∧
        "abcd".toList ∈ (polls lateStart true READER_BIT_AUTO 2).readerManager.tagList.uids) := by
  refine events_of_kept_lists (fun m hm hc => ?_) (by decide +kernel) _
  obtain rfl : m = 0 := by omega
  exact absurd hc (by decide +kernel)

/-- Enumerating the readers fails once, in the second poll. -/
def hiccup : Env :=
  { plain [acr0] fun _ _ => some [0xab, 0xcd] with
    SCardListReaders := fun log =>
      if enumerations log = 3 ∧ .SCardListReaders none SCARD_E_NO_SERVICE [] ∉ log then
        (SCARD_E_NO_SERVICE, [])
      else (SCARD_S_SUCCESS, [acr0]) }

/-- The tag is read by the first and by the third poll, and the third poll dispatches it as new. -/
theorem event_invented_hiccup :
    reaches hiccup true (polls hiccup true READER_BIT_AUTO 2) = true ∧
      "abcd".toList ∈ dispatched hiccup true (polls hiccup true READER_BIT_AUTO 2) .TAG_IN ∧
      "abcd".toList ∈ lastList hiccup true READER_BIT_AUTO 2 := by
  decide +kernel

/-- The appearances and disappearances of a UID among the events. -/
def appearances (u : CString) (events : List Event) : List Bool :=
  events.filterMap fun e =>
    if e.uid = some u then
      match e.eventType with
      | .TAG_IN => some true
      | .TAG_OUT => some false
      | _ => none
    else none

/-- How often a UID is delivered in the last of the first `n` polls. -/
def occurrences (env : Env) (callBack : Bool) (setting : BitVec 32) (u : CString) : Nat → Nat
  | 0 => 0
  | n + 1 => (delivered env callBack (polls env callBack setting n)).count u

/-- The appearances in some events are those in their parts. -/
@[simp] lemma appearances_append {u l l'} :
    appearances u (l ++ l') = appearances u l ++ appearances u l' := List.filterMap_append ..

/-- Events of readers are no appearances. -/
lemma appearances_quiet {u} {l : List Event} (h : ∀ e ∈ l, e.uid = none) : appearances u l = [] :=
  List.filterMap_eq_nil_iff.2 fun e he => by simp [h e he]

/-- The event that announces an appearance or a disappearance. -/
def announcement (b : Bool) : tEventType := if b then .TAG_IN else .TAG_OUT

/-- An event counts for its own UID only. -/
lemma appearances_cons {u v b l} :
    appearances u (tagEvent (announcement b) v :: l) =
      if v = u then b :: appearances u l else appearances u l := by
  by_cases hv : v = u <;> cases b <;> simp [appearances, tagEvent, announcement, hv]

/-- The events of missing UIDs: one for each entry, if the UID is missing. -/
lemma appearances_missing {u l l' b} :
    appearances u ((missing l l').map (tagEvent (announcement b))) =
      .replicate (if u ∈ l' then 0 else l.count u) b := by
  induction l with
  | nil => simp [appearances]
  | cons v l ih =>
    by_cases hv : v ∈ l'
    · rw [missing_cons_of_mem hv, ih]
      by_cases hu : u ∈ l'
      · rw [if_pos hu, if_pos hu]
      · have hne : v ≠ u := by rintro rfl; exact hu hv
        rw [List.count_cons_of_ne hne]
    · rw [missing_cons_of_notMem hv, List.map_cons, appearances_cons, ih]
      by_cases hvu : v = u
      · subst hvu
        simp [hv, List.replicate_succ]
      · rw [if_neg hvu, List.count_cons_of_ne hvu]

/-- The changes announce a UID as often as it appears or disappears. -/
lemma appearances_changes {u l l'} :
    appearances u (changes l l') = announce (l.count u) (l'.count u) := by
  have out := @appearances_missing u l l' false
  have inn := @appearances_missing u l' l true
  simp only [announcement, Bool.false_eq_true, if_false, if_true] at out inn
  rw [changes, appearances_append, out, inn, announce]
  by_cases h : u ∈ l <;> by_cases h' : u ∈ l' <;> simp [h, h', List.count_eq_zero]

/-- After polls that all compare the lists, a UID is held as often as it was found last. -/
lemma count_polls {env : Env} {callBack setting n} {u : CString}
    (h : ∀ m < n, reaches env callBack (polls env callBack setting m) = true) :
    (polls env callBack setting n).readerManager.tagList.uids.count u =
      occurrences env callBack setting u n := by
  cases n with
  | zero => rfl
  | succ n =>
    rw [polls_succ, tagListCheck_connected (connected_of_reaches (h n (Nat.lt_succ_self n)))]
    rfl

/-- The events of polls that all compare the lists announce what was found. -/
lemma appearances_polls {env : Env} {callBack setting n} {u : CString}
    (h : ∀ m < n, reaches env callBack (polls env callBack setting m) = true) :
    appearances u (polls env callBack setting n).events =
      announcements (occurrences env callBack setting u) n := by
  induction n with
  | zero => rfl
  | succ n ih =>
    have h' := fun m (hm : m < n) => h m (Nat.lt_succ_of_lt hm)
    obtain ⟨l, hl, e⟩ := @tagListCheck_events env callBack (polls env callBack setting n)
    rw [if_pos (h n (Nat.lt_succ_self n))] at e
    rw [polls_succ, e, appearances_append, appearances_append, appearances_quiet hl,
      List.append_nil, ih h', appearances_changes, count_polls h', announcements_succ]
    rfl

/-- In a run in which every poll succeeds, the events of a UID alternate and begin with `TAG_IN`
iff the UID is never delivered several times in the poll in which it appears, nor in the last one
before it disappears. -/
theorem events_alternate_iff {env : Env} {callBack setting n} {u : CString}
    (h : ∀ m < n, reaches env callBack (polls env callBack setting m) = true) :
    Alternates (appearances u (polls env callBack setting n).events) ↔
      ∀ m < n, ¬ Jumps (occurrences env callBack setting u m)
        (occurrences env callBack setting u (m + 1)) := by
  rw [appearances_polls h]
  exact alternates_announcements_iff rfl

/-- A tag lies on the reader during the second poll only. -/
def visit : Env :=
  plain [acr0] fun log _ =>
    if (log.countP fun c => c matches .getTagList ..) = 1 then some [0xab, 0xcd] else none

/-- The tag appears once and disappears once. -/
theorem events_alternate_visit :
    Alternates (appearances "abcd".toList (polls visit true READER_BIT_AUTO 3).events) := by
  rw [events_alternate_iff (by decide +kernel)]
  decide +kernel

/-- Two readers that read tags of the same UID. -/
def twins : Env := plain [acr0, acr1] fun _ _ => some [0xab, 0xcd]

/-- The first poll succeeds, and dispatches `TAG_IN` twice for the UID. -/
theorem event_repeated_twins :
    reaches twins true (polls twins true READER_BIT_AUTO 0) = true ∧
      ¬ Alternates (appearances "abcd".toList (polls twins true READER_BIT_AUTO 1).events) := by
  decide +kernel

end TagEventor
