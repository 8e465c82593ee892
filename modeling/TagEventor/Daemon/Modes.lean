import TagEventor.Daemon.Program
import TagEventor.Poll.Events

/-!
# Daemon and foreground

`main` dispatches tag events in its poll loop only. What a process dispatches until a signal ends it
(`eventsUntil`) depends on where the `switch` on the run options leaves it: the foreground enters
the loop, while the daemon goes on to disconnect and returns. The two dispatch the same events
exactly if there is nothing to dispatch (`daemon_like_foreground_iff`).
-/

namespace TagEventor
open Interact Machine

/-- What `main` does next: a round of the loop, which `tagListCheck` never ends, or the next call of
the clean-up. -/
def mainStep (env : Env) : Next × World → Next × World
  | (.poll, w) => (.poll, tagListCheck env true w)
  | (.readersDisconnect, w) => (.readersManagerDisconnect, readersDisconnect env w)
  | (.readersManagerDisconnect, w) => (.returned, (readersManagerDisconnect env w).2)
  | (.returned, w) => (.returned, w)

/-- The events that name a tag: those of `TAG_IN` and `TAG_OUT`. -/
def tagEvents (events : List Event) : List Event := events.filter fun e => e.uid.isSome

/-- The tag events that a process dispatches from `next` on, if the signal that ends it arrives when
it has made `n` steps and dispatched `k` tag events in the one after them. -/
def eventsUntil (env : Env) (setting : BitVec 32) (next : Next) (n k : Nat) : List Event :=
  let s := (mainStep env)^[n] (next, .init setting)
  tagEvents s.2.events ++ (tagEvents ((mainStep env s).2.events.drop s.2.events.length)).take k

/-- If the poll compares the lists, the drivers deliver the UIDs that are held. -/
def Unchanged (env : Env) (w : World) : Prop :=
  reaches env true w = true →
    delivered env true w ⊆ w.readerManager.tagList.uids ∧
      w.readerManager.tagList.uids ⊆ delivered env true w

instance (env : Env) (w : World) : Decidable (Unchanged env w) :=
  inferInstanceAs (Decidable (_ → _))

/-- Wherever `daemonize` is left, the daemon goes on to disconnect. -/
lemma runSwitch_daemon {pidString : CString} {σ : Type} {answer : Sys → σ → Ans × σ} {s : σ} {next}
    (returns : ((runSwitch pidString .START_DAEMON).run.run answer s).1 = some next) :
    next = .readersDisconnect := by
  have ensures : Prog.Ensures (fun r => ∀ next, r = some next → next = .readersDisconnect)
      (runSwitch pidString .START_DAEMON).run := by
    apply Prog.Ensures.bind (P := fun _ => True) Prog.ensures_true
    intro r _
    cases r with
    | none =>
      intro next e
      cases e
    | some _ =>
      intro next e
      cases e
      rfl
  exact ensures.run answer s next returns

/-- Without an event of a tag there are no others among the events of tags. -/
lemma tagEvents_quiet {w w' : World} (h : Quiet w w') :
    tagEvents w'.events = tagEvents w.events := by
  obtain ⟨l, e, hl⟩ := h
  have nil : tagEvents l = [] := List.filter_eq_nil_iff.2 fun x hx => by simp [hl x hx]
  rw [e, tagEvents, List.filter_append]
  show tagEvents w.events ++ tagEvents l = tagEvents w.events
  rw [nil, List.append_nil]

/-- The clean-up dispatches no tag events. -/
lemma mainStep_quiet {env : Env} {next : Next} {w : World} (h : next ≠ .poll) :
    (mainStep env (next, w)).1 ≠ .poll ∧ Quiet w (mainStep env (next, w)).2 := by
  cases next with
  | poll =>
    exact absurd rfl h
  | readersDisconnect =>
    exact ⟨nofun, readersDisconnect_connects.toManages.quiet⟩
  | readersManagerDisconnect =>
    exact ⟨nofun, readersManagerDisconnect_manages.quiet⟩
  | returned =>
    exact ⟨nofun, [], (List.append_nil _).symm, nofun⟩

/-- After the loop, or without it, no tag event is dispatched. -/
lemma eventsUntil_cleanUp {env : Env} {setting next n k} (h : next ≠ .poll) :
    eventsUntil env setting next n k = [] := by
  have run : ((mainStep env)^[n] (next, .init setting)).1 ≠ .poll ∧
      tagEvents ((mainStep env)^[n] (next, .init setting)).2.events = [] := by
    induction n with
    | zero =>
      exact ⟨h, rfl⟩
    | succ n ih =>
      rw [Function.iterate_succ_apply']
      obtain ⟨point, quiet⟩ := @mainStep_quiet env _
        ((mainStep env)^[n] (next, .init setting)).2 ih.1
      exact ⟨point, (tagEvents_quiet quiet).trans ih.2⟩
  rw [eventsUntil]
  generalize (mainStep env)^[n] (next, .init setting) = s at run ⊢
  obtain ⟨next, w⟩ := s
  obtain ⟨l, e, hl⟩ := (@mainStep_quiet env next w run.1).2
  have nil : tagEvents l = [] := List.filter_eq_nil_iff.2 fun x hx => by simp [hl x hx]
  dsimp only at run ⊢
  rw [run.2, e, List.drop_left, nil]
  exact List.take_nil

/-- The loop makes one poll after the other. -/
lemma iterate_poll {env : Env} {setting n} :
    (mainStep env)^[n] (.poll, .init setting) = (.poll, polls env true setting n) := by
  induction n with
  | zero => rfl
  | succ n ih =>
    rw [Function.iterate_succ_apply', ih, polls_succ]
    rfl

/-- There are no changes iff the sets of UIDs are the same. -/
lemma changes_eq_nil {l l' : List CString} : changes l l' = [] ↔ l' ⊆ l ∧ l ⊆ l' := by
  simp [changes, missing, List.filter_eq_nil_iff, List.subset_def, and_comm]

/-- All changes are events of tags. -/
lemma tagEvents_changes {l l' : List CString} : tagEvents (changes l l') = changes l l' := by
  apply List.filter_eq_self.2
  intro e he
  simp only [changes, List.mem_append, List.mem_map] at he
  rcases he with ⟨u, _, rfl⟩ | ⟨u, _, rfl⟩
  · rfl
  · rfl

/-- The tag events of a poll are the changes, if it compares the lists. -/
lemma tagListCheck_tagEvents {env : Env} {w : World} :
    ∃ l, (tagListCheck env true w).events = w.events ++ l ∧
      (tagEvents l = [] ↔ Unchanged env w) := by
  obtain ⟨l, hl, e⟩ := @tagListCheck_events env true w
  have nil : tagEvents l = [] := List.filter_eq_nil_iff.2 fun x hx => by simp [hl x hx]
  refine ⟨_, e.trans (List.append_assoc ..), ?_⟩
  unfold Unchanged
  rw [tagEvents, List.filter_append]
  show tagEvents l ++ tagEvents _ = [] ↔ _
  rw [nil, List.nil_append]
  split
  next h => simp [h, tagEvents_changes, changes_eq_nil]
  next h => simp [h, tagEvents]

/-- The foreground dispatches nothing up to the signal iff the UIDs do not change. -/
lemma eventsUntil_poll {env : Env} {setting n k} :
    eventsUntil env setting .poll n k = [] ↔
      (∀ m < n, Unchanged env (polls env true setting m)) ∧
        (0 < k → Unchanged env (polls env true setting n)) := by
  have before : tagEvents (polls env true setting n).events = [] ↔
      ∀ m < n, Unchanged env (polls env true setting m) := by
    induction n with
    | zero => simp [polls, World.init, tagEvents]
    | succ n ih =>
      obtain ⟨l, e, hl⟩ := @tagListCheck_tagEvents env (polls env true setting n)
      rw [polls_succ, e, tagEvents, List.filter_append, List.append_eq_nil_iff]
      show tagEvents _ = [] ∧ tagEvents l = [] ↔ _
      rw [ih, hl, Nat.forall_lt_succ_right]
  obtain ⟨l, e, hl⟩ := @tagListCheck_tagEvents env (polls env true setting n)
  rw [eventsUntil, iterate_poll, List.append_eq_nil_iff, before]
  apply and_congr_right
  intro _
  show (tagEvents ((tagListCheck env true _).events.drop _)).take k = [] ↔ _
  rw [e, List.drop_left, List.take_eq_nil_iff, hl]
  constructor
  · rintro (zero | unchanged) pos
    · exact absurd zero (Nat.ne_of_gt pos)
    · exact unchanged
  · intro h
    exact (Nat.eq_zero_or_pos k).imp_right h

/-- Up to a signal the daemon dispatches the tag events that the foreground dispatches iff in the
polls of the foreground up to then, the UIDs never change. -/
theorem daemon_like_foreground_iff {env : Env} {setting : BitVec 32} {pidString : CString}
    {σ : Type} {answer : Sys → σ → Ans × σ} {s : σ} {next next' : Next}
    (daemon : ((runSwitch pidString .START_DAEMON).run.run answer s).1 = some next)
    (foreground : ((runSwitch pidString .FOREGROUND).run.run answer s).1 = some next') (n k : Nat) :
    eventsUntil env setting next n k = eventsUntil env setting next' n k ↔
      (∀ m < n, Unchanged env (polls env true setting m)) ∧
        (0 < k → Unchanged env (polls env true setting n)) := by
  obtain rfl := runSwitch_daemon daemon
  obtain rfl : Next.poll = next' := Option.some.inj foreground
  rw [@eventsUntil_cleanUp env setting .readersDisconnect n k nofun]
  exact eq_comm.trans eventsUntil_poll

/-- The system calls of a child that becomes a daemon. -/
def succeeds : Sys → Unit → Ans × Unit
  | .getpid, s => (⟨2, []⟩, s)
  | .write bytes, s => (⟨bytes.length, []⟩, s)
  | _, s => (⟨0, []⟩, s)

/-- Without a tag, the two do the same. -/
theorem daemon_like_foreground_noTag :
    eventsUntil (plain [acr0] fun _ _ => none) READER_BIT_AUTO .readersDisconnect 2 1 =
      eventsUntil (plain [acr0] fun _ _ => none) READER_BIT_AUTO .poll 2 1 := by
  refine (@daemon_like_foreground_iff _ _ [] Unit succeeds () _ _ rfl rfl 2 1).2 ⟨?_, ?_⟩
  · decide +kernel
  · decide +kernel

/-- The first poll of the foreground dispatches `TAG_IN`, and the daemon never does. -/
theorem daemon_unlike_foreground_tag :
    ((runSwitch [] .START_DAEMON).run.run succeeds ()).1 = some .readersDisconnect ∧
      ((runSwitch [] .FOREGROUND).run.run succeeds ()).1 = some .poll ∧
      eventsUntil (plain [acr0] fun _ _ => some [0xab, 0xcd]) READER_BIT_AUTO
          .readersDisconnect 1 0 ≠
        eventsUntil (plain [acr0] fun _ _ => some [0xab, 0xcd]) READER_BIT_AUTO .poll 1 0 := by
  refine ⟨rfl, rfl, ?_⟩
  decide +kernel

end TagEventor
