import TagEventor.Poll.Status
import TagEventor.Tray.Rules

/-!
# The scripts in a session

Every tag event of a session, whatever is edited in the meantime, starts one script of a rule that
is enabled when the event is dispatched, or leads to one notification of a failure, in the order of
the events (`scripts_account`). Therefore, if no failure is notified, the scripts have been told the
tags that are held, as long as polls that fail deliver what is held already
(`scripts_mirror_tags`).
-/

namespace TagEventor
open Interact Machine Replay Session

/-- The UID and the word that the script of an event is called with, if it is an event of a tag. -/
def scriptArgs (e : Event) : Option (CString × CString) :=
  match e.eventType, e.uid with
  | .TAG_IN, some uid => some (uid, "IN".toList)
  | .TAG_OUT, some uid => some (uid, "OUT".toList)
  | _, _ => none

/-- A notification that no script was started for a tag. -/
def Notification.failed (n : Notification) : Option CString :=
  match n.body with
  | .uid uid => if n.message = TAG_IN_FAILED ∨ n.message = TAG_OUT_FAILED then some uid else none
  | _ => none

/-- The UIDs for which it was notified that no script was started. -/
def failures (notified : List Notification) : List CString := notified.filterMap Notification.failed

/-- A tag event, with the rules and the calls of pcscd by the time it is dispatched. -/
structure Occasion where
  args : CString × CString
  rules : List Rule
  log : List Call

/-- What became of the events of tags: the children that were started, the failures that were
notified, and how often `fork` was called. -/
inductive Accounted (d : Desktop) :
    List Occasion → List Execl → List CString → Nat → Prop where
  | nil : Accounted d [] [] [] 0
  | started {occasions children failed k uid event rules log j rule} :
    Accounted d occasions children failed k →
    (candidates (d.found log) uid rules.reverse)[j]? = some rule →
    (∀ i < j, d.forks (k + i) < 0) →
    0 ≤ d.forks (k + j) →
    Accounted d (occasions ++ [⟨(uid, event), rules, log⟩])
      (children ++ [scriptOf uid event rule]) failed (k + (j + 1))
  | failed {occasions children failed k uid event rules log} :
    Accounted d occasions children failed k →
    (∀ j < (candidates (d.found log) uid rules.reverse).length, d.forks (k + j) < 0) →
    Accounted d (occasions ++ [⟨(uid, event), rules, log⟩]) children (failed ++ [uid])
      (k + (candidates (d.found log) uid rules.reverse).length)

section
variable {d : Desktop} {mem : Malloc} {ops : List RulesOp} {s : Session}

/-- What became of the events so far. -/
def AccountedIn (d : Desktop) (occasions : List Occasion) (s : Session) : Prop :=
  Accounted d occasions (startedChildren s.calls) (failures s.tray.notified) s.forked

/-- The state of `host` is the number of calls of `fork`. -/
lemma host_forked {found forks} {α : Type} {p : Prog HostCall Int α} {k} :
    (p.run (host found forks) k).2 =
      k + (forkCalls (p.transcript (host found forks) k)).length := by
  induction p generalizing k with
  | ret a => rfl
  | ask q next ih =>
    refine (ih _).trans ?_
    cases q with
    | stat path => rfl
    | fork child => exact Nat.add_right_comm k 1 _

/-- The children that some calls start are those of their parts. -/
lemma startedChildren_append {calls calls' : List (HostCall × Int)} :
    startedChildren (calls ++ calls') = startedChildren calls ++ startedChildren calls' :=
  List.filterMap_append ..

/-- More notifications, more failures. -/
lemma failures_append {l l' : List Notification} : failures (l ++ l') = failures l ++ failures l' :=
  List.filterMap_append ..

/-- Notifications about readers are no failures. -/
lemma AboutReaders.failures {l : List Notification} (about : AboutReaders s l) :
    failures l = [] := by
  refine List.filterMap_eq_nil_iff.2 fun n mem => ?_
  have other := (about n mem).2
  unfold Notification.failed
  split
  next uid body => exact absurd body (other uid)
  next => rfl

/-- That no script was started is a failure. -/
lemma failures_notify {t : SystemTray} {message uid}
    (failed : message = TAG_IN_FAILED ∨ message = TAG_OUT_FAILED) :
    failures (t.systemTrayNotify message (.uid uid)).notified = failures t.notified ++ [uid] := by
  have counts : failures [⟨message, .uid uid, t.notifyInit⟩] = [uid] := by
    simp only [failures, List.filterMap_cons, Notification.failed, if_pos failed]
    rfl
  show failures (t.notified ++ [_]) = _
  rw [failures_append, counts]

/-- That a tag was put on a reader is not a failure. -/
lemma failures_tagIn {t : SystemTray} {uid} :
    failures (t.systemTrayNotify "Tag IN".toList (.uid uid)).notified = failures t.notified := by
  show failures (t.notified ++ [_]) = _
  rw [failures_append]
  exact List.append_nil _

/-- The script of a rule is started, or the failure is notified. -/
lemma runScript_accounted {eventType uid failed event occasions} (h : TableIs mem ops s.table)
    (isTag : IsTagEvent eventType event)
    (message : failed = TAG_IN_FAILED ∨ failed = TAG_OUT_FAILED)
    (account : AccountedIn d occasions s) :
    AccountedIn d (occasions ++ [⟨(uid, event), rulesAfter ops, s.world.log⟩])
      (s.runScript d eventType uid failed) := by
  obtain ⟨result, run, tried⟩ := @TableIs.tried mem ops s.table (d.found s.world.log) d.forks uid
    event eventType s.forked h isTag
  have ends := tried.ends
  unfold AccountedIn at account
  unfold runScript
  dsimp only
  rw [run, host_forked]
  generalize Prog.transcript _ _ _ = calls at ends ⊢
  generalize children : startedChildren calls = started at ends
  generalize forkCalls calls = forked at ends ⊢
  cases ends with
  | @worked j rule at_j positive before =>
    obtain ⟨inside, _⟩ := List.getElem?_eq_some_iff.1 at_j
    show Accounted d _ (startedChildren (s.calls ++ calls)) _ (s.forked + _)
    rw [startedChildren_append, children, List.length_map, List.length_take,
      Nat.min_eq_left inside]
    exact .started account at_j before positive
  | failed all =>
    show Accounted d _ (startedChildren (s.calls ++ calls))
      (failures (s.tray.systemTrayNotify failed (.uid uid)).notified) (s.forked + _)
    rw [startedChildren_append, children, List.append_nil, failures_notify message,
      List.length_map]
    exact .failed account all

/-- The occasion of an event, if it is one of a tag. -/
def occasionOf (rules : List Rule) (log : List Call) (e : Event) : Option Occasion :=
  (scriptArgs e).map fun args => ⟨args, rules, log⟩

/-- An event of a tag is accounted for by the rules when it is dispatched, other events start and
fail nothing. -/
lemma eventDispatch_accounted {e occasions} (h : TableIs mem ops s.table) (running : s.ended = none)
    (account : AccountedIn d occasions s) :
    AccountedIn d (occasions ++ (occasionOf (rulesAfter ops) s.world.log e).toList)
      (s.eventDispatch d e) := by
  have other (none : scriptArgs e = none) {message body} (noUid : ∀ uid, body ≠ .uid uid) :
      AccountedIn d (occasions ++ (occasionOf (rulesAfter ops) s.world.log e).toList)
        (s.notify message body) := by
    have quiet : failures (s.notify message body).tray.notified = failures s.tray.notified := by
      have about : AboutReaders s [⟨message, body, s.tray.notifyInit⟩] := fun n mem =>
        List.mem_singleton.1 mem ▸ ⟨rfl, noUid⟩
      show failures (s.tray.notified ++ [_]) = _
      rw [failures_append, about.failures, List.append_nil]
    unfold occasionOf AccountedIn
    rw [none, quiet]
    exact (List.append_nil occasions).symm ▸ account
  unfold Session.eventDispatch
  rw [if_neg (not_not_intro running)]
  split
  next uid type body =>
    have args : scriptArgs e = some (uid, "IN".toList) := by
      unfold scriptArgs
      rw [type, body]
    unfold occasionOf
    rw [args]
    refine runScript_accounted (s := s.notify "Tag IN".toList (.uid uid)) h (.inl ⟨rfl, rfl⟩)
      (.inl rfl) ?_
    show Accounted d occasions _
      (failures (s.tray.systemTrayNotify "Tag IN".toList (.uid uid)).notified) _
    rw [failures_tagIn]
    exact account
  next uid type body =>
    have args : scriptArgs e = some (uid, "OUT".toList) := by
      unfold scriptArgs
      rw [type, body]
    unfold occasionOf
    rw [args]
    exact runScript_accounted h (.inr ⟨rfl, rfl⟩) (.inr rfl) account
  next type => exact other (by unfold scriptArgs; rw [type]) nofun
  next type => exact other (by unfold scriptArgs; rw [type]) nofun
  next type => exact other (by unfold scriptArgs; rw [type]) nofun
  next noIn noOut =>
    have none : scriptArgs e = none := by
      unfold scriptArgs
      split
      next uid type body => exact absurd body (noIn uid type)
      next uid type body => exact absurd body (noOut uid type)
      next => rfl
    unfold occasionOf
    rw [none]
    exact (List.append_nil occasions).symm ▸ account

/-- All events of a poll, in their order. -/
lemma eventDispatch_all {events : List Event} {occasions} (h : TableIs mem ops s.table)
    (running : s.ended = none) (account : AccountedIn d occasions s) :
    AccountedIn d (occasions ++ events.filterMap (occasionOf (rulesAfter ops) s.world.log))
      (events.foldl (Session.eventDispatch d) s) := by
  induction events generalizing s occasions with
  | nil =>
    show AccountedIn d (occasions ++ []) s
    rwa [List.append_nil]
  | cons e events ih =>
    have reacts := @eventDispatch_reacts d s e
    have next := ih (s := s.eventDispatch d e) (reacts.table.symm ▸ h)
      ((eventDispatch_running h).trans running) (eventDispatch_accounted (e := e) h running account)
    rw [reacts.world] at next
    rw [List.foldl_cons]
    have split : occasions ++ (e :: events).filterMap (occasionOf (rulesAfter ops) s.world.log) =
        occasions ++ (occasionOf (rulesAfter ops) s.world.log e).toList ++
          events.filterMap (occasionOf (rulesAfter ops) s.world.log) := by
      rw [List.append_assoc, List.filterMap_cons]
      cases occasionOf (rulesAfter ops) s.world.log e <;> rfl
    rw [split]
    exact next

/-- The tag events of a poll, which dispatches them with these rules. -/
def pollOccasions (d : Desktop) (rules : List Rule) (s : Session) : List Occasion :=
  let w := tagListCheck d.env true s.world
  (w.events.drop s.world.events.length).filterMap (occasionOf rules w.log)

/-- The callbacks of a poll start nothing and notify nothing. -/
lemma poll_accounted {occasions} (h : TableIs mem ops s.table) (running : s.ended = none)
    (account : AccountedIn d occasions s) :
    AccountedIn d (occasions ++ pollOccasions d (rulesAfter ops) s) (s.poll d) := by
  unfold Session.poll pollOccasions
  generalize tagListCheck d.env true s.world = w
  dsimp only
  have dispatch : AccountedIn d (occasions ++ (w.events.drop s.world.events.length).filterMap
      (occasionOf (rulesAfter ops) w.log)) (s.dispatchEvents d w) :=
    eventDispatch_all (s := { s with world := w }) h running account
  generalize s.dispatchEvents d w = s1 at dispatch ⊢
  have reports := (@setStatus_reports s1 (w.callbacks.drop s.world.callbacks.length)).reactions
  injection reports with forked reports
  injection reports with calls notified
  unfold AccountedIn
  rw [calls, notified, forked]
  exact dispatch

/-- A poll only adds events. -/
lemma tagListCheck_addsEvents {env : Env} {w : World} :
    (tagListCheck env true w).events =
      w.events ++ (tagListCheck env true w).events.drop w.events.length := by
  obtain ⟨l, _, e⟩ := @tagListCheck_events env true w
  rw [e, List.append_assoc, List.drop_left]

/-- The tag events that an input leads to: those of the poll, if it is a timeout that is
delivered. -/
def inputOccasions (d : Desktop) (rules : List Rule) (s : Session) : Input → List Occasion
  | .timeout id => if s.Delivers (.timeout id) then pollOccasions d rules s else []
  | _ => []

/-- The tag events of a session, each with the rules as they are after the operations `ops` and what
the user did up to its poll, and with the calls of pcscd up to the end of that poll. -/
def occasionsOf (d : Desktop) : List RulesOp → Session → List Input → List Occasion
  | _, _, [] => []
  | ops, s, input :: inputs =>
    inputOccasions d (rulesAfter ops) s input ++
      occasionsOf d (ops ++ tableOps s input) (s.step d input) inputs

/-- The occasions of the last input come after the others. -/
lemma occasionsOf_concat {inputs input} :
    occasionsOf d ops s (inputs ++ [input]) = occasionsOf d ops s inputs ++
      inputOccasions d (rulesAfter (ops ++ tableOpsOf d s inputs)) (s.run d inputs) input := by
  induction inputs generalizing ops s with
  | nil =>
    show inputOccasions d (rulesAfter ops) s input ++ [] =
      inputOccasions d (rulesAfter (ops ++ [])) s input
    rw [List.append_nil, List.append_nil]
  | cons first inputs ih =>
    show inputOccasions d (rulesAfter ops) s first ++ occasionsOf d _ _ (inputs ++ [input]) =
      inputOccasions d (rulesAfter ops) s first ++ occasionsOf d _ _ inputs ++
        inputOccasions d (rulesAfter (ops ++ (tableOps s first ++ _))) _ input
    rw [ih, List.append_assoc, List.append_assoc]
    rfl

end

section
variable {d : Desktop} {c : CommandLine} {number : Nat} {t : RulesTable} {inputs : List Input}

/-- Events that concern no tag call no script. -/
lemma Quiet.scriptArgs {w w' : World} (h : Quiet w w') :
    w'.events.filterMap scriptArgs = w.events.filterMap scriptArgs := by
  obtain ⟨l, e, none⟩ := h
  rw [e, List.filterMap_append, List.append_right_eq_self]
  refine List.filterMap_eq_nil_iff.2 fun event mem => ?_
  unfold TagEventor.scriptArgs
  rw [none event mem]
  cases event.eventType <;> rfl

/-- Steps without a poll leave the events of tags and what became of them alone. -/
lemma handle_quiet {s : Session} {input} (poll : ∀ id, input ≠ .timeout id) :
    (s.handle d input).world.events.filterMap scriptArgs =
        s.world.events.filterMap scriptArgs ∧
      (s.handle d input).calls = s.calls ∧
      failures (s.handle d input).tray.notified = failures s.tray.notified ∧
      (s.handle d input).forked = s.forked := by
  cases input with
  | timeout id => exact absurd rfl (poll id)
  | settings signal =>
    have sets := @handleSettings_sets s signal
    obtain ⟨setting, world⟩ := sets.world
    have events : (s.handleSettings signal).world.events.filterMap scriptArgs =
        s.world.events.filterMap scriptArgs := by rw [world]
    injection sets.reactions with forked reactions
    injection reactions with calls notified
    exact ⟨events, calls, congrArg failures notified, forked⟩
  | editor signal =>
    have edits := @handleEditor_edits d s signal
    exact ⟨congrArg (fun w => w.events.filterMap scriptArgs) edits.world, edits.calls,
      congrArg (fun t => failures t.notified) edits.tray, edits.forked⟩
  | quit =>
    obtain ⟨ended, e⟩ := @iconQuit_eq s
    show s.iconQuit.world.events.filterMap scriptArgs = _ ∧ s.iconQuit.calls = _ ∧
      failures s.iconQuit.tray.notified = _ ∧ s.iconQuit.forked = _
    rw [e]
    exact ⟨rfl, rfl, rfl, rfl⟩
  | system signal =>
    have interrupts := @handleSignal_interrupts d s signal
    obtain ⟨world, ended, l, about, e⟩ := interrupts.same
    refine ⟨interrupts.world.quiet.scriptArgs, ?_⟩
    show (s.handleSignal d signal).calls = _ ∧
      failures (s.handleSignal d signal).tray.notified = _ ∧ (s.handleSignal d signal).forked = _
    rw [e, failures_append, about.failures, List.append_nil]
    exact ⟨rfl, rfl, rfl⟩

/-- The UIDs and words of the occasions are those of the events. -/
lemma map_args_occasionOf {rules log} {events : List Event} :
    (events.filterMap (occasionOf rules log)).map Occasion.args = events.filterMap scriptArgs := by
  rw [List.map_filterMap]
  refine List.filterMap_congr fun e _ => ?_
  unfold occasionOf
  rw [Option.map_map]
  exact Option.map_id'

/-- What became of the events, as an invariant of the session. -/
lemma accountedIn_run (read : RulesTable.init.rulesTableRead d.mem = .ok (number, t)) :
    let s := (start c t).run d inputs
    let occasions := occasionsOf d [] (start c t) inputs
    occasions.map Occasion.args = s.world.events.filterMap scriptArgs ∧
      AccountedIn d occasions s := by
  induction inputs using List.reverseRecOn with
  | nil => exact ⟨rfl, .nil⟩
  | append_singleton inputs input ih =>
    have inStep := @rulesInStep_run d c number t inputs read
    obtain ⟨args, account⟩ := ih
    intro s occasions
    have after : s = ((start c t).run d inputs).step d input := run_concat
    have more : occasions = _ := occasionsOf_concat
    rw [List.nil_append] at more
    rw [after, more, List.map_append]
    generalize occasionsOf d [] (start c t) inputs = occasions at args account ⊢
    by_cases delivers : ((start c t).run d inputs).Delivers input
    swap
    · have idle {rules} : inputOccasions d rules ((start c t).run d inputs) input = [] := by
        cases input with
        | timeout id => exact if_neg delivers
        | _ => rfl
      rw [Session.step_not delivers, idle, List.append_nil, List.map_nil, List.append_nil]
      exact ⟨args, account⟩
    rw [Session.step_eq delivers]
    have running := delivers.1
    have table := inStep.table (not_outOfMemory running)
    by_cases timeout : ∃ id, input = .timeout id
    · obtain ⟨id, rfl⟩ := timeout
      have own {rules} : inputOccasions d rules ((start c t).run d inputs) (.timeout id) =
          pollOccasions d rules ((start c t).run d inputs) := if_pos delivers
      have events : (((start c t).run d inputs).poll d).world.events = _ :=
        congrArg World.events poll_polls.world
      rw [own]
      refine ⟨?_, poll_accounted table running account⟩
      show _ = (((start c t).run d inputs).poll d).world.events.filterMap scriptArgs
      rw [events, tagListCheck_addsEvents, List.filterMap_append, args, pollOccasions,
        map_args_occasionOf]
    · obtain ⟨events, calls, failed, forked⟩ := @handle_quiet d ((start c t).run d inputs) input
        fun id e => timeout ⟨id, e⟩
      have idle {rules} : inputOccasions d rules ((start c t).run d inputs) input = [] := by
        cases input with
        | timeout id => exact absurd ⟨id, rfl⟩ timeout
        | _ => rfl
      rw [idle, List.append_nil, List.map_nil, List.append_nil, events]
      refine ⟨args, ?_⟩
      unfold AccountedIn
      rw [calls, failed, forked]
      exact account

/-- In every session every event of a tag, in their order, starts one child or leads to one
notification of a failure: of the rules that the user has left by the poll that dispatches the
event, those that are enabled and whose script is found then, the last one for which `fork` does not
fail is started, and a failure is notified only if `fork` fails for all of them. `fork` is not
called for anything else. -/
theorem scripts_account (read : RulesTable.init.rulesTableRead d.mem = .ok (number, t)) :
    let s := (start c t).run d inputs
    let occasions := occasionsOf d [] (start c t) inputs
    occasions.map Occasion.args = s.world.events.filterMap scriptArgs ∧
      Accounted d occasions (startedChildren s.calls) (failures s.tray.notified) s.forked :=
  accountedIn_run read

end

/-- A poll finds a tag. -/
theorem scripts_account_tag : ∃ r, RulesTable.init.rulesTableRead plenty = .ok r ∧
    let s := (start plainLine r.2).run desk [.timeout 1]
    let occasions := occasionsOf desk [] (start plainLine r.2) [.timeout 1]
    occasions.map Occasion.args = s.world.events.filterMap scriptArgs ∧
      Accounted desk occasions (startedChildren s.calls) (failures s.tray.notified) s.forked :=
  ⟨_, rfl, @scripts_account desk plainLine _ _ _ rfl⟩

/-- What a script is told about a tag. -/
def Execl.change (child : Execl) : Option (Change CString) :=
  if child.eventTypeString = "IN".toList then some (.enter child.tagUID)
  else if child.eventTypeString = "OUT".toList then some (.leave child.tagUID)
  else none

/-- What an event says about its tag. -/
def argsChange (args : CString × CString) : Option (Change CString) :=
  if args.2 = "IN".toList then some (.enter args.1)
  else if args.2 = "OUT".toList then some (.leave args.1)
  else none

/-- What a script is told is the change that the event announces. -/
lemma scriptArgs_change {e : Event} : (scriptArgs e).bind argsChange = e.change := by
  unfold scriptArgs Event.change
  cases e.uid with
  | none => cases e.eventType <;> rfl
  | some uid => cases e.eventType <;> rfl

/-- If no failure was notified, the children have been told all events. -/
lemma Accounted.told {d occasions children failed k} (h : Accounted d occasions children failed k)
    (none : failed = []) :
    children.filterMap Execl.change = (occasions.map Occasion.args).filterMap argsChange := by
  induction h with
  | nil => rfl
  | started _ _ _ _ ih =>
    rw [List.filterMap_append, List.map_append, List.filterMap_append, ih none]
    rfl
  | @failed occasions children failed _ uid =>
    exact absurd none (List.concat_ne_nil uid failed)

section
variable {d : Desktop} {c : CommandLine} {number : Nat} {t : RulesTable} {inputs : List Input}

/-- A poll of the session that fails after it has shifted the lists delivers what is held. -/
def PollKeeps (d : Desktop) (s : Session) (input : Input) : Prop :=
  s.Delivers input → (∃ id, input = .timeout id) → KeepsList d.env true s.world

/-- The events so far lead to the UIDs that are held. -/
def EventsTell (w : World) : Prop :=
  replay ∅ (w.events.filterMap Event.change) = w.readerManager.tagList.uids.toFinset

/-- Events that concern no tag say nothing about the list. -/
lemma EventsTell.quiet {w w' : World} (h : EventsTell w) (quiet : Quiet w w')
    (tagList : w'.readerManager.tagList = w.readerManager.tagList) : EventsTell w' := by
  have same := congrArg (List.filterMap argsChange) quiet.scriptArgs
  rw [List.filterMap_filterMap, List.filterMap_filterMap] at same
  simp only [scriptArgs_change] at same
  unfold EventsTell
  rw [same, tagList]
  exact h

/-- The events for a change of the UIDs announce what leaves and what comes. -/
lemma filterMap_changes {l l' : List CString} :
    (changes l l').filterMap Event.change = leaving l l' ++ entering l l' := filterMap_change

/-- A poll tells the changes of the list it keeps. -/
lemma tagListCheck_tells {env : Env} {w : World} (h : EventsTell w)
    (keeps : KeepsList env true w) : EventsTell (tagListCheck env true w) := by
  obtain ⟨l, none, e⟩ := @tagListCheck_events env true w
  have quiet : l.filterMap Event.change = [] := by
    refine List.filterMap_eq_nil_iff.2 fun x mem => ?_
    unfold Event.change
    rw [none x mem]
    cases x.eventType <;> rfl
  unfold EventsTell at h ⊢
  rw [e, List.filterMap_append, List.filterMap_append, quiet, List.append_nil, replay_append, h]
  by_cases reach : reaches env true w = true
  · rw [if_pos reach, filterMap_changes, replay_diff,
      tagListCheck_connected (connected_of_reaches reach)]
  rw [if_neg reach]
  show w.readerManager.tagList.uids.toFinset = _
  by_cases connect : connected env true w = true
  · rw [tagListCheck_connected connect]
    ext uid
    rw [List.mem_toFinset, List.mem_toFinset]
    exact (keeps connect (Bool.eq_false_iff.2 reach) uid).symm
  · rw [(tagListCheck_unconnected (Bool.eq_false_iff.2 connect)).2.tagList]

/-- Every input tells the changes of the list it keeps. -/
lemma handle_tells {s : Session} {input} (h : EventsTell s.world) (delivers : s.Delivers input)
    (keeps : PollKeeps d s input) : EventsTell (s.handle d input).world := by
  cases input with
  | timeout id =>
    show EventsTell (s.poll d).world
    rw [poll_polls.world]
    exact tagListCheck_tells h (keeps delivers ⟨id, rfl⟩)
  | settings signal =>
    obtain ⟨setting, world⟩ := (@handleSettings_sets s signal).world
    show EventsTell (s.handleSettings signal).world
    rw [world]
    exact h
  | editor signal =>
    show EventsTell (s.handleEditor d signal).world
    rw [handleEditor_edits.world]
    exact h
  | quit =>
    obtain ⟨ended, e⟩ := @iconQuit_eq s
    show EventsTell s.iconQuit.world
    rw [e]
    exact h
  | system signal =>
    have connects := (@handleSignal_interrupts d s signal).world
    show EventsTell (s.handleSignal d signal).world
    exact h.quiet connects.quiet connects.tagList

/-- As long as no failure is notified, and polls that fail after they have shifted the lists deliver
what is held, the children of a session have been told in their order exactly of the tags that are
held: the UIDs in the current list are those that were announced and not taken back. -/
theorem scripts_mirror_tags (read : RulesTable.init.rulesTableRead d.mem = .ok (number, t))
    (keeps : Meets (step d) (PollKeeps d) (start c t) inputs)
    (quiet : failures ((start c t).run d inputs).tray.notified = []) :
    let s := (start c t).run d inputs
    replay ∅ ((startedChildren s.calls).filterMap Execl.change) =
      s.world.readerManager.tagList.uids.toFinset := by
  intro s
  obtain ⟨args, account⟩ := @accountedIn_run d c number t inputs read
  have tells : EventsTell s.world := by
    refine keeps.inv (I := fun s : Session => EventsTell s.world) (fun s input h keeps => ?_) rfl
    by_cases delivers : s.Delivers input
    · rw [Session.step_eq delivers]
      exact handle_tells h delivers keeps
    · rwa [Session.step_not delivers]
  rw [account.told quiet, args, List.filterMap_filterMap]
  simp only [scriptArgs_change]
  exact tells

end

/-- The script for the tag has been told of it. -/
theorem scripts_mirror_tags_tag : ∃ r, RulesTable.init.rulesTableRead plenty = .ok r ∧
    let s := (start plainLine r.2).run desk [.timeout 1]
    replay ∅ ((startedChildren s.calls).filterMap Execl.change) =
      s.world.readerManager.tagList.uids.toFinset := by
  refine ⟨_, rfl, @scripts_mirror_tags desk plainLine _ _ _ rfl ?_ (by decide +kernel)⟩
  refine ⟨fun _ _ _ failed => ?_, trivial⟩
  have reach : reaches desk.env true (start plainLine .init).world = true := by decide +kernel
  exact absurd (reach.symm.trans failed) (by decide)

end TagEventor
