import TagEventor.Poll.Events
import TagEventor.Tray.Windows

/-!
# What the inputs of a session leave alone

A poll leaves the settings, the windows and the table of rules alone, the settings dialog everything
but the settings and the timer, and the rules editor everything but itself and the table. A signal
of the system disconnects readers and connects them, and may end the session.
-/

namespace TagEventor
open Loop

namespace Session

/-- The timer of the polls, with the variable for its interval. -/
def timing (s : Session) : MainLoop Int × Nat × Bool × Int :=
  (s.tray.mainLoop, s.tray.timeoutID, s.tray.readerPollFunction, s.appPollDelayms)

/-- What is shown of the state of the readers. -/
def shownStatus (s : Session) : Bool × List CString := (s.tray.connectedIcon, s.tray.toolTips)

/-- What the scripts of tag events were asked, and what was notified. -/
def reactions (s : Session) : Nat × List (HostCall × Int) × List Notification :=
  (s.forked, s.calls, s.tray.notified)

end Session

open Session

/-- What the dispatch of a tag event leaves alone. -/
structure Reacts (s s' : Session) : Prop where
  world : s'.world = s.world
  appVerbosityLevel : s'.appVerbosityLevel = s.appVerbosityLevel
  timing : s'.timing = s.timing
  shownStatus : s'.shownStatus = s.shownStatus
  notifyInit : s'.tray.notifyInit = s.tray.notifyInit
  settings : s'.settings = s.settings
  editor : s'.editor = s.editor
  table : s'.table = s.table

/-- Nothing has happened. -/
lemma Reacts.refl {s} : Reacts s s := ⟨rfl, rfl, rfl, rfl, rfl, rfl, rfl, rfl⟩

/-- One reaction after the other. -/
lemma Reacts.trans {s s' s''} (h : Reacts s s') (h' : Reacts s' s'') :
    Reacts s s'' where
  world := h'.world.trans h.world
  appVerbosityLevel := h'.appVerbosityLevel.trans h.appVerbosityLevel
  timing := h'.timing.trans h.timing
  shownStatus := h'.shownStatus.trans h.shownStatus
  notifyInit := h'.notifyInit.trans h.notifyInit
  settings := h'.settings.trans h.settings
  editor := h'.editor.trans h.editor
  table := h'.table.trans h.table

/-- What a callback leaves alone. -/
structure Reports (s s' : Session) : Prop where
  world : s'.world = s.world
  appVerbosityLevel : s'.appVerbosityLevel = s.appVerbosityLevel
  timing : s'.timing = s.timing
  reactions : s'.reactions = s.reactions
  notifyInit : s'.tray.notifyInit = s.tray.notifyInit
  settings : s'.settings = s.settings
  dialog : s'.editor.dialog = s.editor.dialog
  rows : s'.editor.rows = s.editor.rows
  table : s'.table = s.table
  ended : s'.ended = s.ended

/-- Nothing has happened. -/
lemma Reports.refl {s} : Reports s s := ⟨rfl, rfl, rfl, rfl, rfl, rfl, rfl, rfl, rfl, rfl⟩

/-- One report after the other. -/
lemma Reports.trans {s s' s''} (h : Reports s s') (h' : Reports s' s'') : Reports s s'' where
  world := h'.world.trans h.world
  appVerbosityLevel := h'.appVerbosityLevel.trans h.appVerbosityLevel
  timing := h'.timing.trans h.timing
  reactions := h'.reactions.trans h.reactions
  notifyInit := h'.notifyInit.trans h.notifyInit
  settings := h'.settings.trans h.settings
  dialog := h'.dialog.trans h.dialog
  rows := h'.rows.trans h.rows
  table := h'.table.trans h.table
  ended := h'.ended.trans h.ended

section
variable {d : Desktop} {s : Session}

/-- Scripts and the notification of their failure are a reaction. -/
lemma runScript_reacts {eventType uid failed} :
    Reacts s (s.runScript d eventType uid failed) := by
  unfold runScript
  dsimp only
  split
  · exact ⟨rfl, rfl, rfl, rfl, rfl, rfl, rfl, rfl⟩
  · exact ⟨rfl, rfl, rfl, rfl, rfl, rfl, rfl, rfl⟩
  · exact ⟨rfl, rfl, rfl, rfl, rfl, rfl, rfl, rfl⟩

/-- A notification is a reaction. -/
lemma notify_reacts {message body} : Reacts s (s.notify message body) :=
  ⟨rfl, rfl, rfl, rfl, rfl, rfl, rfl, rfl⟩

/-- The dispatch of an event is a reaction. -/
lemma eventDispatch_reacts {e} : Reacts s (s.eventDispatch d e) := by
  unfold Session.eventDispatch
  split
  · exact .refl
  split
  · exact notify_reacts.trans runScript_reacts
  · exact runScript_reacts
  · exact notify_reacts
  · exact notify_reacts
  · exact notify_reacts
  · exact .refl

/-- The events that led to a state of the readers are dispatched. -/
lemma dispatchEvents_reacts {w : World} : Reacts { s with world := w } (s.dispatchEvents d w) :=
  foldl_path (R := Reacts) (fun _ => .refl) Reacts.trans (fun _ _ _ => eventDispatch_reacts) _

/-- The callback reports. -/
lemma systemTraySetStatus_reports {c} : Reports s (s.systemTraySetStatus c) := by
  unfold systemTraySetStatus RulesEditor.rulesEditorSetStatus
  split
  · exact ⟨rfl, rfl, rfl, rfl, rfl, rfl, rfl, rfl, rfl, rfl⟩
  · exact ⟨rfl, rfl, rfl, rfl, rfl, rfl, rfl, rfl, rfl, rfl⟩

/-- All callbacks of a poll report. -/
lemma setStatus_reports {callbacks : List Callback} :
    Reports s (callbacks.foldl systemTraySetStatus s) :=
  foldl_path (R := Reports) (fun _ => .refl) Reports.trans
    (fun _ _ _ => systemTraySetStatus_reports) s

/-- What a poll does: it calls `tagListCheck` and leaves the rest of the program alone. -/
structure Polls (d : Desktop) (s s' : Session) : Prop where
  world : s'.world = tagListCheck d.env true s.world
  appVerbosityLevel : s'.appVerbosityLevel = s.appVerbosityLevel
  timing : s'.timing = s.timing
  notifyInit : s'.tray.notifyInit = s.tray.notifyInit
  settings : s'.settings = s.settings
  dialog : s'.editor.dialog = s.editor.dialog
  rows : s'.editor.rows = s.editor.rows
  table : s'.table = s.table

/-- A poll does what polls do. -/
lemma poll_polls : Polls d s (s.poll d) := by
  unfold Session.poll
  generalize e : tagListCheck d.env true s.world = w
  dsimp only
  have dispatch := @dispatchEvents_reacts d s w
  generalize s.dispatchEvents d w = s1 at dispatch ⊢
  have report := @setStatus_reports s1 (w.callbacks.drop s.world.callbacks.length)
  exact
    { world := (report.world.trans dispatch.world).trans e.symm
      appVerbosityLevel := report.appVerbosityLevel.trans dispatch.appVerbosityLevel
      timing := report.timing.trans dispatch.timing
      notifyInit := report.notifyInit.trans dispatch.notifyInit
      settings := report.settings.trans dispatch.settings
      dialog := report.dialog.trans (congrArg RulesEditor.dialog dispatch.editor)
      rows := report.rows.trans (congrArg RulesEditor.rows dispatch.editor)
      table := report.table.trans dispatch.table }

/-- What the settings dialog leaves alone; of the readers it changes only which are asked for. -/
structure Sets (s s' : Session) : Prop where
  world : ∃ readerSetting, s'.world = { s.world with
    readerManager := { s.world.readerManager with readerSetting } }
  shownStatus : s'.shownStatus = s.shownStatus
  reactions : s'.reactions = s.reactions
  notifyInit : s'.tray.notifyInit = s.tray.notifyInit
  editor : s'.editor = s.editor
  table : s'.table = s.table
  ended : s'.ended = s.ended

/-- What the rules editor leaves alone. -/
structure Edits (s s' : Session) : Prop where
  world : s'.world = s.world
  appVerbosityLevel : s'.appVerbosityLevel = s.appVerbosityLevel
  appPollDelayms : s'.appPollDelayms = s.appPollDelayms
  tray : s'.tray = s.tray
  settings : s'.settings = s.settings
  forked : s'.forked = s.forked
  calls : s'.calls = s.calls

/-- The toggles are applied to the setting only. -/
lemma applyToggles_eq {toggles} {m : tReaderManager} :
    ∃ readerSetting, applyToggles toggles m = { m with readerSetting } := by
  refine foldl_inv (I := fun m' : tReaderManager => ∃ readerSetting, m' = { m with readerSetting })
    ?_ ⟨m.readerSetting, rfl⟩
  rintro i _ _ ⟨_, rfl⟩
  split
  · exact ⟨_, rfl⟩
  · exact ⟨_, rfl⟩

/-- Another delay changes nothing of what is shown. -/
lemma systemTraySetPollDelay_keeps {t : SystemTray} {delay} :
    (t.systemTraySetPollDelay delay).connectedIcon = t.connectedIcon ∧
      (t.systemTraySetPollDelay delay).toolTips = t.toolTips ∧
      (t.systemTraySetPollDelay delay).notifyInit = t.notifyInit ∧
      (t.systemTraySetPollDelay delay).notified = t.notified := by
  unfold SystemTray.systemTraySetPollDelay
  dsimp only
  split <;> split <;> exact ⟨rfl, rfl, rfl, rfl⟩

/-- The settings are applied, with what depends on them. -/
lemma applySettings_sets : Sets s s.applySettings := by
  obtain ⟨readerSetting, e⟩ := @applyToggles_eq s.settings.toggles s.world.readerManager
  obtain ⟨icon, toolTips, notifyInit, notified⟩ := @systemTraySetPollDelay_keeps s.tray
    (if (if s.settings.pollDelayScale > POLL_DELAY_MILLI_SECONDS_MAX then
        POLL_DELAY_MILLI_SECONDS_MAX else s.settings.pollDelayScale) < POLL_DELAY_MILLI_SECONDS_MIN
      then POLL_DELAY_MILLI_SECONDS_MIN
      else if s.settings.pollDelayScale > POLL_DELAY_MILLI_SECONDS_MAX then
        POLL_DELAY_MILLI_SECONDS_MAX else s.settings.pollDelayScale)
  exact
    { world := ⟨readerSetting, congrArg (fun m => { s.world with readerManager := m }) e⟩
      shownStatus := Prod.ext icon toolTips
      reactions := congrArg (fun l => (s.forked, s.calls, l)) notified
      notifyInit := notifyInit
      editor := rfl
      table := rfl
      ended := rfl }

/-- The settings dialog does what it is there for. -/
lemma handleSettings_sets {signal} : Sets s (s.handleSettings signal) := by
  cases signal with
  | apply => exact applySettings_sets
  | activate =>
    show Sets s s.settingsDialogActivate
    unfold settingsDialogActivate
    split
    · exact ⟨⟨_, rfl⟩, rfl, rfl, rfl, rfl, rfl, rfl⟩
    · exact ⟨⟨_, rfl⟩, rfl, rfl, rfl, rfl, rfl, rfl⟩
  | toggled i => exact ⟨⟨_, rfl⟩, rfl, rfl, rfl, rfl, rfl, rfl⟩
  | pollDelayMoved value => exact ⟨⟨_, rfl⟩, rfl, rfl, rfl, rfl, rfl, rfl⟩
  | verbosityMoved value => exact ⟨⟨_, rfl⟩, rfl, rfl, rfl, rfl, rfl, rfl⟩
  | close => exact ⟨⟨_, rfl⟩, rfl, rfl, rfl, rfl, rfl, rfl⟩
  | cancel => exact ⟨⟨_, rfl⟩, rfl, rfl, rfl, rfl, rfl, rfl⟩
  | delete => exact ⟨⟨_, rfl⟩, rfl, rfl, rfl, rfl, rfl, rfl⟩

/-- A fault only ends the session. -/
lemma Edits.orCrash {s' : Session} {α : Type} {f : α → Session} {r : Except Fault α}
    (same : Edits s s') (h : ∀ a, Edits s (f a)) : Edits s (s'.orCrash f r) := by
  cases r with
  | ok a => exact h a
  | error fault => exact ⟨same.world, same.appVerbosityLevel, same.appPollDelayms, same.tray,
      same.settings, same.forked, same.calls⟩

/-- Nothing has happened. -/
lemma Edits.refl : Edits s s := ⟨rfl, rfl, rfl, rfl, rfl, rfl, rfl⟩

/-- A rule is enabled or disabled. -/
lemma enableChange_edits {row} : Edits s (s.enableChange row) :=
  Edits.orCrash .refl fun _ => ⟨rfl, rfl, rfl, rfl, rfl, rfl, rfl⟩

/-- A rule is added. -/
lemma addTagEntry_edits : Edits s (s.addTagEntry d) := by
  refine Edits.orCrash .refl fun added => ?_
  exact Edits.orCrash ⟨rfl, rfl, rfl, rfl, rfl, rfl, rfl⟩
    fun _ => ⟨rfl, rfl, rfl, rfl, rfl, rfl, rfl⟩

/-- The rules editor is shown or hidden. -/
lemma rulesEditorActivate_edits {isActive} : Edits s (s.rulesEditorActivate isActive) := by
  unfold rulesEditorActivate
  split
  · exact Edits.orCrash .refl fun _ => ⟨rfl, rfl, rfl, rfl, rfl, rfl, rfl⟩
  split
  · exact ⟨rfl, rfl, rfl, rfl, rfl, rfl, rfl⟩
  · exact ⟨rfl, rfl, rfl, rfl, rfl, rfl, rfl⟩

/-- The rules editor does what it is there for. -/
lemma handleEditor_edits {signal} : Edits s (s.handleEditor d signal) := by
  cases signal with
  | activate isActive => exact rulesEditorActivate_edits
  | add => exact addTagEntry_edits
  | enableToggled i =>
    unfold handleEditor
    dsimp only
    split
    · have own := @enableChange_edits { s with editor := s.editor.click i }
      exact ⟨own.world, own.appVerbosityLevel, own.appPollDelayms, own.tray, own.settings,
        own.forked, own.calls⟩
    · exact ⟨rfl, rfl, rfl, rfl, rfl, rfl, rfl⟩
  | fileSet i => exact ⟨rfl, rfl, rfl, rfl, rfl, rfl, rfl⟩
  | matchToggled i => exact ⟨rfl, rfl, rfl, rfl, rfl, rfl, rfl⟩
  | apply => exact ⟨rfl, rfl, rfl, rfl, rfl, rfl, rfl⟩
  | close => exact ⟨rfl, rfl, rfl, rfl, rfl, rfl, rfl⟩
  | cancel => exact ⟨rfl, rfl, rfl, rfl, rfl, rfl, rfl⟩
  | delete => exact ⟨rfl, rfl, rfl, rfl, rfl, rfl, rfl⟩

/-- The rules editor leaves the timer alone. -/
lemma Edits.timing {s' : Session} (h : Edits s s') : s'.timing = s.timing := by
  unfold Session.timing
  rw [h.tray, h.appPollDelayms]

/-- Notifications that are not about a tag, and find `libnotify` as it is. -/
def AboutReaders (s : Session) (l : List Notification) : Prop :=
  ∀ n ∈ l, n.initialised = s.tray.notifyInit ∧ ∀ uid, n.body ≠ .uid uid

/-- An event of a reader or of pcscd only leads to a notification. -/
lemma eventDispatch_quiet {e : Event} (quiet : e.uid = none) : ∃ l, AboutReaders s l ∧
    s.eventDispatch d e = { s with tray := { s.tray with notified := s.tray.notified ++ l } } := by
  have silent : ∃ l, AboutReaders s l ∧
      s = { s with tray := { s.tray with notified := s.tray.notified ++ l } } :=
    ⟨[], nofun, by rw [List.append_nil]⟩
  have notified {message body} (other : ∀ uid, body ≠ .uid uid) : ∃ l, AboutReaders s l ∧
      s.notify message body = { s with tray := { s.tray with notified := s.tray.notified ++ l } } :=
    ⟨[⟨message, body, s.tray.notifyInit⟩], fun n mem => List.mem_singleton.1 mem ▸ ⟨rfl, other⟩,
      rfl⟩
  unfold Session.eventDispatch
  split
  · exact silent
  rw [quiet]
  split
  next uid _ e => cases e
  next uid _ e => cases e
  · exact notified nofun
  · exact notified nofun
  · exact notified nofun
  · exact silent

/-- Events of readers and of pcscd only lead to notifications. -/
lemma dispatchEvents_quiet {w : World} (quiet : Quiet s.world w) : ∃ l, AboutReaders s l ∧
    s.dispatchEvents d w =
      { s with world := w, tray := { s.tray with notified := s.tray.notified ++ l } } := by
  obtain ⟨events, e, none⟩ := quiet
  unfold dispatchEvents
  rw [e, List.drop_left]
  refine foldl_inv (I := fun s' : Session => ∃ l, AboutReaders s l ∧ s' =
    { s with world := w, tray := { s.tray with notified := s.tray.notified ++ l } })
    ?_ ⟨[], nofun, by rw [List.append_nil]⟩
  rintro event mem _ ⟨l, about, rfl⟩
  obtain ⟨l', about', e'⟩ := @eventDispatch_quiet d
    { s with world := w, tray := { s.tray with notified := s.tray.notified ++ l } } event
    (none event mem)
  refine ⟨l ++ l', fun n mem => ?_, by rw [e', List.append_assoc]⟩
  rcases List.mem_append.1 mem with mem | mem
  · exact about n mem
  · exact about' n mem

/-- What a signal of the system does to the readers; the session goes on, or it exits. -/
structure Interrupts (s s' : Session) : Prop where
  same : ∃ world ended l, AboutReaders s l ∧ s' =
    { s with world, ended, tray := { s.tray with notified := s.tray.notified ++ l } }
  world : Connects s.world s'.world
  ended : s'.ended = s.ended ∨ s'.ended = some .exited

/-- Every signal of the system is handled so. -/
lemma handleSignal_interrupts {signal} : Interrupts s (s.handleSignal d signal) := by
  have exits : Interrupts s { s.dispatchEvents d (readersDisconnect d.env s.world) with
      ended := some .exited } := by
    obtain ⟨l, about, e⟩ := @dispatchEvents_quiet d s _
      (@readersDisconnect_connects d.env s.world).quiet
    rw [e]
    exact ⟨⟨_, _, l, about, rfl⟩, readersDisconnect_connects, .inr rfl⟩
  cases signal with
  | SIGCHLD => exact ⟨⟨_, _, [], nofun, by rw [List.append_nil]; rfl⟩, .refl, .inl rfl⟩
  | SIGHUP =>
    obtain ⟨l, about, e⟩ := @dispatchEvents_quiet d s _ (@handleSIGHUP_connects d.env s.world).quiet
    rw [Session.handleSignal, e]
    exact ⟨⟨_, _, l, about, rfl⟩, handleSIGHUP_connects, .inl rfl⟩
  | SIGINT => exact exits
  | SIGTERM => exact exits

/-- A request to quit ends the session, or not, and `libnotify` is no longer used. -/
lemma iconQuit_eq : ∃ ended,
    s.iconQuit = { s with tray := { s.tray with notifyInit := false }, ended } := by
  unfold iconQuit
  dsimp only
  split
  · exact ⟨_, rfl⟩
  · exact ⟨_, rfl⟩

/-- An input that is delivered is handled. -/
lemma Session.step_eq {input} (h : s.Delivers input) : s.step d input = s.handle d input := if_pos h

/-- An input that is not delivered changes nothing. -/
lemma Session.step_not {input} (h : ¬ s.Delivers input) : s.step d input = s := if_neg h

/-- What the handler of every input that is delivered keeps, the main loop keeps. -/
theorem Session.run_inv {I : Session → Prop} {inputs}
    (pres : ∀ s input, I s → s.Delivers input → I (s.handle d input)) (h : I s) :
    I (s.run d inputs) := by
  refine foldl_inv (I := I) ?_ h
  intro input _ s hs
  by_cases delivered : s.Delivers input
  · rw [step_eq delivered]
    exact pres s input hs delivered
  · rwa [step_not delivered]

end

end TagEventor
