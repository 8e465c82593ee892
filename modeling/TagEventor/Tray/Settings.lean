import TagEventor.Lib.Machine
import TagEventor.Poll.Status
import TagEventor.Tray.Frames

/-!
# The settings in a session

Three results about every session. There is one timer for the polls, with the delay that is set
(`one_timer`). Unless changes are pending, the settings dialog shows the settings in force
(`settings_in_step`). And because the toggles for the numbers of the readers are made insensitive
whenever the dialog is built (`built_insensitive`), a number can be chosen only after a click on
AUTO for which that many readers were listed (`numbers_kept`).
-/

namespace TagEventor
open Machine Session

/-- The values that can be set. -/
structure InRange (appPollDelayms appVerbosityLevel : Int) : Prop where
  delayLow : POLL_DELAY_MILLI_SECONDS_MIN ≤ appPollDelayms
  delayHigh : appPollDelayms ≤ POLL_DELAY_MILLI_SECONDS_MAX
  verbosityLow : VERBOSITY_MIN ≤ appVerbosityLevel
  verbosityHigh : appVerbosityLevel ≤ VERBOSITY_MAX

/-- The two comparisons of `appPollDelaySet` and `appVerbosityLevelSet`. -/
lemma cap_eq {low high n : Int} (le : low ≤ high) :
    (if (if n > high then high else n) < low then low else if n > high then high else n) =
      clamp low high n := by
  unfold clamp
  split <;> split <;> omega

/-- The closest value of a range lies in the range. -/
lemma clamp_range {low high n : Int} (le : low ≤ high) :
    low ≤ clamp low high n ∧ clamp low high n ≤ high := by
  unfold clamp
  omega

/-- A value of the range is the closest one. -/
lemma clamp_eq_self {low high n : Int} (le : low ≤ n) (le' : n ≤ high) : clamp low high n = n := by
  unfold clamp
  omega

section
variable {strcmp : CString → CString → Int} {argv0 : CString}

/-- Every option leaves the delay and the level in their ranges. -/
lemma option_range {s s' : CommandLine} {o} (h : InRange s.appPollDelayms s.appVerbosityLevel)
    (run : s.option strcmp argv0 o = .ok s') : InRange s'.appPollDelayms s'.appVerbosityLevel := by
  cases o with
  | n arg =>
    unfold CommandLine.option at run
    dsimp only at run
    split at run
    · cases run
      exact h
    split at run
    · cases run
      exact h
    · cases run
      exact h
  | v arg =>
    have low := @clamp_range VERBOSITY_MIN VERBOSITY_MAX (atoi arg) (by decide)
    rw [← cap_eq (by decide)] at low
    have set : InRange (s.appVerbosityLevelSet (atoi arg)).appPollDelayms
        (s.appVerbosityLevelSet (atoi arg)).appVerbosityLevel :=
      ⟨h.delayLow, h.delayHigh, low.1, low.2⟩
    unfold CommandLine.option at run
    dsimp only at run
    split at run
    · cases run
      exact set
    · cases run
      exact set
  | d arg =>
    unfold CommandLine.option at run
    dsimp only at run
    split at run
    · cases run
      exact h
    split at run
    · cases run
      exact h
    · cases run
      exact h
  | p arg =>
    have low := @clamp_range POLL_DELAY_MILLI_SECONDS_MIN POLL_DELAY_MILLI_SECONDS_MAX (atoi arg)
      (by decide)
    rw [← cap_eq (by decide)] at low
    have set : InRange (s.appPollDelaySet (atoi arg)).appPollDelayms
        (s.appPollDelaySet (atoi arg)).appVerbosityLevel :=
      ⟨low.1, low.2, h.verbosityLow, h.verbosityHigh⟩
    unfold CommandLine.option at run
    dsimp only at run
    split at run
    · cases run
      exact set
    · cases run
      exact set
  | h => cases run
  | other =>
    cases run
    exact h

/-- All options leave the delay and the level in their ranges. -/
lemma options_range {s s' : CommandLine} {opts} (h : InRange s.appPollDelayms s.appVerbosityLevel)
    (run : CommandLine.options strcmp argv0 opts s = .ok s') :
    InRange s'.appPollDelayms s'.appVerbosityLevel := by
  induction opts generalizing s with
  | nil =>
    cases run
    exact h
  | cons o opts ih =>
    unfold CommandLine.options at run
    split at run
    · cases run
      exact h
    · cases step : s.option strcmp argv0 o with
      | error exited =>
        rw [step] at run
        cases run
      | ok s1 =>
        rw [step] at run
        exact ih (option_range h step) run

/-- The delay and the level without options lie in their ranges. -/
lemma range_default : InRange POLL_DELAY_MILLI_SECONDS_DEFAULT VERBOSITY_DEFAULT :=
  ⟨by decide, by decide, by decide, by decide⟩

/-- The command line sets only values in their range. -/
lemma parse_range {opts m c} (run : parseCommandLine strcmp argv0 opts m = .ok c) :
    InRange c.appPollDelayms c.appVerbosityLevel := by
  unfold parseCommandLine at run
  cases options : CommandLine.options strcmp argv0 opts (.default m) with
  | error exited =>
    rw [options] at run
    cases run
  | ok s =>
    rw [options] at run
    have range := options_range range_default options
    change (if s.parseError = true then _ else _) = _ at run
    split at run
    · cases run
    split at run
    · cases run
      exact range
    · cases run
      exact range

end

/-- There is one timer, whose interval is the delay that is set. -/
structure Timed (s : Session) : Prop where
  only : s.tray.mainLoop.Only s.tray.timeoutID s.appPollDelayms
  polling : s.tray.readerPollFunction = true
  low : POLL_DELAY_MILLI_SECONDS_MIN ≤ s.appPollDelayms
  high : s.appPollDelayms ≤ POLL_DELAY_MILLI_SECONDS_MAX

/-- There is one timer as long as nothing changes it. -/
lemma Timed.congr {s s' : Session} (h : Timed s) (same : s'.timing = s.timing) : Timed s' := by
  obtain ⟨only, polling, low, high⟩ := h
  injection same with mainLoop same
  injection same with timeoutID same
  injection same with function delay
  rw [← mainLoop, ← timeoutID, ← delay] at only
  rw [← function] at polling
  rw [← delay] at low high
  exact ⟨only, polling, low, high⟩

/-- The old timer is removed before the new one is added. -/
lemma Timed.setPollDelay {s : Session} (h : Timed s) {delay} :
    (s.tray.systemTraySetPollDelay delay).mainLoop.Only
        (s.tray.systemTraySetPollDelay delay).timeoutID delay ∧
      (s.tray.systemTraySetPollDelay delay).readerPollFunction = true := by
  unfold SystemTray.systemTraySetPollDelay
  rw [if_pos (Nat.ne_of_gt h.only.positive)]
  dsimp only
  rw [if_pos h.polling]
  exact ⟨h.only.replace, h.polling⟩

/-- A new delay replaces the timer. -/
lemma Timed.apply {s : Session} (h : Timed s) : Timed s.applySettings := by
  have range := @clamp_range POLL_DELAY_MILLI_SECONDS_MIN POLL_DELAY_MILLI_SECONDS_MAX
    s.settings.pollDelayScale (by decide)
  rw [← cap_eq (by decide)] at range
  obtain ⟨only, polling⟩ := h.setPollDelay
  exact ⟨only, polling, range.1, range.2⟩

/-- Every input leaves one timer. -/
lemma Timed.handle {d : Desktop} {s : Session} {input} (h : Timed s) :
    Timed (s.handle d input) := by
  cases input with
  | timeout id => exact h.congr poll_polls.timing
  | settings signal =>
    cases signal with
    | apply => exact h.apply
    | activate =>
      refine h.congr ?_
      show s.settingsDialogActivate.timing = _
      unfold settingsDialogActivate
      split
      · rfl
      · rfl
    | toggled i => exact h.congr rfl
    | pollDelayMoved value => exact h.congr rfl
    | verbosityMoved value => exact h.congr rfl
    | close => exact h.congr rfl
    | cancel => exact h.congr rfl
    | delete => exact h.congr rfl
  | editor signal => exact h.congr handleEditor_edits.timing
  | quit =>
    obtain ⟨ended, e⟩ := @iconQuit_eq s
    refine h.congr ?_
    show s.iconQuit.timing = _
    rw [e]
    rfl
  | system signal =>
    obtain ⟨world, ended, l, about, e⟩ := (@handleSignal_interrupts d s signal).same
    refine h.congr ?_
    show (s.handleSignal d signal).timing = _
    rw [e]
    rfl

section
variable {strcmp : CString → CString → Int} {argv0 : CString} {opts : List CommandOption}
  {m : tReaderManager} {c : CommandLine} {t : RulesTable} {d : Desktop} {inputs : List Input}

/-- In every session there is one timer, whose interval is the delay that is set and in its range;
only this timer makes the main loop poll. -/
theorem one_timer (parsed : parseCommandLine strcmp argv0 opts m = .ok c) :
    let s := (start c t).run d inputs
    s.tray.mainLoop.live = [(s.tray.timeoutID, s.appPollDelayms)] ∧
      (POLL_DELAY_MILLI_SECONDS_MIN ≤ s.appPollDelayms ∧
        s.appPollDelayms ≤ POLL_DELAY_MILLI_SECONDS_MAX) ∧
      ∀ id, s.Delivers (.timeout id) ↔ s.ended = none ∧ id = s.tray.timeoutID := by
  intro s
  have range := parse_range parsed
  have timed : Timed s := by
    refine Session.run_inv (I := Timed) (fun s input h _ => h.handle) ?_
    exact ⟨MainLoop.only_add rfl, rfl, range.delayLow, range.delayHigh⟩
  refine ⟨timed.only.live, ⟨timed.low, timed.high⟩, fun id => ?_⟩
  refine and_congr_right fun _ => ?_
  rw [timed.only.live]
  simp [eq_comm]

end

/-- A desktop for examples: a tag lies on a reader, and all scripts exist. -/
def desk : Desktop where
  env := plain [acr0] fun _ _ => some [0xab, 0xcd]
  mem := plenty
  found := fun _ _ => true
  forks := fun _ => 4242

/-- The command line that asks for all readers. -/
def plainLine : CommandLine := .default (readersInit READER_BIT_AUTO)

/-- A delay from the command line, and then one from the dialog. -/
theorem one_timer_moved : ∃ c,
    parseCommandLine strcmpBytes PROGRAM_NAME [.p "700".toList] (readersInit READER_BIT_AUTO) =
      .ok c ∧
    let s := (start c .init).run desk
      [.settings .activate, .settings (.pollDelayMoved 2000), .settings .apply]
    s.tray.mainLoop.live = [(s.tray.timeoutID, s.appPollDelayms)] ∧
      (POLL_DELAY_MILLI_SECONDS_MIN ≤ s.appPollDelayms ∧
        s.appPollDelayms ≤ POLL_DELAY_MILLI_SECONDS_MAX) ∧
      ∀ id, s.Delivers (.timeout id) ↔ s.ended = none ∧ id = s.tray.timeoutID :=
  ⟨_, rfl, @one_timer strcmpBytes PROGRAM_NAME [.p "700".toList] (readersInit READER_BIT_AUTO) _
    .init desk _ rfl⟩

/-- A toggle stands for one bit. -/
lemma numToggle_bit {i j : Nat} (h : i < 32) :
    (readerNumToggleBit i).getLsbD j = decide (j = i) := by
  unfold readerNumToggleBit
  rw [BitVec.getLsbD_shiftLeft, BitVec.getLsbD_one]
  by_cases e : j = i
  · subst e
    simp [h]
  · by_cases less : j < i
    · simp [e, less]
    · have : j - i ≠ 0 := by omega
      simp [e, this]

/-- The bits after some rounds of the loop of `applyChanges`. -/
lemma applyToggles_bits {toggles : Nat → Toggle} {m : tReaderManager} {n j} (h : n ≤ 32) :
    ((List.range n).foldl (fun m i =>
      if (toggles i).active then m.readersSettingBitmapBitSet (readerNumToggleBit i)
      else m.readersSettingBitmapBitUnset (readerNumToggleBit i)) m).readerSetting.getLsbD j =
      if j < n then (toggles j).active else m.readerSetting.getLsbD j := by
  induction n with
  | zero => simp
  | succ n ih =>
    have ih := ih (Nat.le_of_succ_le h)
    have own := @numToggle_bit n j h
    rw [List.range_succ, List.foldl_append]
    generalize (List.range n).foldl _ m = m' at ih ⊢
    show (if (toggles n).active = true then _ else _ : tReaderManager).readerSetting.getLsbD j = _
    by_cases e : j = n
    · subst e
      rw [if_pos (Nat.lt_succ_self j)]
      cases active : (toggles j).active with
      | true => simp [tReaderManager.readersSettingBitmapBitSet, own]
      | false => simp [tReaderManager.readersSettingBitmapBitUnset, own]
    · have same : (j < n + 1) = (j < n) := by
        apply propext
        omega
      simp only [same]
      rw [← ih]
      cases active : (toggles n).active with
      | true => simp [tReaderManager.readersSettingBitmapBitSet, own, e]
      | false =>
        show (m'.readerSetting &&& ~~~readerNumToggleBit n).getLsbD j = _
        rw [BitVec.getLsbD_and, BitVec.getLsbD_not, own]
        simpa [e] using BitVec.lt_of_getLsbD

/-- The toggles set the bits of AUTO and of the numbers, and leave the other bits alone. -/
lemma applyToggles_bit {toggles : Nat → Toggle} {m : tReaderManager} {j} :
    (applyToggles toggles m).readerSetting.getLsbD j =
      if j < MAX_NUM_READERS + 1 then (toggles j).active else m.readerSetting.getLsbD j :=
  applyToggles_bits (by decide)

/-- The dialog shows the settings in force. -/
structure Shows (s : Session) : Prop where
  toggles : ∀ i < MAX_NUM_READERS + 1,
    (s.settings.toggles i).active = s.world.readerManager.readerSetting.getLsbD i
  pollDelay : s.settings.pollDelayScale = s.appPollDelayms
  verbosity : s.settings.verbosityScale = s.appVerbosityLevel

/-- The buttons of a dialog follow its flag, which is not set before the dialog is built. -/
structure Dialog.Ready (d : Dialog) : Prop where
  unbuilt : d.window = .unbuilt → d.savePending = false
  apply : d.window ≠ .unbuilt → d.applyButton = d.savePending
  close : d.window ≠ .unbuilt → d.closeButton = !d.savePending

namespace Dialog
variable {d : Dialog}

/-- A window that does not exist has no pending changes to be closed with. -/
lemma ready_init : init.Ready := ⟨fun _ => rfl, absurd rfl, absurd rfl⟩

/-- Only a window that exists can be hidden. -/
lemma hide_unbuilt : d.hide.window = .unbuilt ↔ d.window = .unbuilt := by
  unfold hide
  split
  next h => exact iff_of_true rfl h
  next h => exact iff_of_false Window.noConfusion h

/-- A window that is hidden stays ready. -/
lemma Ready.hide (h : d.Ready) : d.hide.Ready where
  unbuilt e := h.unbuilt (hide_unbuilt.1 e)
  apply e := h.apply (hide_unbuilt.not.1 e)
  close e := h.close (hide_unbuilt.not.1 e)

/-- A window that the user closes stays ready. -/
lemma Ready.delete (h : d.Ready) : d.delete.Ready := by
  unfold Dialog.delete deleteSignalHandler
  cases pending : d.savePending with
  | true => exact h
  | false => exact ⟨fun _ => pending, absurd rfl, absurd rfl⟩

/-- The buttons of a window that exists say whether changes are pending. -/
lemma Ready.setPending {pending} (built : d.window ≠ .unbuilt) : (d.setPending pending).Ready :=
  ⟨(absurd · built), fun _ => rfl, fun _ => rfl⟩

/-- A new window is ready. -/
lemma ready_built : ((d.setPending false).present).Ready :=
  ⟨fun _ => rfl, fun _ => rfl, fun _ => rfl⟩

/-- A window that is shown stays ready. -/
lemma Ready.present (h : d.Ready) (built : d.window ≠ .unbuilt) : d.present.Ready :=
  ⟨Window.noConfusion, fun _ => h.apply built, fun _ => h.close built⟩

/-- A window that the user closes keeps its changes. -/
lemma delete_pending : d.delete.savePending = d.savePending := by
  unfold Dialog.delete
  split <;> rfl

end Dialog

/-- The invariant of the settings: the dialog follows its flag, and shows the settings in force
unless changes are pending. -/
structure SettingsInStep (s : Session) : Prop where
  ready : s.settings.dialog.Ready
  range : InRange s.appPollDelayms s.appVerbosityLevel
  sliders : s.settings.dialog.window ≠ .unbuilt →
    InRange s.settings.pollDelayScale s.settings.verbosityScale
  shows : s.settings.dialog.window ≠ .unbuilt → s.settings.dialog.savePending = false → Shows s

/-- What does not touch the settings keeps the invariant. -/
lemma SettingsInStep.congr {s s' : Session} (h : SettingsInStep s)
    (settings : s'.settings = s.settings)
    (setting : s'.world.readerManager.readerSetting = s.world.readerManager.readerSetting)
    (delay : s'.appPollDelayms = s.appPollDelayms)
    (verbosity : s'.appVerbosityLevel = s.appVerbosityLevel) : SettingsInStep s' where
  ready := by
    rw [settings]
    exact h.ready
  range := by
    rw [delay, verbosity]
    exact h.range
  sliders := by
    rw [settings]
    exact h.sliders
  shows built saved := by
    rw [settings] at built saved
    obtain ⟨toggles, pollDelay, verbose⟩ := h.shows built saved
    rw [← settings, ← setting] at toggles
    rw [← settings, ← delay] at pollDelay
    rw [← settings, ← verbosity] at verbose
    exact ⟨toggles, pollDelay, verbose⟩

/-- The test of a toggle tests its bit. -/
lemma bitTest_active {m : tReaderManager} {i} (h : i < 32) :
    decide (m.readersSettingBitmapBitTest (readerNumToggleBit i) ≠ 0) =
      m.readerSetting.getLsbD i := by
  unfold tReaderManager.readersSettingBitmapBitTest
  have bit : ∀ j, (m.readerSetting &&& readerNumToggleBit i).getLsbD j =
      (m.readerSetting.getLsbD i && decide (j = i)) := by
    intro j
    rw [BitVec.getLsbD_and, numToggle_bit h]
    by_cases e : j = i
    · rw [e]
    · simp [e]
  cases set : m.readerSetting.getLsbD i with
  | true =>
    rw [decide_eq_true_eq]
    intro zero
    have one := bit i
    rw [zero, set] at one
    simp at one
  | false =>
    rw [decide_eq_false_iff_not, not_not]
    apply BitVec.eq_of_getLsbD_eq
    intro j _
    rw [bit, set]
    simp

/-- A new dialog shows the settings in force. -/
lemma SettingsInStep.built {s : Session} (h : SettingsInStep s) :
    SettingsInStep s.buildSettingsDialog := by
  have delay := clamp_eq_self h.range.delayLow h.range.delayHigh
  have verbosity := clamp_eq_self h.range.verbosityLow h.range.verbosityHigh
  refine ⟨Dialog.ready_built, h.range, fun _ => ?_, fun _ _ => ⟨?_, delay, verbosity⟩⟩
  · show InRange (clamp _ _ _) (clamp _ _ _)
    rw [delay, verbosity]
    exact h.range
  · intro i hi
    exact bitTest_active (Nat.lt_trans hi (by decide))

/-- What is applied is what the dialog shows. -/
lemma SettingsInStep.applied {s : Session} (h : SettingsInStep s)
    (built : s.settings.dialog.window ≠ .unbuilt) : SettingsInStep s.applySettings := by
  have sliders := h.sliders built
  have delay : s.applySettings.appPollDelayms = s.settings.pollDelayScale :=
    (cap_eq (by decide)).trans (clamp_eq_self sliders.delayLow sliders.delayHigh)
  have verbosity : s.applySettings.appVerbosityLevel = s.settings.verbosityScale :=
    (cap_eq (by decide)).trans (clamp_eq_self sliders.verbosityLow sliders.verbosityHigh)
  refine ⟨Dialog.Ready.setPending built, ?_, fun _ => sliders, fun _ _ => ⟨?_, delay.symm,
    verbosity.symm⟩⟩
  · rw [delay, verbosity]
    exact sliders
  · intro i hi
    have bit := @applyToggles_bit s.settings.toggles s.world.readerManager i
    rw [if_pos hi] at bit
    exact bit.symm

/-- A change only makes changes pending. -/
lemma SettingsInStep.changed {s : Session} {settings : SettingsDialog} (h : SettingsInStep s)
    (shown : s.settings.dialog.window = .shown)
    (dialog : settings.dialog = s.settings.dialog.setPending true)
    (sliders : InRange settings.pollDelayScale settings.verbosityScale) :
    SettingsInStep { s with settings } := by
  have built : s.settings.dialog.window ≠ .unbuilt := by
    rw [shown]
    exact Window.noConfusion
  refine ⟨?_, h.range, fun _ => sliders, fun _ saved => ?_⟩
  · show settings.dialog.Ready
    rw [dialog]
    exact Dialog.Ready.setPending built
  · change settings.dialog.savePending = false at saved
    rw [dialog] at saved
    cases saved

/-- A window that is shown, hidden or closed shows what it has shown before. -/
lemma SettingsInStep.moved {s : Session} {dialog : Dialog} (h : SettingsInStep s)
    (ready : dialog.Ready) (pending : dialog.savePending = s.settings.dialog.savePending)
    (built : dialog.window ≠ .unbuilt → s.settings.dialog.window ≠ .unbuilt) :
    SettingsInStep { s with settings := { s.settings with dialog } } where
  ready := ready
  range := h.range
  sliders e := h.sliders (built e)
  shows e saved := by
    obtain ⟨toggles, pollDelay, verbosity⟩ := h.shows (built e) (pending.symm.trans saved)
    exact ⟨toggles, pollDelay, verbosity⟩

/-- A signal of the settings dialog keeps it in step. -/
lemma SettingsInStep.handleSettings {s : Session} {signal} (h : SettingsInStep s)
    (delivers : s.settings.Delivers signal) : SettingsInStep (s.handleSettings signal) := by
  cases signal with
  | activate =>
    show SettingsInStep s.settingsDialogActivate
    unfold settingsDialogActivate
    split
    next => exact h.built
    next built => exact h.moved (h.ready.present built) rfl fun _ => built
  | toggled i =>
    have built : s.settings.dialog.window ≠ .unbuilt := by
      rw [delivers.1]
      exact Window.noConfusion
    refine h.changed delivers.1 ?_ ?_
    · unfold SettingsDialog.toggleChange
      split <;> rfl
    · unfold SettingsDialog.toggleChange
      split <;> exact h.sliders built
  | pollDelayMoved value =>
    have built : s.settings.dialog.window ≠ .unbuilt := by
      rw [delivers.1]
      exact Window.noConfusion
    have range := @clamp_range POLL_DELAY_MILLI_SECONDS_MIN POLL_DELAY_MILLI_SECONDS_MAX value
      (by decide)
    have sliders := h.sliders built
    exact h.changed delivers.1 rfl
      ⟨range.1, range.2, sliders.verbosityLow, sliders.verbosityHigh⟩
  | verbosityMoved value =>
    have built : s.settings.dialog.window ≠ .unbuilt := by
      rw [delivers.1]
      exact Window.noConfusion
    have range := @clamp_range VERBOSITY_MIN VERBOSITY_MAX value (by decide)
    have sliders := h.sliders built
    exact h.changed delivers.1 rfl ⟨sliders.delayLow, sliders.delayHigh, range.1, range.2⟩
  | apply =>
    refine h.applied ?_
    rw [delivers.1]
    exact Window.noConfusion
  | close => exact h.moved h.ready.hide rfl Dialog.hide_unbuilt.not.1
  | cancel => exact h.moved h.ready.hide rfl Dialog.hide_unbuilt.not.1
  | delete =>
    refine h.moved h.ready.delete Dialog.delete_pending fun _ => ?_
    rw [show s.settings.dialog.window = _ from delivers]
    exact Window.noConfusion

/-- Every input keeps the settings dialog in step. -/
lemma SettingsInStep.handle {d : Desktop} {s : Session} {input} (h : SettingsInStep s)
    (delivers : s.Delivers input) : SettingsInStep (s.handle d input) := by
  cases input with
  | timeout id =>
    have polls := @poll_polls d s
    refine h.congr polls.settings ?_ (congrArg (fun t => t.2.2.2) polls.timing)
      polls.appVerbosityLevel
    show (s.poll d).world.readerManager.readerSetting = _
    rw [polls.world, tagListCheck_readerSetting]
  | settings signal => exact h.handleSettings delivers.2
  | editor signal =>
    have edits := @handleEditor_edits d s signal
    exact h.congr edits.settings (congrArg (fun w => w.readerManager.readerSetting) edits.world)
      edits.appPollDelayms edits.appVerbosityLevel
  | quit =>
    obtain ⟨ended, e⟩ := @iconQuit_eq s
    show SettingsInStep s.iconQuit
    rw [e]
    exact h.congr rfl rfl rfl rfl
  | system signal =>
    have interrupts := @handleSignal_interrupts d s signal
    obtain ⟨world, ended, l, about, e⟩ := interrupts.same
    show SettingsInStep (s.handleSignal d signal)
    refine h.congr ?_ interrupts.world.readerSetting ?_ ?_
    · rw [e]
    · rw [e]
    · rw [e]

section
variable {strcmp : CString → CString → Int} {argv0 : CString} {opts : List CommandOption}
  {m : tReaderManager} {c : CommandLine} {t : RulesTable} {d : Desktop} {inputs : List Input}

/-- In every session the settings dialog is in step. -/
lemma settingsInStep_run (parsed : parseCommandLine strcmp argv0 opts m = .ok c) :
    SettingsInStep ((start c t).run d inputs) :=
  Session.run_inv (I := SettingsInStep) (fun _ _ h delivers => h.handle delivers)
    ⟨Dialog.ready_init, parse_range parsed, absurd rfl, absurd rfl⟩

end

/-- A click on AUTO is delivered only while at most `n` readers are listed. -/
def FewReaders (n : Nat) (s : Session) (input : Input) : Prop :=
  input = .settings (.toggled 0) → s.Delivers input → s.world.readerManager.nbReaders ≤ n

/-- The bits above `n` are as in `first`, and the toggles for them cannot be clicked. -/
structure Kept (n : Nat) (first : BitVec 32) (s : Session) : Prop where
  setting : ∀ i, n < i → s.world.readerManager.readerSetting.getLsbD i = first.getLsbD i
  toggles : s.settings.dialog.window ≠ .unbuilt → ∀ i < MAX_NUM_READERS + 1, n < i →
    s.settings.toggles i = ⟨first.getLsbD i, false⟩

section
variable {c : CommandLine} {t : RulesTable} {d : Desktop} {inputs : List Input} {n : Nat}
  {first : BitVec 32}

/-- Only the setting and the toggles matter. -/
lemma Kept.congr {s s' : Session} (h : Kept n first s)
    (same : s'.world.readerManager.readerSetting = s.world.readerManager.readerSetting)
    (toggles : s'.settings.toggles = s.settings.toggles)
    (built : s'.settings.dialog.window ≠ .unbuilt → s.settings.dialog.window ≠ .unbuilt) :
    Kept n first s' where
  setting i hi := by
    rw [same]
    exact h.setting i hi
  toggles e := by
    rw [toggles]
    exact h.toggles (built e)

/-- A new dialog has no number that can be chosen, whatever the setting is: the bit of the entry for
AUTO is tested, not the setting. -/
lemma built_insensitive {s : Session} {i} (number : 0 < i) :
    (s.buildSettingsDialog.settings.toggles i).sensitive = false := by
  have auto : readerNumToggleBit 0 &&& READER_BIT_AUTO ≠ 0 := by decide
  exact decide_eq_false (not_not_intro ⟨number, auto⟩)

/-- Only a click on AUTO changes other toggles, and only those of the readers that are listed. -/
lemma toggleChange_toggles {s : SettingsDialog} {nbReaders i j}
    (outside : i = 0 → j = 0 ∨ nbReaders < j) :
    (s.toggleChange nbReaders i).toggles j = s.toggles j := by
  unfold SettingsDialog.toggleChange SettingsDialog.setSettingsSavePending
  dsimp only
  split
  next zero =>
    refine if_neg ?_
    have := outside zero
    omega
  next => rfl

/-- A new dialog has no toggle above `n` that can be clicked. -/
lemma Kept.built {s : Session} (h : Kept n first s) : Kept n first s.buildSettingsDialog where
  setting := h.setting
  toggles _ i low high := by
    have active : (s.buildSettingsDialog.settings.toggles i).active = first.getLsbD i :=
      (bitTest_active (Nat.lt_trans low (by decide))).trans (h.setting i high)
    have sensitive := @built_insensitive s i (Nat.lt_of_le_of_lt (Nat.zero_le n) high)
    rw [← active, ← sensitive]

/-- The toggles above `n` are as the setting was. -/
lemma Kept.applied {s : Session} (h : Kept n first s)
    (built : s.settings.dialog.window ≠ .unbuilt) : Kept n first s.applySettings where
  setting i high := by
    show (applyToggles s.settings.toggles s.world.readerManager).readerSetting.getLsbD i = _
    rw [applyToggles_bit]
    split
    next low => rw [h.toggles built i low high]
    next => exact h.setting i high
  toggles := h.toggles

/-- A toggle that can be clicked is one of those up to `n`, and AUTO changes only those. -/
lemma Kept.toggled {s : Session} {i} (h : Kept n first s)
    (delivers : s.settings.Delivers (.toggled i))
    (few : i = 0 → s.world.readerManager.nbReaders ≤ n) :
    Kept n first (s.handleSettings (.toggled i)) := by
  have built : s.settings.dialog.window ≠ .unbuilt := by
    rw [delivers.1]
    exact Window.noConfusion
  refine ⟨h.setting, fun _ j low high => ?_⟩
  have own := h.toggles built j low high
  have other : j ≠ i := by
    rintro rfl
    have sensitive := delivers.2.2
    rw [own] at sensitive
    cases sensitive
  have clicked : (s.settings.click i).toggles j = ⟨first.getLsbD j, false⟩ := by
    show Function.update s.settings.toggles i _ j = _
    rw [Function.update_of_ne other, own]
  exact (toggleChange_toggles fun zero => .inr (Nat.lt_of_le_of_lt (few zero) high)).trans clicked

/-- Every input keeps the bits above `n`. -/
lemma Kept.handle {s : Session} {input} (h : Kept n first s) (delivers : s.Delivers input)
    (few : FewReaders n s input) : Kept n first (s.handle d input) := by
  cases input with
  | timeout id =>
    have polls := @poll_polls d s
    refine h.congr ?_ (congrArg SettingsDialog.toggles polls.settings) ?_
    · show (s.poll d).world.readerManager.readerSetting = _
      rw [polls.world, tagListCheck_readerSetting]
    · intro built
      rw [← polls.settings]
      exact built
  | settings signal =>
    have shown (e : s.settings.dialog.window = .shown) : s.settings.dialog.window ≠ .unbuilt := by
      rw [e]
      exact Window.noConfusion
    cases signal with
    | activate =>
      show Kept n first s.settingsDialogActivate
      unfold settingsDialogActivate
      split
      next => exact h.built
      next built => exact h.congr rfl rfl fun _ => built
    | toggled i =>
      refine h.toggled delivers.2 fun zero => ?_
      subst zero
      exact few rfl delivers
    | pollDelayMoved value => exact h.congr rfl rfl fun _ => shown delivers.2.1
    | verbosityMoved value => exact h.congr rfl rfl fun _ => shown delivers.2.1
    | apply => exact h.applied (shown delivers.2.1)
    | close => exact h.congr rfl rfl fun _ => shown delivers.2.1
    | cancel => exact h.congr rfl rfl fun _ => shown delivers.2
    | delete => exact h.congr rfl rfl fun _ => shown delivers.2
  | editor signal =>
    have edits := @handleEditor_edits d s signal
    refine h.congr (congrArg (fun w => w.readerManager.readerSetting) edits.world)
      (congrArg SettingsDialog.toggles edits.settings) fun built => ?_
    rw [← edits.settings]
    exact built
  | quit =>
    obtain ⟨ended, e⟩ := @iconQuit_eq s
    show Kept n first s.iconQuit
    rw [e]
    exact h.congr rfl rfl id
  | system signal =>
    have interrupts := @handleSignal_interrupts d s signal
    obtain ⟨world, ended, l, about, e⟩ := interrupts.same
    have settings : (s.handleSignal d signal).settings = s.settings := by rw [e]
    refine h.congr interrupts.world.readerSetting (congrArg SettingsDialog.toggles settings)
      fun built => ?_
    rw [← settings]
    exact built

/-- As long as AUTO is clicked only while at most `n` readers are listed, no session changes
whether the readers with the numbers from `n` on are asked for. -/
theorem numbers_kept (few : Meets (step d) (FewReaders n) (start c t) inputs) {i} (high : n < i) :
    ((start c t).run d inputs).world.readerManager.readerSetting.getLsbD i =
      c.readerManager.readerSetting.getLsbD i := by
  have kept : Kept n c.readerManager.readerSetting ((start c t).run d inputs) := by
    refine few.inv (fun s input h few => ?_) ⟨fun _ _ => rfl, absurd rfl⟩
    by_cases delivers : s.Delivers input
    · rw [Session.step_eq delivers]
      exact h.handle delivers few
    · rwa [Session.step_not delivers]
  exact kept.setting i high

end

/-- Before the first poll no reader is listed, and no number can be chosen: not even after AUTO was
switched off. -/
theorem numbers_kept_without_readers :
    ((start plainLine .init).run desk [.settings .activate, .settings (.toggled 0),
      .settings (.toggled 2), .settings .apply]).world.readerManager.readerSetting.getLsbD 2 =
        (readersInit READER_BIT_AUTO).readerSetting.getLsbD 2 := by
  refine @numbers_kept plainLine .init desk _ 0 ?_ 2 (by decide)
  refine ⟨nofun, fun _ _ => ?_, nofun, nofun, trivial⟩
  exact Nat.le_refl 0

end TagEventor
