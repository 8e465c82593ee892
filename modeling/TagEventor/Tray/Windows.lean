import TagEventor.Reader.Hangup
import TagEventor.Tray.Session

/-!
# The windows of a session

`settingsDialog.c` and `rulesEditor.c`: the settings dialog and the rules editor, and the main loop
that delivers the signals of their widgets. A widget gets a signal only while its window is shown,
and a button or a slider only while it is sensitive. Between two callbacks of the main loop
`handleSignal` may run for a signal of the system. A session that has ended gets nothing.
-/

namespace TagEventor

/-- `readersSettingBitmapBitUnset`. -/
def tReaderManager.readersSettingBitmapBitUnset (m : tReaderManager) (bitmap : BitVec 32) :
    tReaderManager :=
  { m with readerSetting := m.readerSetting &&& ~~~bitmap }

/-- The bit of each entry of `readerNumToggle`: AUTO, then the numbers from 0 to 5. -/
def readerNumToggleBit (i : Nat) : BitVec 32 := 1#32 <<< i

namespace SettingsDialog
variable (s : SettingsDialog)

/-- The dialog is hidden, if it exists. -/
def hideSettingsDialog : SettingsDialog := { s with dialog := s.dialog.hide }

/-- The close button hides the dialog. -/
def closeSignalHandler : SettingsDialog := s.hideSettingsDialog

/-- The cancel button hides the dialog; its toggles and sliders stay as they are. -/
def cancelSignalHandler : SettingsDialog := s.hideSettingsDialog

/-- Changes are pending or not, and the status bar says so. -/
def setSettingsSavePending (pending : Bool) : SettingsDialog :=
  { s with
    dialog := s.dialog.setPending pending
    statusBar :=
      if s.dialog.window = .unbuilt then s.statusBar
      else if pending then TAGEVENTOR_STRING_SETTINGS_SAVE_PENDING
      else [] }

/-- `toggleChange` for the toggle `i`, after it was clicked: the numbers can be chosen only while
AUTO is not set. -/
def toggleChange (nbReaders i : Nat) : SettingsDialog :=
  let s :=
    if i = 0 then
      { s with toggles := fun j =>
          if 1 ≤ j ∧ j < nbReaders + 1 then { s.toggles j with sensitive := !(s.toggles 0).active }
          else s.toggles j }
    else s
  s.setSettingsSavePending true

/-- A slider was moved. -/
def scaleChanged : SettingsDialog := s.setSettingsSavePending true

end SettingsDialog

namespace Session

/-- The loop of `applyChanges` over the toggles. -/
def applyToggles (toggles : Nat → Toggle) (m : tReaderManager) : tReaderManager :=
  (List.range (MAX_NUM_READERS + 1)).foldl (fun m i =>
    if (toggles i).active then m.readersSettingBitmapBitSet (readerNumToggleBit i)
    else m.readersSettingBitmapBitUnset (readerNumToggleBit i)) m

/-- `appPollDelaySet`, with the new timeout of the system tray. -/
def appPollDelaySet (s : Session) (newPollDelay : Int) : Session :=
  let newPollDelay :=
    if newPollDelay > POLL_DELAY_MILLI_SECONDS_MAX then POLL_DELAY_MILLI_SECONDS_MAX
    else newPollDelay
  let newPollDelay :=
    if newPollDelay < POLL_DELAY_MILLI_SECONDS_MIN then POLL_DELAY_MILLI_SECONDS_MIN
    else newPollDelay
  { s with appPollDelayms := newPollDelay, tray := s.tray.systemTraySetPollDelay newPollDelay }

/-- The verbosity level is set, or the closest one that is allowed. -/
def appVerbosityLevelSet (s : Session) (newLevel : Int) : Session :=
  let newLevel := if newLevel > VERBOSITY_MAX then VERBOSITY_MAX else newLevel
  let newLevel := if newLevel < VERBOSITY_MIN then VERBOSITY_MIN else newLevel
  { s with appVerbosityLevel := newLevel }

/-- `applyChanges` of `settingsDialog.c`. -/
def applySettings (s : Session) : Session :=
  let m := applyToggles s.settings.toggles s.world.readerManager
  let s := { s with world := { s.world with readerManager := m } }
  let s := s.appPollDelaySet s.settings.pollDelayScale
  let s := s.appVerbosityLevelSet s.settings.verbosityScale
  { s with settings := s.settings.setSettingsSavePending false }

/-- `buildSettingsDialog`, and the window is shown; a slider holds only values between its ends. -/
def buildSettingsDialog (s : Session) : Session :=
  { s with settings :=
    { dialog := (s.settings.dialog.setPending false).present
      toggles := fun i =>
        { active := s.world.readerManager.readersSettingBitmapBitTest (readerNumToggleBit i) ≠ 0
          -- the bit of the entry for AUTO is tested, which is never zero
          sensitive := ¬ (i > 0 ∧ readerNumToggleBit 0 &&& READER_BIT_AUTO ≠ 0) }
      pollDelayScale := clamp POLL_DELAY_MILLI_SECONDS_MIN POLL_DELAY_MILLI_SECONDS_MAX
        s.appPollDelayms
      verbosityScale := clamp VERBOSITY_MIN VERBOSITY_MAX s.appVerbosityLevel
      statusBar := [] } }

/-- The dialog is built, unless it exists, and shown. -/
def settingsDialogActivate (s : Session) : Session :=
  if s.settings.dialog.window = .unbuilt then s.buildSettingsDialog
  else { s with settings := { s.settings with dialog := s.settings.dialog.present } }

end Session

namespace RulesEditor
variable (e : RulesEditor)

/-- The window is hidden, if it exists. -/
def hiderulesEditorWindow : RulesEditor := { e with dialog := e.dialog.hide }

/-- The close button hides the window. -/
def closeSignalHandler : RulesEditor := e.hiderulesEditorWindow

/-- The cancel button hides the window; the table stays as it is. -/
def cancelSignalHandler : RulesEditor := e.hiderulesEditorWindow

/-- Changes are pending or not. -/
def setSavePending (pending : Bool) : RulesEditor :=
  { e with dialog := e.dialog.setPending pending }

/-- The chosen folder is not kept. -/
def folderChosen : RulesEditor := e.setSavePending true

/-- The chosen kind of script is not kept. -/
def matchChosen : RulesEditor := e.setSavePending true

end RulesEditor

/-- The value of a check button. -/
def gboolean (active : Bool) : BYTE := if active then 1 else 0

namespace Session

/-- A fault of the table ends the session. -/
def orCrash (s : Session) {α : Type} (f : α → Session) : Except Fault α → Session
  | .ok a => f a
  | .error fault => { s with ended := some (.crashed fault) }

/-- `enableChange` for a row, after its check button was clicked. -/
def enableChange (s : Session) (row : EditorRow) : Session :=
  s.orCrash (fun table => { s with table, editor := s.editor.setSavePending true })
    (s.table.rulesTableEntryEnable row.entryIndex row.enabled)

/-- `applyChanges` of `rulesEditor.c`; `rulesTableSave` does nothing. -/
def applyRules (s : Session) : Session := { s with editor := s.editor.setSavePending false }

/-- `addTagEntry`: a rule, and a row for it. -/
def addTagEntry (d : Desktop) (s : Session) : Session :=
  s.orCrash (fun (numEntries, table) =>
    let s := { s with table }
    s.orCrash (fun row => { s with editor := { s.editor with rows := s.editor.rows ++ [row] } })
      (table.tableAddRow (numEntries - 1)))
    (s.table.rulesTableAddEntry d.mem)

/-- `buildrulesEditor`, and the window is shown. -/
def buildrulesEditor (s : Session) : Session :=
  s.orCrash (fun rows =>
    { s with editor :=
      { dialog := (s.editor.dialog.setPending false).present, rows, statusBar := [] } })
    (s.table.fillTable s.table.rulesTableNumber)

/-- `rulesEditorActivate`; a click on the icon hides the window if it is the active one. -/
def rulesEditorActivate (s : Session) (isActive : Bool) : Session :=
  if s.editor.dialog.window = .unbuilt then s.buildrulesEditor
  else if isActive then { s with editor := s.editor.closeSignalHandler }
  else { s with editor := { s.editor with dialog := s.editor.dialog.present } }

end Session

/-- Signals of the settings dialog, and its menu item. -/
inductive SettingsSignal where
  | activate
  | toggled (i : Nat)
  | pollDelayMoved (value : Int)
  | verbosityMoved (value : Int)
  | apply
  | close
  | cancel
  | delete
deriving DecidableEq

/-- Signals of the rules editor, and the ways to open it; a row is clicked by its position. -/
inductive EditorSignal where
  | activate (isActive : Bool)
  | add
  | enableToggled (i : Nat)
  | fileSet (i : Nat)
  | matchToggled (i : Nat)
  | apply
  | close
  | cancel
  | delete
deriving DecidableEq

/-- The signals of the system that `handleSignal` handles. -/
inductive SystemSignal where
  | SIGCHLD
  | SIGHUP
  | SIGINT
  | SIGTERM
deriving DecidableEq

/-- What the main loop delivers, and the signals that arrive in between. -/
inductive Input where
  | timeout (id : Nat)
  | settings (signal : SettingsSignal)
  | editor (signal : EditorSignal)
  | quit
  | system (signal : SystemSignal)
deriving DecidableEq

namespace SettingsDialog

/-- The signal reaches its handler. -/
def Delivers (s : SettingsDialog) : SettingsSignal → Prop
  | .activate => True
  | .toggled i =>
    s.dialog.window = .shown ∧ i < MAX_NUM_READERS + 1 ∧ (s.toggles i).sensitive = true
  -- a slider that does not move gives no signal
  | .pollDelayMoved value => s.dialog.window = .shown ∧
    clamp POLL_DELAY_MILLI_SECONDS_MIN POLL_DELAY_MILLI_SECONDS_MAX value ≠ s.pollDelayScale
  | .verbosityMoved value => s.dialog.window = .shown ∧
    clamp VERBOSITY_MIN VERBOSITY_MAX value ≠ s.verbosityScale
  | .apply => s.dialog.window = .shown ∧ s.dialog.applyButton = true
  | .close => s.dialog.window = .shown ∧ s.dialog.closeButton = true
  | .cancel => s.dialog.window = .shown
  | .delete => s.dialog.window = .shown

instance (s : SettingsDialog) : DecidablePred s.Delivers
  | .activate => inferInstanceAs (Decidable True)
  | .toggled _ => inferInstanceAs (Decidable (_ ∧ _ ∧ _))
  | .pollDelayMoved _ => inferInstanceAs (Decidable (_ ∧ _))
  | .verbosityMoved _ => inferInstanceAs (Decidable (_ ∧ _))
  | .apply => inferInstanceAs (Decidable (_ ∧ _))
  | .close => inferInstanceAs (Decidable (_ ∧ _))
  | .cancel => inferInstanceAs (Decidable (_ = _))
  | .delete => inferInstanceAs (Decidable (_ = _))

/-- The toggle `i` is clicked. -/
def click (s : SettingsDialog) (i : Nat) : SettingsDialog :=
  { s with toggles :=
    Function.update s.toggles i { s.toggles i with active := !(s.toggles i).active } }

end SettingsDialog

namespace RulesEditor

/-- The signal reaches its handler. -/
def Delivers (e : RulesEditor) : EditorSignal → Prop
  | .activate _ => True
  | .add => e.dialog.window = .shown
  | .enableToggled i => e.dialog.window = .shown ∧ i < e.rows.length
  | .fileSet i => e.dialog.window = .shown ∧ i < e.rows.length
  | .matchToggled i => e.dialog.window = .shown ∧ i < e.rows.length
  | .apply => e.dialog.window = .shown ∧ e.dialog.applyButton = true
  | .close => e.dialog.window = .shown ∧ e.dialog.closeButton = true
  | .cancel => e.dialog.window = .shown
  | .delete => e.dialog.window = .shown

instance (e : RulesEditor) : DecidablePred e.Delivers
  | .activate _ => inferInstanceAs (Decidable True)
  | .add => inferInstanceAs (Decidable (_ = _))
  | .enableToggled _ => inferInstanceAs (Decidable (_ ∧ _))
  | .fileSet _ => inferInstanceAs (Decidable (_ ∧ _))
  | .matchToggled _ => inferInstanceAs (Decidable (_ ∧ _))
  | .apply => inferInstanceAs (Decidable (_ ∧ _))
  | .close => inferInstanceAs (Decidable (_ ∧ _))
  | .cancel => inferInstanceAs (Decidable (_ = _))
  | .delete => inferInstanceAs (Decidable (_ = _))

/-- The check button of a row is clicked. -/
def click (e : RulesEditor) (i : Nat) : RulesEditor :=
  { e with rows := e.rows.modify i fun row => { row with enabled := gboolean (row.enabled = 0) } }

end RulesEditor

namespace Session

/-- The handler of a signal of the settings dialog. -/
def handleSettings (s : Session) : SettingsSignal → Session
  | .activate => s.settingsDialogActivate
  | .toggled i => { s with
    settings := (s.settings.click i).toggleChange s.world.readerManager.nbReaders i }
  | .pollDelayMoved value => { s with settings := { s.settings with
    pollDelayScale := clamp POLL_DELAY_MILLI_SECONDS_MIN POLL_DELAY_MILLI_SECONDS_MAX
      value }.scaleChanged }
  | .verbosityMoved value => { s with settings := { s.settings with
    verbosityScale := clamp VERBOSITY_MIN VERBOSITY_MAX value }.scaleChanged }
  | .apply => s.applySettings
  | .close => { s with settings := s.settings.closeSignalHandler }
  | .cancel => { s with settings := s.settings.cancelSignalHandler }
  | .delete => { s with settings := { s.settings with dialog := s.settings.dialog.delete } }

/-- The handler of a signal of the rules editor. -/
def handleEditor (d : Desktop) (s : Session) : EditorSignal → Session
  | .activate isActive =>
    s.rulesEditorActivate (isActive && s.editor.dialog.window = .shown)
  | .add => s.addTagEntry d
  | .enableToggled i =>
    let s := { s with editor := s.editor.click i }
    match s.editor.rows[i]? with
    | some row => s.enableChange row
    | none => s
  | .fileSet _ => { s with editor := s.editor.folderChosen }
  | .matchToggled _ => { s with editor := s.editor.matchChosen }
  | .apply => s.applyRules
  | .close => { s with editor := s.editor.closeSignalHandler }
  | .cancel => { s with editor := s.editor.cancelSignalHandler }
  | .delete => { s with editor := { s.editor with dialog := s.editor.dialog.delete } }

/-- `handleSignal`; the program is not a daemon, so that `daemonTerminate` does nothing. -/
def handleSignal (d : Desktop) (s : Session) : SystemSignal → Session
  | .SIGCHLD => s
  | .SIGHUP => s.dispatchEvents d (handleSIGHUP d.env s.world)
  | .SIGINT => { s.dispatchEvents d (readersDisconnect d.env s.world) with ended := some .exited }
  | .SIGTERM => { s.dispatchEvents d (readersDisconnect d.env s.world) with ended := some .exited }

/-- The input reaches its handler. -/
def Delivers (s : Session) (input : Input) : Prop :=
  s.ended = none ∧
    match input with
    | .timeout id => s.tray.mainLoop.live.any (·.1 = id) = true
    | .settings signal => s.settings.Delivers signal
    | .editor signal => s.editor.Delivers signal
    | .quit => True
    | .system _ => True

instance (s : Session) : DecidablePred s.Delivers
  | .timeout _ => inferInstanceAs (Decidable (_ ∧ _))
  | .settings _ => inferInstanceAs (Decidable (_ ∧ s.settings.Delivers _))
  | .editor _ => inferInstanceAs (Decidable (_ ∧ s.editor.Delivers _))
  | .quit => inferInstanceAs (Decidable (_ ∧ True))
  | .system _ => inferInstanceAs (Decidable (_ ∧ True))

/-- What an input that is delivered does. -/
def handle (d : Desktop) (s : Session) : Input → Session
  | .timeout _ => s.poll d
  | .settings signal => s.handleSettings signal
  | .editor signal => s.handleEditor d signal
  | .quit => s.iconQuit
  | .system signal => s.handleSignal d signal

/-- An input is handled, if it can be delivered. -/
def step (d : Desktop) (s : Session) (input : Input) : Session :=
  if s.Delivers input then s.handle d input else s

/-- The session after some inputs. -/
def run (d : Desktop) (s : Session) (inputs : List Input) : Session := inputs.foldl (step d) s

end Session

end TagEventor
