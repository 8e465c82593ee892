import TagEventor.Daemon.CommandLine
import TagEventor.Lib.MainLoop
import TagEventor.Poll.TagEvents
import TagEventor.Rules.Editor

/-!
# A session in the system tray

`gtagEventor` is the program with an icon in the system tray. Its main loop calls `tagListCheck`
again and again, and between two polls the user opens windows, in which the settings and the rules
are changed. `Session` is the state of the whole program; this module models `systemTray.c`, and
what `eventDispatch` does beside attaching the contents of tags: the notifications, and the scripts.

The events of a poll are dispatched when it is over, which is the order of the notifications and of
the calls of `fork`, as nothing else makes any. Left out are the texts that the pointers to the
names of readers designate, the explorer, the time a notification is shown for, and signals of the
system that arrive within a callback of the main loop (`Reader.Hangup` has those within a poll).
-/

namespace TagEventor
open Interact

/-- The name of the program with the system tray. -/
def PROGRAM_NAME : CString := "gtagEventor".toList

/-- What every tool tip says. -/
def TOOL_TIP_TEXT : CString :=
  "Left-click for Rules Editor.\nRight-click for menu.".toList

/-- The size of the buffer for a tool tip. -/
def SYSTEM_TRAY_TOOL_TIP_TEXT_MAX : Nat := 260

/-- What the status bar says of changes that are pending. -/
def TAGEVENTOR_STRING_SETTINGS_SAVE_PENDING : CString :=
  "Press 'Apply' to save settings then 'Close'. ".toList ++
    "Press 'Cancel' to exit without saving changes".toList

/-- What a session runs in: the readers, the memory, the scripts that exist when pcscd has been
called so far, and what `fork` returns each time. -/
structure Desktop where
  env : Env
  mem : Malloc
  found : List Call → CString → Bool
  forks : Nat → Int

/-- A window is not there before it is built and after it is destroyed. -/
inductive Window where
  | unbuilt
  | hidden
  | shown
deriving DecidableEq

/-- What the two windows have in common: a flag for changes that are not applied yet, and which of
the buttons can be pressed. -/
structure Dialog where
  window : Window
  savePending : Bool
  applyButton : Bool
  closeButton : Bool
deriving DecidableEq

/-- A check button of the settings dialog. -/
structure Toggle where
  active : Bool
  sensitive : Bool
deriving DecidableEq

/-- The settings dialog. -/
structure SettingsDialog where
  dialog : Dialog
  toggles : Nat → Toggle
  pollDelayScale : Int
  verbosityScale : Int
  statusBar : CString

/-- The rules editor. -/
structure RulesEditor where
  dialog : Dialog
  rows : List EditorRow
  statusBar : CString

/-- The second argument of `systemTrayNotify`. -/
inductive NotificationBody where
  | uid (uid : CString)
  /-- `pManager->readers[readerNumber].name` -/
  | readerName (readerNumber : Nat)
  | null
deriving DecidableEq

/-- A call of `systemTrayNotify`, and whether `libnotify` was initialised. -/
structure Notification where
  message : CString
  body : NotificationBody
  initialised : Bool
deriving DecidableEq

/-- The static variables of `systemTray.c` with what they stand for: the sources of the main loop
with their intervals, the icon, and the texts that were put into the tool tip. -/
structure SystemTray where
  mainLoop : MainLoop Int
  timeoutID : Nat
  readerPollFunction : Bool
  connectedIcon : Bool
  toolTips : List CString
  notifyInit : Bool
  notified : List Notification

/-- How a session ends. -/
inductive Ended where
  | exited
  | crashed (fault : Fault)
deriving DecidableEq

/-- A program that is running, with what it shows. -/
structure Session where
  world : World
  appVerbosityLevel : Int
  appPollDelayms : Int
  tray : SystemTray
  settings : SettingsDialog
  editor : RulesEditor
  table : RulesTable
  /-- how often `fork` was called -/
  forked : Nat
  calls : List (HostCall × Int)
  ended : Option Ended

namespace Dialog

/-- The variables of a window at the start of the program. -/
def init : Dialog := ⟨.unbuilt, false, false, false⟩

/-- Hide the window if it exists. -/
def hide (d : Dialog) : Dialog :=
  { d with window := if d.window = .unbuilt then .unbuilt else .hidden }

/-- With changes that are not applied the window manager cannot close the window. -/
def deleteSignalHandler (d : Dialog) : Bool := d.savePending

/-- The window is hidden, and its variable is set to `NULL`. -/
def destroy (d : Dialog) : Dialog := { d.hide with window := .unbuilt }

/-- The user closes the window with the `X` box. -/
def delete (d : Dialog) : Dialog := if d.deleteSignalHandler then d else d.destroy

/-- Changes can be applied, or the window can be closed. -/
def setPending (d : Dialog) (pending : Bool) : Dialog :=
  { d with savePending := pending, applyButton := pending, closeButton := !pending }

/-- The window is shown. -/
def present (d : Dialog) : Dialog := { d with window := .shown }

/-- The window lets the program exit. -/
def quit (d : Dialog) : Bool := !d.savePending

end Dialog

/-- The timeout for the polls is replaced by one with another interval. -/
def SystemTray.systemTraySetPollDelay (t : SystemTray) (validPollDelay : Int) : SystemTray :=
  -- delete the old timeout
  let t :=
    if t.timeoutID ≠ 0 then { t with mainLoop := t.mainLoop.remove t.timeoutID } else t
  -- add a new timeout to check for tags
  if t.readerPollFunction then
    let source := t.mainLoop.add validPollDelay
    { t with mainLoop := source.2, timeoutID := source.1 }
  else t

/-- A notification is shown; nothing checks whether `libnotify` is initialised. -/
def SystemTray.systemTrayNotify (t : SystemTray) (message : CString) (body : NotificationBody) :
    SystemTray :=
  { t with notified := t.notified ++ [⟨message, body, t.notifyInit⟩] }

/-- The text of the tool tip. -/
def toolTipText (generalMessage tagsMessage : CString) : CString :=
  PROGRAM_NAME ++ ":\n".toList ++ TOOL_TIP_TEXT ++ '\n' :: generalMessage ++ '\n' :: tagsMessage

/-- The status bar of the rules editor, if the window exists. -/
def RulesEditor.rulesEditorSetStatus (e : RulesEditor) (message : CString) : RulesEditor :=
  if e.dialog.window = .unbuilt then e else { e with statusBar := message }

namespace Session

/-- The icon, the tool tip and the status bar of the rules editor. -/
def systemTraySetStatus (s : Session) (c : Callback) : Session :=
  { s with
    tray := { s.tray with
      connectedIcon := c.connected
      toolTips := s.tray.toolTips ++ [toolTipText c.generalMessage c.tagsMessage] }
    editor := s.editor.rulesEditorSetStatus c.generalMessage }

/-- The state of the windows and of the tray before `startSystemTray` adds the first timeout. -/
def init (c : CommandLine) (t : RulesTable) : Session where
  world := .init c.readerManager.readerSetting
  appVerbosityLevel := c.appVerbosityLevel
  appPollDelayms := c.appPollDelayms
  tray := ⟨.init, 0, false, false, [], true, []⟩
  settings := ⟨.init, fun _ => ⟨false, false⟩, 0, 0, []⟩
  editor := ⟨.init, [], []⟩
  table := t
  forked := 0
  calls := []
  ended := none

/-- `startSystemTray`, up to the call of `gtk_main`. -/
def startSystemTray (s : Session) (pollDelay : Int) : Session :=
  let source := s.tray.mainLoop.add pollDelay
  { s with tray := { s.tray with
      toolTips := s.tray.toolTips ++ [TOOL_TIP_TEXT]
      readerPollFunction := true
      mainLoop := source.2
      timeoutID := source.1 } }

/-- `main` with the settings of the command line and the rules that were read. -/
def start (c : CommandLine) (t : RulesTable) : Session :=
  (init c t).startSystemTray c.appPollDelayms

/-- The rules editor lets the program exit. -/
def rulesEditorQuit (s : Session) : Bool := s.editor.dialog.quit

/-- The settings dialog lets the program exit. -/
def settingsDialogQuit (s : Session) : Bool := s.settings.dialog.quit

/-- The program exits if neither window has changes that are not applied. -/
def iconQuit (s : Session) : Session :=
  let s := { s with tray := { s.tray with notifyInit := false } }
  if s.rulesEditorQuit ∧ s.settingsDialogQuit then { s with ended := some .exited } else s

/-- A tag of which only the UID is known; the dispatch reads nothing else of it. -/
def tagWith (uid : CString) : tTag := ⟨.empty, .UNKNOWN_TYPE, uid⟩

/-- Try to start a script for a tag event, and notify if this fails. -/
def runScript (d : Desktop) (s : Session) (eventType : tEventType) (uid failed : CString) :
    Session :=
  let answer := host (d.found s.world.log) d.forks
  let p := rulesTableEventDispatch s.table eventType (tagWith uid)
  let r := p.run answer s.forked
  let s := { s with forked := r.2, calls := s.calls ++ p.transcript answer s.forked }
  match r.1 with
  | .error fault => { s with ended := some (.crashed fault) }
  | .ok true => s
  | .ok false => { s with tray := s.tray.systemTrayNotify failed (.uid uid) }

/-- Notify of an event. -/
def notify (s : Session) (message : CString) (body : NotificationBody) : Session :=
  { s with tray := s.tray.systemTrayNotify message body }

/-- No script was started for a tag that has come. -/
def TAG_IN_FAILED : CString := "Failed to find an executable script for the tag event".toList

/-- No script was started for a tag that has gone. -/
def TAG_OUT_FAILED : CString := "Failed to execute a script for tag event".toList

/-- `eventDispatch` in the system tray. -/
def eventDispatch (d : Desktop) (s : Session) (e : Event) : Session :=
  if s.ended ≠ none then s
  else
    match e.eventType, e.uid with
    | .TAG_IN, some uid =>
      (s.notify "Tag IN".toList (.uid uid)).runScript d .TAG_IN uid TAG_IN_FAILED
    | .TAG_OUT, some uid => s.runScript d .TAG_OUT uid TAG_OUT_FAILED
    | .READER_DETECTED, _ => s.notify "Reader detected".toList (.readerName e.readerNumber)
    | .READER_CONNECTED_TO, _ => s.notify "Reader connected to".toList (.readerName e.readerNumber)
    | .PCSCD_CONNECT, _ => s.notify "Connected to 'pcscd' daemon".toList .null
    | _, _ => s

/-- The library has made the state of the readers `w`, and its events are dispatched in their
order. -/
def dispatchEvents (d : Desktop) (s : Session) (w : World) : Session :=
  (w.events.drop s.world.events.length).foldl (eventDispatch d) { s with world := w }

/-- A call of `tagListCheck` by the main loop; its callback is called at the end. -/
def poll (d : Desktop) (s : Session) : Session :=
  let w := tagListCheck d.env true s.world
  (w.callbacks.drop s.world.callbacks.length).foldl systemTraySetStatus (s.dispatchEvents d w)

end Session

end TagEventor
