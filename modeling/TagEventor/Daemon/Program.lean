import TagEventor.Lib.Protocol
import TagEventor.Reader.Types

/-!
# The program as a process

`main` of `tagEventor.c` from its `switch` on, with `daemonControl.c` and the handler of `SIGTERM`
and `SIGINT`: the system calls a process makes, one after the other. The variables that the handler
shares with the code it interrupts (`runningAsDaemon`, `lockFilename`, `lockFile`) belong to the
process; an assignment to one of them is a step of its own, except that `lockFile = open( .. )` is
one step. Logging, the masks and the signals that are ignored are left out, and so is `SYSTEM_TRAY`,
which needs a build with a system tray. What the readers do is not visible here: the calls of the
library are single steps, and so is the loop of the foreground, which never ends by itself.
-/

namespace TagEventor
open Interact

/-- The name of the daemon. -/
def DAEMON_NAME : CString := "tagEventord".toList
/-- The directory of the lock file. -/
def DEFAULT_LOCK_FILE_DIR : CString := "/var/run/tagEventor".toList

/-- What `"%s/%s.lock"` yields for the two. -/
def LOCK_FILENAME : CString :=
  DEFAULT_LOCK_FILE_DIR ++ "/".toList ++ DAEMON_NAME ++ ".lock".toList

/-- The status of a program that failed. -/
def EXIT_FAILURE : Int := 1

/-- How the program is to be run. -/
inductive tRunOptions where
  | FOREGROUND
  | START_DAEMON
  | STOP_DAEMON
deriving DecidableEq

/-- A step of a process. -/
inductive Sys where
  | fork
  | setsid
  | chdir
  /-- `lockFile = open( lockFilename, O_RDWR | O_CREAT | O_EXCL, .. )` -/
  | openExcl
  /-- `lockFile = open( lockFilename, O_RDONLY, 0 )` -/
  | openRdonly
  /-- `fcntl( lockFile, F_SETLK, .. )` for a write lock -/
  | fcntl
  | getpid
  | write (bytes : CString)
  | read (count : Nat)
  | close
  /-- `kill( pid, SIGTERM )` -/
  | kill (pid : Int)
  | sleep (seconds : Nat)
  /-- `remove( lockFilename )` -/
  | remove
  | exit (status : Int)
  /-- `runningAsDaemon = TRUE` -/
  | setRunningAsDaemon
  /-- `sprintf( lockFilename, "%s/%s.lock", .. )` -/
  | sprintfLockFilename
  /-- `getLockOrDie` returns -/
  | gotLock
  | readersDisconnect
  | readersManagerDisconnect
  /-- `while ( tagListCheck( pollCallback ) ) usleep( .. )` -/
  | pollForever
deriving DecidableEq

/-- What a step returns: a number, and what was read. -/
structure Ans where
  ret : Int
  bytes : CString

/-- A part of the program; it may exit. -/
abbrev Program := Stoppable Sys Ans

/-- A system call. -/
abbrev call (q : Sys) : Program Ans := Stoppable.ask q

/-- The process ends. -/
def exit {α : Type} (status : Int) : Program α := do
  let _ ← call (.exit status)
  failure

/-- `"%d"` of `sprintf`. -/
def sprintfInt : Int → CString
  | .ofNat n => Nat.toDigits 10 n
  | .negSucc n => '-' :: Nat.toDigits 10 (n + 1)

/-- The spaces of the C locale. -/
def isspace (c : Char) : Bool := c = ' ' || (9 ≤ c.toNat && c.toNat ≤ 13)

/-- The digits a text starts with, as a number. -/
def scanDigits (text : CString) : Option Int :=
  let digits := text.takeWhile Char.isDigit
  if digits = [] then none
  else some (digits.foldl (fun n c => 10 * n + (c.toNat - '0'.toNat)) 0)

/-- `"%d"` of `sscanf`, for numbers that an `int` holds. -/
def sscanfInt (text : CString) : Option Int :=
  match text.dropWhile isspace with
  | '-' :: text => (scanDigits text).map fun n => -n
  | '+' :: text => scanDigits text
  | text => scanDigits text

/-- Stop the daemon; `pidString` is what the memory at the address of the local buffer holds before
anything is read into it. -/
def stopDaemon (pidString : CString) : Program Unit := do
  let _ ← call .sprintfLockFilename
  let lockFile ← call .openRdonly
  if lockFile.ret = -1 then exit EXIT_FAILURE
  let read ← call (.read 19)
  if read.ret = -1 then exit EXIT_FAILURE
  let _ ← call .close
  match sscanfInt (read.bytes ++ pidString.drop read.bytes.length) with
  | none => exit EXIT_FAILURE
  | some pid =>
    let _ ← call (.kill pid)
    let _ ← call (.sleep 1)
    let _ ← call .remove

/-- The lock file is created, locked, and gets the process id; if it is there, the program ends. -/
def getLockOrDie : Program Unit := do
  let _ ← call .sprintfLockFilename
  let lockFile ← call .openExcl
  if lockFile.ret = -1 then exit EXIT_FAILURE
  let locked ← call .fcntl
  if locked.ret = -1 then exit EXIT_FAILURE
  let pid ← call .getpid
  let pidString := sprintfInt pid.ret ++ ['\n']
  let written ← call (.write pidString)
  if written.ret ≠ pidString.length then exit EXIT_FAILURE
  let _ ← call .gotLock

/-- A daemon closes its lock file and removes it. -/
def daemonTerminate (runningAsDaemon : Bool) : Program Unit := do
  if runningAsDaemon then
    let _ ← call .close
    let _ ← call .remove

/-- Fork a daemon; only the child returns. -/
def daemonize : Program Unit := do
  let pid ← call .fork
  if pid.ret < 0 then exit EXIT_FAILURE
  if pid.ret > 0 then exit EXIT_FAILURE
  let _ ← call .setRunningAsDaemon
  let sid ← call .setsid
  if sid.ret < 0 then exit EXIT_FAILURE
  let dir ← call .chdir
  if dir.ret < 0 then exit EXIT_FAILURE
  getLockOrDie

/-- `handleSignal` for `SIGTERM` and `SIGINT`; `runningAsDaemon` is what the handler finds: the code
it interrupts does not go on. -/
def handleSignal (runningAsDaemon : Bool) : Program Unit := do
  let _ ← call .readersDisconnect
  daemonTerminate runningAsDaemon
  exit 0

/-- What comes next in `main`. -/
inductive Next where
  | poll
  | readersDisconnect
  | readersManagerDisconnect
  | returned
deriving DecidableEq

/-- The `switch` of `main` on the run options, up to where it enters a loop or is left. -/
def runSwitch (pidString : CString) : tRunOptions → Program Next
  | .START_DAEMON => do
    daemonize
    return .readersDisconnect
  | .STOP_DAEMON => do
    stopDaemon pidString
    exit 0
  | .FOREGROUND => return .poll

/-- `main` from its `switch` on. -/
def main (pidString : CString) (runOptions : tRunOptions) : Program Unit := do
  let next ← runSwitch pidString runOptions
  if next = .poll then
    let _ ← call .pollForever
  let _ ← call .readersDisconnect
  let _ ← call .readersManagerDisconnect
  exit 0

end TagEventor
