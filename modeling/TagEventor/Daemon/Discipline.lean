import TagEventor.Daemon.Program

/-!
# What a process does with the lock file

The order in which a process of the program handles the lock file, as a protocol: only a daemon
creates the file, outside of the signal handler; once it has created the file it removes it in the
handler only; and the handler of a daemon does not exit before it has called `remove`. `main` and
`handleSignal` keep to it, whatever the system calls return.
-/

namespace TagEventor
open Interact Stoppable

/-- What a process has done so far. -/
structure Mode where
  runningAsDaemon : Bool
  /-- the process is in its signal handler -/
  handling : Bool
  /-- the process has created the lock file -/
  created : Bool
  /-- the process has called `remove` -/
  removed : Bool

/-- The mode a process starts in. -/
def Mode.init : Mode := ⟨false, false, false, false⟩

/-- What a process may do with the lock file, by what it has done before. -/
def lockProtocol : Protocol Mode Sys Ans where
  allowed m
    | .openExcl => m.runningAsDaemon = true ∧ m.handling = false ∧ m.removed = false
    | .gotLock => m.created = true
    | .remove => m.created = true → m.handling = true
    | .exit _ => m.handling = true → m.runningAsDaemon = true → m.removed = true
    | _ => True
  next m q a :=
    match q with
    -- the child has done nothing yet
    | .fork => if a.ret = 0 then { m with created := false, removed := false } else m
    | .setRunningAsDaemon => { m with runningAsDaemon := true }
    | .openExcl => if a.ret = -1 then m else { m with created := true }
    | .remove => { m with removed := true }
    | _ => m

variable {α : Type} {post : Mode → α → Prop} {m : Mode}

/-- A part of the program that may end anyhow. -/
def Disciplined (p : Program α) (m : Mode) : Prop := Obeys lockProtocol (fun _ _ => True) p m

/-- An exit needs no more than to be allowed. -/
lemma obeys_exit {status : Int} (allowed : lockProtocol.allowed m (.exit status)) :
    Obeys lockProtocol post (exit status) m := by
  apply Obeys.ask_bind allowed
  intro a
  exact obeys_failure

/-- Outside of the handler a process may exit at any time. -/
lemma obeys_exit_outside {status : Int} (handling : m.handling = false) :
    Obeys lockProtocol post (exit status) m := by
  apply obeys_exit
  intro h
  rw [handling] at h
  cases h

/-- A test that may end the program. -/
lemma obeys_exit_if {c : Prop} [Decidable c] {status : Int} {f : Unit → Program α}
    (handling : m.handling = false) (rest : ¬c → Obeys lockProtocol post (f ()) m) :
    Obeys lockProtocol post (if c then exit status >>= f else f ()) m := by
  split
  next =>
    have stops : Obeys lockProtocol (fun _ _ => False) (exit status : Program Unit) m :=
      obeys_exit_outside handling
    apply stops.bind
    intro _ _ h
    exact h.elim
  next h =>
    exact rest h

/-- A daemon that has not removed the file may take the lock, and does so before it returns. -/
lemma getLockOrDie_obeys (daemon : m.runningAsDaemon = true) (handling : m.handling = false)
    (removed : m.removed = false) :
    Obeys lockProtocol (fun m _ => m.handling = false) getLockOrDie m := by
  unfold getLockOrDie
  apply Obeys.silent_bind
  · exact fun _ => ⟨trivial, fun _ => rfl⟩
  intro _
  apply Obeys.ask_bind
  · exact ⟨daemon, handling, removed⟩
  intro lockFile
  by_cases opened : lockFile.ret = -1
  · rw [show lockProtocol.next m .openExcl lockFile = m from if_pos opened]
    apply obeys_exit_if handling
    intro h
    exact absurd opened h
  rw [show lockProtocol.next m .openExcl lockFile = { m with created := true } from if_neg opened]
  apply obeys_exit_if
  · exact handling
  intro _
  apply Obeys.silent_bind
  · exact fun _ => ⟨trivial, fun _ => rfl⟩
  intro locked
  apply obeys_exit_if
  · exact handling
  intro _
  apply Obeys.silent_bind
  · exact fun _ => ⟨trivial, fun _ => rfl⟩
  intro pid
  apply Obeys.silent_bind
  · exact fun _ => ⟨trivial, fun _ => rfl⟩
  intro written
  apply obeys_exit_if
  · exact handling
  intro _
  apply Obeys.ask_bind
  · exact rfl
  intro _
  exact obeys_pure.2 handling

/-- Only the child of the fork takes the lock. -/
lemma daemonize_obeys (handling : m.handling = false) :
    Obeys lockProtocol (fun m _ => m.handling = false) daemonize m := by
  unfold daemonize
  apply Obeys.ask_bind
  · exact trivial
  intro pid
  have handling' : (lockProtocol.next m .fork pid).handling = false := by
    show Mode.handling (if pid.ret = 0 then _ else m) = false
    split
    next => exact handling
    next => exact handling
  apply obeys_exit_if handling'
  intro forked
  apply obeys_exit_if handling'
  intro isChild
  rw [show lockProtocol.next m .fork pid = _ from if_pos (by omega)]
  apply Obeys.ask_bind
  · exact trivial
  intro _
  apply Obeys.silent_bind
  · exact fun _ => ⟨trivial, fun _ => rfl⟩
  intro sid
  apply obeys_exit_if
  · exact handling
  intro _
  apply Obeys.silent_bind
  · exact fun _ => ⟨trivial, fun _ => rfl⟩
  intro dir
  apply obeys_exit_if
  · exact handling
  intro _
  exact getLockOrDie_obeys rfl handling rfl

/-- A process that has not created the file may remove it. -/
lemma stopDaemon_obeys {pidString : CString} (handling : m.handling = false)
    (created : m.created = false) :
    Obeys lockProtocol (fun m _ => m.handling = false) (stopDaemon pidString) m := by
  unfold stopDaemon
  apply Obeys.silent_bind
  · exact fun _ => ⟨trivial, fun _ => rfl⟩
  intro _
  apply Obeys.silent_bind
  · exact fun _ => ⟨trivial, fun _ => rfl⟩
  intro lockFile
  apply obeys_exit_if handling
  intro _
  apply Obeys.silent_bind
  · exact fun _ => ⟨trivial, fun _ => rfl⟩
  intro read
  apply obeys_exit_if handling
  intro _
  apply Obeys.silent_bind
  · exact fun _ => ⟨trivial, fun _ => rfl⟩
  intro _
  split
  next =>
    exact obeys_exit_outside handling
  next pid _ =>
    apply Obeys.silent_bind
    · exact fun _ => ⟨trivial, fun _ => rfl⟩
    intro _
    apply Obeys.silent_bind
    · exact fun _ => ⟨trivial, fun _ => rfl⟩
    intro _
    apply Obeys.ask_bind
    · intro h
      rw [created] at h
      cases h
    intro _
    exact obeys_pure.2 handling

/-- `main` keeps to the protocol. -/
theorem main_disciplined {pidString : CString} {runOptions : tRunOptions} :
    Disciplined (main pidString runOptions) .init := by
  have cleanUp : ∀ {m : Mode}, m.handling = false → Disciplined (do
      let _ ← call .readersDisconnect
      let _ ← call .readersManagerDisconnect
      (exit 0 : Program Unit)) m := by
    intro m handling
    apply Obeys.silent_bind
    · exact fun _ => ⟨trivial, fun _ => rfl⟩
    intro _
    apply Obeys.silent_bind
    · exact fun _ => ⟨trivial, fun _ => rfl⟩
    intro _
    exact obeys_exit_outside handling
  have switch : Obeys lockProtocol (fun m _ => m.handling = false)
      (runSwitch pidString runOptions) .init := by
    cases runOptions with
    | FOREGROUND =>
      exact obeys_pure.2 rfl
    | START_DAEMON =>
      apply (daemonize_obeys rfl).bind
      intro m _ handling
      exact obeys_pure.2 handling
    | STOP_DAEMON =>
      apply (stopDaemon_obeys rfl rfl).bind
      intro m _ handling
      exact obeys_exit_outside handling
  apply switch.bind
  intro m next handling
  dsimp only
  split
  next =>
    apply Obeys.silent_bind
    · exact fun _ => ⟨trivial, fun _ => rfl⟩
    intro _
    exact cleanUp handling
  next =>
    exact cleanUp handling

/-- The handler keeps to the protocol. -/
theorem handleSignal_disciplined {m : Mode} (handling : m.handling = true) :
    Disciplined (handleSignal m.runningAsDaemon) m := by
  apply Obeys.silent_bind
  · exact fun _ => ⟨trivial, fun _ => rfl⟩
  intro _
  have terminates : Obeys lockProtocol (fun m _ => m.runningAsDaemon = true → m.removed = true)
      (daemonTerminate m.runningAsDaemon) m := by
    unfold daemonTerminate
    split
    next =>
      apply Obeys.silent_bind
      · exact fun _ => ⟨trivial, fun _ => rfl⟩
      intro _
      apply Obeys.ask_bind
      · exact fun _ => handling
      intro _
      exact obeys_pure.2 fun _ => rfl
    next h =>
      exact obeys_pure.2 fun daemon => absurd daemon h
  apply terminates.bind
  intro m _ removed
  apply obeys_exit
  intro _ daemon
  exact removed daemon

end TagEventor
