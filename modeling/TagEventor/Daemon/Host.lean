import Mathlib.Logic.Function.Basic
import TagEventor.Daemon.Discipline
import TagEventor.Lib.Machine

/-!
# Processes and the lock file

A `Host` runs any number of processes of the program, which share a file system in which
`LOCK_FILENAME` is the only path that matters. An `Action` is what happens next: a command is
entered, a process makes the next step of its code, a signal is sent to a process, or a process
enters the handler of a signal it was sent. `Enabled` says what may happen in a state, and `next`
what becomes of the state. What a system call returns is chosen by the action, among the results
that are possible (`Admits`): each call may fail. A process ends by its own `exit` only.

A process remembers what it has done: the file it created, whether it called `remove` and whether it
returned from `getLockOrDie`. The code never looks at these.
-/

namespace TagEventor
open Interact Machine

/-- The signals that end a process by its handler. -/
inductive Signal where
  | SIGINT
  | SIGTERM
deriving DecidableEq

/-- A process. -/
structure Proc where
  pid : Int
  /-- what the process has still to do -/
  code : Program Unit
  running : Bool
  runningAsDaemon : Bool
  lockFilename : CString
  /-- the file that `lockFile` is open on -/
  lockFile : Option Nat
  /-- the signals that were sent and not yet handled -/
  pending : List Signal
  /-- the signals whose handler has been entered; they are blocked -/
  handling : List Signal
  /-- the file it created in `getLockOrDie` -/
  created : Option Nat
  /-- whether it has called `remove` -/
  removed : Bool
  /-- whether it has returned from `getLockOrDie` -/
  gotLock : Bool

/-- A file, which may be open after it was removed. -/
structure File where
  contents : CString
  /-- the process that holds the record lock -/
  lock : Option Nat

/-- The processes and the files of a machine. -/
structure Host where
  procs : Nat → Proc
  /-- the number of processes so far -/
  count : Nat
  /-- the file at `LOCK_FILENAME` -/
  path : Option Nat
  files : Nat → File
  /-- the number of files so far -/
  fileCount : Nat

/-- What can happen next. -/
inductive Action where
  /-- a command is entered; `pidString` is the buffer that `stopDaemon` would read into -/
  | command (runOptions : tRunOptions) (pid : Int) (pidString : CString)
  /-- process `i` makes its next step, which returns `ret` -/
  | call (i : Nat) (ret : Int)
  | send (i : Nat) (sig : Signal)
  /-- process `i` enters the handler -/
  | handle (i : Nat) (sig : Signal)

namespace Proc

/-- A process that has just been started. -/
def fresh (pid : Int) (program : Program Unit) : Proc :=
  { pid, code := program, running := true, runningAsDaemon := false, lockFilename := [],
    lockFile := none, pending := [], handling := [], created := none, removed := false,
    gotLock := false }

/-- The step that is next. -/
def asks (p : Proc) : Option Sys :=
  match p.code.run with
  | .ask q _ => some q
  | .ret _ => none

/-- The process has passed the `open` of `getLockOrDie` and is still running. -/
def Passed (p : Proc) : Prop := p.running = true ∧ p.created ≠ none

instance (p : Proc) : Decidable p.Passed := inferInstanceAs (Decidable (_ ∧ _))

/-- What a step does to the memory of the process. -/
def after (s : Host) (p : Proc) : Sys → Int → Proc
  | .setRunningAsDaemon, _ => { p with runningAsDaemon := true }
  | .sprintfLockFilename, _ => { p with lockFilename := LOCK_FILENAME }
  | .openExcl, ret =>
    if ret = -1 then { p with lockFile := none }
    else { p with lockFile := some s.fileCount, created := some s.fileCount }
  | .openRdonly, ret => { p with lockFile := if ret = -1 then none else s.path }
  | .close, _ => { p with lockFile := none }
  | .gotLock, _ => { p with gotLock := true }
  | .remove, _ => { p with removed := true }
  | .exit _, _ => { p with running := false }
  | _, _ => p

/-- The process goes on with the rest of its program. -/
def resume (p : Proc) (rest : Prog Sys Ans (Option Unit)) : Proc := { p with code := .mk rest }

/-- The child of a fork: a copy that has done nothing yet. -/
def child (p : Proc) (pid : Int) : Proc :=
  { p with pid, pending := [], created := none, removed := false, gotLock := false }

/-- A signal waits for the process. -/
def receive (p : Proc) (sig : Signal) : Proc :=
  { p with pending := p.pending.insert sig }

/-- Enter the handler, which never returns to the code it interrupts. -/
def interrupt (p : Proc) (sig : Signal) : Proc :=
  { p with
    code := handleSignal p.runningAsDaemon
    pending := p.pending.erase sig
    handling := sig :: p.handling }

end Proc

namespace Host

/-- No process has been started, and there is no lock file. -/
def init : Host where
  procs _ := { Proc.fresh 0 (pure ()) with running := false }
  count := 0
  path := none
  files _ := ⟨[], none⟩
  fileCount := 0

/-- A process is changed. -/
def setProc (s : Host) (i : Nat) (p : Proc) : Host :=
  { s with procs := Function.update s.procs i p }

/-- A process is started. -/
def spawn (s : Host) (p : Proc) : Host :=
  { s.setProc s.count p with count := s.count + 1 }

/-- Change the file that process `i` has open. -/
def setFile (s : Host) (i : Nat) (f : File → File) : Host :=
  { s with files :=
      match (s.procs i).lockFile with
      | none => s.files
      | some file => Function.update s.files file (f (s.files file)) }

/-- The record locks of process `i` are released. -/
def unlock (s : Host) (i : Nat) : Host :=
  { s with files := fun file =>
      if (s.files file).lock = some i then { s.files file with lock := none } else s.files file }

/-- The contents of the file that process `i` has open. -/
def contents (s : Host) (i : Nat) : CString :=
  match (s.procs i).lockFile with
  | none => []
  | some file => (s.files file).contents

/-- The record lock on the file that process `i` has open is not held by another process. -/
def Lockable (s : Host) (i : Nat) : Prop :=
  (s.procs i).lockFile ≠ none ∧
    ∀ file ∈ (s.procs i).lockFile, (s.files file).lock = none ∨ (s.files file).lock = some i

instance (s : Host) (i : Nat) : Decidable (s.Lockable i) := inferInstanceAs (Decidable (_ ∧ _))

/-- No process runs under the pid. -/
def Unused (s : Host) (pid : Int) : Prop :=
  0 < pid ∧ ∀ j < s.count, (s.procs j).running = true → (s.procs j).pid ≠ pid

instance (s : Host) (pid : Int) : Decidable (s.Unused pid) := inferInstanceAs (Decidable (_ ∧ _))

/-- Which results a step of process `i` can have. -/
def Admits (s : Host) (i : Nat) : Sys → Int → Prop
  | .fork, ret => ret = -1 ∨ s.Unused ret
  | .openExcl, ret =>
    ret = -1 ∨ 0 ≤ ret ∧ (s.procs i).lockFilename = LOCK_FILENAME ∧ s.path = none
  | .openRdonly, ret =>
    ret = -1 ∨ 0 ≤ ret ∧ (s.procs i).lockFilename = LOCK_FILENAME ∧ s.path ≠ none
  | .fcntl, ret => ret = -1 ∨ ret = 0 ∧ s.Lockable i
  | .getpid, ret => ret = (s.procs i).pid
  | .write bytes, ret =>
    ret = -1 ∨ 0 ≤ ret ∧ ret ≤ bytes.length ∧ (s.procs i).lockFile ≠ none
  | .read count, ret =>
    ret = -1 ∨ 0 ≤ ret ∧ ret ≤ count ∧ ret ≤ (s.contents i).length
  | .remove, ret =>
    ret = -1 ∨ ret = 0 ∧ (s.procs i).lockFilename = LOCK_FILENAME ∧ s.path ≠ none
  | .exit _, ret => ret = 0
  | .pollForever, _ => False
  | _, ret => ret = -1 ∨ ret = 0

instance (s : Host) (i : Nat) : ∀ q ret, Decidable (s.Admits i q ret) := by
  intro q ret
  cases q <;> unfold Admits <;> infer_instance

/-- What a step reads. -/
def bytesRead (s : Host) (i : Nat) : Sys → Int → CString
  | .read _, ret => (s.contents i).take ret.toNat
  | _, _ => []

/-- The processes that run under the pid are sent the signal. -/
def signal (s : Host) (pid : Int) (sig : Signal) : Host :=
  { s with procs := fun j =>
      if (s.procs j).running = true ∧ (s.procs j).pid = pid then (s.procs j).receive sig
      else s.procs j }

/-- What a step of process `i` does to the files and to the other processes: nothing if it fails. -/
def effect (s : Host) (i : Nat) (q : Sys) (ret : Int) : Host :=
  if ret = -1 then s
  else
    match q with
    | .openExcl =>
      { s with
        path := some s.fileCount
        files := Function.update s.files s.fileCount ⟨[], none⟩
        fileCount := s.fileCount + 1 }
    | .fcntl => s.setFile i fun f => { f with lock := some i }
    | .write bytes => s.setFile i fun f => { f with contents := f.contents ++ bytes.take ret.toNat }
    | .close => s.unlock i
    | .kill pid => s.signal pid .SIGTERM
    | .remove => { s with path := none }
    | .exit _ => s.unlock i
    | _ => s

/-- Process `i` makes its next step. -/
def step (s : Host) (i : Nat) (ret : Int) : Host :=
  match (s.procs i).code.run with
  | .ret _ => s
  | .ask q k =>
    let p := ((s.procs i).after s q ret).resume (k ⟨ret, s.bytesRead i q ret⟩)
    let s' := (s.setProc i p).effect i q ret
    if q = .fork ∧ ret ≠ -1 then s'.spawn (((s.procs i).child ret).resume (k ⟨0, []⟩)) else s'

/-- What may happen next. -/
def Enabled (s : Host) : Action → Prop
  | .command _ pid _ => s.Unused pid
  | .call i ret =>
    i < s.count ∧ (s.procs i).running = true ∧ ∃ q ∈ (s.procs i).asks, s.Admits i q ret
  | .send i _ => i < s.count ∧ (s.procs i).running = true
  | .handle i sig =>
    i < s.count ∧ (s.procs i).running = true ∧
      sig ∈ (s.procs i).pending ∧ sig ∉ (s.procs i).handling

instance (s : Host) : ∀ a, Decidable (s.Enabled a)
  | .command .. => inferInstanceAs (Decidable (s.Unused _))
  | .call .. => inferInstanceAs (Decidable (_ ∧ _ ∧ _))
  | .send .. => inferInstanceAs (Decidable (_ ∧ _))
  | .handle .. => inferInstanceAs (Decidable (_ ∧ _ ∧ _ ∧ _))

/-- The machine after an action. -/
def next (s : Host) : Action → Host
  | .command runOptions pid pidString => s.spawn (.fresh pid (main pidString runOptions))
  | .call i ret => s.step i ret
  | .send i sig => s.setProc i ((s.procs i).receive sig)
  | .handle i sig => s.setProc i ((s.procs i).interrupt sig)

end Host

namespace Proc

/-- The processes differ at most in the signals that wait for them. -/
def Alike (p p' : Proc) : Prop := ∃ pending, p = { p' with pending }

variable {p p' p'' : Proc}

/-- A process is like itself. -/
lemma Alike.refl : p.Alike p := ⟨p.pending, rfl⟩

/-- A property that does not depend on the signals that wait. -/
lemma Alike.transport {I : Proc → Prop} (independent : ∀ p l, I p → I { p with pending := l })
    (h : p.Alike p') (hp : I p') : I p := by
  obtain ⟨pending, rfl⟩ := h
  exact independent p' pending hp

/-- Both are running, or neither is. -/
lemma Alike.running (h : p.Alike p') : p.running = p'.running := by
  obtain ⟨_, rfl⟩ := h
  rfl

/-- Both have created the same file. -/
lemma Alike.created (h : p.Alike p') : p.created = p'.created := by
  obtain ⟨_, rfl⟩ := h
  rfl

/-- Both have removed the file, or neither has. -/
lemma Alike.removed (h : p.Alike p') : p.removed = p'.removed := by
  obtain ⟨_, rfl⟩ := h
  rfl

/-- A signal that waits makes no difference. -/
lemma receive_alike {sig : Signal} : (p.receive sig).Alike p := ⟨_, rfl⟩

end Proc

namespace Host
variable {s : Host} {i j : Nat} {q : Sys} {ret : Int} {k : Ans → Prog Sys Ans (Option Unit)}

/-- From `s` to `s'` no process but `i` does anything, though some may have been started. -/
structure Frame (s s' : Host) (i : Nat) : Prop where
  count : s.count ≤ s'.count
  old : ∀ j < s.count, j ≠ i → (s'.procs j).Alike (s.procs j)
  new : ∀ j, s.count ≤ j → j < s'.count → (s'.procs j).created = none

/-- The process is the one that was stored. -/
lemma setProc_self {p : Proc} : (s.setProc i p).procs i = p := Function.update_self ..

/-- The other processes are as they were. -/
lemma setProc_of_ne {p : Proc} (h : j ≠ i) : (s.setProc i p).procs j = s.procs j :=
  Function.update_of_ne h ..

/-- The processes that were there are as they were. -/
lemma spawn_old {p : Proc} (h : j < s.count) : (s.spawn p).procs j = s.procs j :=
  setProc_of_ne (Nat.ne_of_lt h)

/-- The process that was started is the last one. -/
lemma spawn_new {p : Proc} (h : s.count ≤ j) (h' : j < (s.spawn p).count) :
    (s.spawn p).procs j = p := by
  obtain rfl : j = s.count := Nat.le_antisymm (Nat.le_of_lt_succ h') h
  exact setProc_self

/-- The effect of a step on the processes is the signals it sends. -/
lemma effect_procs : ((s.effect i q ret).procs j).Alike (s.procs j) := by
  unfold effect
  split
  next => exact .refl
  cases q with
  | kill pid =>
    dsimp only [signal]
    split
    next => exact Proc.receive_alike
    next => exact .refl
  | _ => exact .refl

/-- A call starts no process by its effect. -/
lemma effect_count : (s.effect i q ret).count = s.count := by
  unfold effect
  split
  next => rfl
  cases q with
  | _ => rfl

/-- Only two calls change what is at the path. -/
lemma effect_path (create : q ≠ .openExcl) (remove : q ≠ .remove) :
    (s.effect i q ret).path = s.path := by
  unfold effect
  split
  next => rfl
  cases q with
  | openExcl => exact absurd rfl create
  | remove => exact absurd rfl remove
  | _ => rfl

/-- Only one call makes a new file. -/
lemma effect_fileCount (create : q ≠ .openExcl) : (s.effect i q ret).fileCount = s.fileCount := by
  unfold effect
  split
  next => rfl
  cases q with
  | openExcl => exact absurd rfl create
  | _ => rfl

/-- The host after a step of process `i`, but for the child of a fork. -/
def stepped (s : Host) (i : Nat) (q : Sys) (ret : Int) (k : Ans → Prog Sys Ans (Option Unit)) :
    Host :=
  (s.setProc i (((s.procs i).after s q ret).resume (k ⟨ret, s.bytesRead i q ret⟩))).effect i q ret

/-- No process is started. -/
lemma stepped_count : (s.stepped i q ret k).count = s.count := effect_count

/-- The process that makes the step goes on. -/
lemma stepped_self : ((s.stepped i q ret k).procs i).Alike
    (((s.procs i).after s q ret).resume (k ⟨ret, s.bytesRead i q ret⟩)) := by
  rw [stepped]
  have h := @effect_procs (s.setProc i (((s.procs i).after s q ret).resume
    (k ⟨ret, s.bytesRead i q ret⟩))) i i q ret
  rwa [setProc_self] at h

/-- The other processes get signals at most. -/
lemma stepped_other (hj : j ≠ i) : ((s.stepped i q ret k).procs j).Alike (s.procs j) := by
  have h := @effect_procs (s.setProc i (((s.procs i).after s q ret).resume
    (k ⟨ret, s.bytesRead i q ret⟩))) i j q ret
  rwa [setProc_of_ne hj] at h

/-- A step is a fork, or has no child. -/
lemma step_cases (code : (s.procs i).code.run = .ask q k) (ret : Int) :
    s.step i ret = s.stepped i q ret k ∨
      (q = .fork ∧ ret ≠ -1) ∧ s.step i ret =
        (s.stepped i q ret k).spawn (((s.procs i).child ret).resume (k ⟨0, []⟩)) := by
  unfold step
  rw [code]
  dsimp only
  split
  next h => exact .inr ⟨h, rfl⟩
  next => exact .inl rfl

/-- Process `i` is what the step makes of it. -/
lemma step_self (hi : i < s.count) (code : (s.procs i).code.run = .ask q k) (ret : Int) :
    ((s.step i ret).procs i).Alike
      (((s.procs i).after s q ret).resume (k ⟨ret, s.bytesRead i q ret⟩)) := by
  obtain e | ⟨_, e⟩ := step_cases code ret
  · rw [e]
    exact stepped_self
  · rw [e, spawn_old (by rwa [stepped_count])]
    exact stepped_self

/-- A step of process `i` does nothing to the others. -/
lemma step_frame (code : (s.procs i).code.run = .ask q k) (ret : Int) :
    Frame s (s.step i ret) i := by
  obtain e | ⟨_, e⟩ := step_cases code ret
  · rw [e]
    constructor
    · exact Nat.le_of_eq stepped_count.symm
    · intro j _ hj
      exact stepped_other hj
    · intro j h h'
      rw [stepped_count] at h'
      exact absurd h' (Nat.not_lt_of_le h)
  · rw [e]
    constructor
    · exact Nat.le_succ_of_le (Nat.le_of_eq stepped_count.symm)
    · intro j h hj
      rw [spawn_old (by rwa [stepped_count])]
      exact stepped_other hj
    · intro j h h'
      rw [spawn_new (by rwa [stepped_count]) h']
      rfl

/-- What a step leaves at the path. -/
lemma step_path (code : (s.procs i).code.run = .ask q k) (ret : Int) :
    (s.step i ret).path = (s.effect i q ret).path ∧
      (s.step i ret).fileCount = (s.effect i q ret).fileCount := by
  have stepped : (s.stepped i q ret k).path = (s.effect i q ret).path ∧
      (s.stepped i q ret k).fileCount = (s.effect i q ret).fileCount := by
    unfold stepped effect
    split
    next => exact ⟨rfl, rfl⟩
    cases q with
    | _ => exact ⟨rfl, rfl⟩
  obtain e | ⟨_, e⟩ := step_cases code ret
  · rw [e]
    exact stepped
  · rw [e]
    exact stepped

end Host

/-- What the process has done, as far as the protocol is concerned. -/
def Proc.mode (p : Proc) : Mode :=
  ⟨p.runningAsDaemon, decide (p.handling ≠ []), p.created.isSome, p.removed⟩

/-- The process keeps to the protocol, and what it remembers is in accord with it. -/
structure Proc.Sound (p : Proc) : Prop where
  disciplined : p.running = true → Disciplined p.code p.mode
  gotLock : p.gotLock = true → p.created ≠ none
  daemon : p.created ≠ none → p.runningAsDaemon = true
  removed : p.created ≠ none → p.removed = true → p.handling ≠ []

namespace Proc
variable {p p' : Proc}

/-- The signals that wait are no part of the invariant. -/
lemma Sound.of_alike (h : p'.Sound) (alike : p.Alike p') : p.Sound :=
  alike.transport (fun _ _ h => ⟨h.disciplined, h.gotLock, h.daemon, h.removed⟩) h

/-- A command starts sound. -/
lemma fresh_sound {pid : Int} {pidString : CString} {runOptions : tRunOptions} :
    (fresh pid (main pidString runOptions)).Sound where
  disciplined _ := main_disciplined
  gotLock := nofun
  daemon h := absurd rfl h
  removed h := absurd rfl h

/-- A process may be interrupted at any point. -/
lemma Sound.interrupt (h : p.Sound) {sig : Signal} : (p.interrupt sig).Sound where
  disciplined _ := handleSignal_disciplined (m := (p.interrupt sig).mode) rfl
  gotLock := h.gotLock
  daemon := h.daemon
  removed _ _ := nofun

variable {q : Sys} {k : Ans → Prog Sys Ans (Option Unit)}

/-- The next step is allowed, and the rest goes on from there. -/
lemma Sound.next (h : p.Sound) (running : p.running = true) (code : p.code.run = .ask q k) :
    lockProtocol.allowed p.mode q ∧
      ∀ a, Disciplined (.mk (k a) : Program Unit) (lockProtocol.next p.mode q a) := by
  have d := h.disciplined running
  rw [Disciplined, Stoppable.Obeys, code] at d
  exact d

/-- The protocol follows what a step does to the process that makes it. -/
lemma mode_after {s : Host} {ret : Int} {bytes rest} (parent : q = .fork → ret ≠ 0) :
    ((p.after s q ret).resume rest).mode = lockProtocol.next p.mode q ⟨ret, bytes⟩ := by
  cases q with
  | fork =>
    show p.mode = if ret = 0 then _ else p.mode
    rw [if_neg (parent rfl)]
  | openExcl =>
    by_cases h : ret = -1
    · simp [after, resume, mode, lockProtocol, h]
    · simp [after, resume, mode, lockProtocol, h]
  | _ => rfl

/-- A step of a sound process leaves it sound. -/
lemma Sound.after (h : p.Sound) (running : p.running = true) (code : p.code.run = .ask q k)
    {s : Host} {ret : Int} {bytes : CString} (parent : q = .fork → ret ≠ 0) :
    ((p.after s q ret).resume (k ⟨ret, bytes⟩)).Sound := by
  obtain ⟨allowed, rest⟩ := h.next running code
  have disciplined : Disciplined (.mk (k ⟨ret, bytes⟩) : Program Unit)
      ((p.after s q ret).resume (k ⟨ret, bytes⟩)).mode := by
    rw [@mode_after p q s ret bytes _ parent]
    exact rest _
  cases q with
  | setRunningAsDaemon =>
    exact ⟨fun _ => disciplined, h.gotLock, fun _ => rfl, h.removed⟩
  | openExcl =>
    obtain ⟨daemon, _, removed⟩ := allowed
    by_cases failed : ret = -1
    · have e : p.after s .openExcl ret = { p with lockFile := none } := if_pos failed
      rw [e] at disciplined ⊢
      exact ⟨fun _ => disciplined, h.gotLock, h.daemon, h.removed⟩
    · have e : p.after s .openExcl ret =
          { p with lockFile := some s.fileCount, created := some s.fileCount } := if_neg failed
      rw [e] at disciplined ⊢
      refine ⟨fun _ => disciplined, fun _ => nofun, fun _ => daemon, fun _ again => ?_⟩
      exact absurd (removed.symm.trans again) Bool.false_ne_true
  | gotLock =>
    refine ⟨fun _ => disciplined, fun _ => ?_, h.daemon, h.removed⟩
    exact Option.isSome_iff_ne_none.1 allowed
  | remove =>
    refine ⟨fun _ => disciplined, h.gotLock, h.daemon, fun created _ => ?_⟩
    exact of_decide_eq_true (allowed (Option.isSome_iff_ne_none.2 created))
  | _ => exact ⟨fun _ => disciplined, h.gotLock, h.daemon, h.removed⟩

/-- The child of a fork starts sound. -/
lemma Sound.child (h : p.Sound) (running : p.running = true) (code : p.code.run = .ask .fork k)
    {pid : Int} : ((p.child pid).resume (k ⟨0, []⟩)).Sound where
  disciplined _ := (h.next running code).2 ⟨0, []⟩
  gotLock := nofun
  daemon h := absurd rfl h
  removed h := absurd rfl h

end Proc

namespace Host

/-- All processes are sound. -/
def Sound (s : Host) : Prop := ∀ j < s.count, (s.procs j).Sound

/-- A process that asks has a question as the next step of its program. -/
lemma asks_code {p : Proc} {q : Sys} (h : q ∈ p.asks) : ∃ k, p.code.run = .ask q k := by
  unfold Proc.asks at h
  split at h
  next q' k code =>
    cases h
    exact ⟨k, code⟩
  next => cases h

/-- A sound process is started. -/
lemma Sound.spawn {s : Host} {p : Proc} (h : s.Sound) (new : p.Sound) : (s.spawn p).Sound := by
  intro j hj
  by_cases old : j < s.count
  · rw [spawn_old old]
    exact h j old
  · rw [spawn_new (Nat.le_of_not_lt old) hj]
    exact new

/-- A process goes on soundly. -/
lemma Sound.setProc {s : Host} {i : Nat} {p : Proc} (h : s.Sound) (new : p.Sound) :
    (s.setProc i p).Sound := by
  intro j hj
  by_cases e : j = i
  · subst e
    rw [setProc_self]
    exact new
  · rw [setProc_of_ne e]
    exact h j hj

/-- Whatever happens next, all processes stay sound. -/
theorem Sound.next {s : Host} (h : s.Sound) {a : Action} (enabled : s.Enabled a) :
    (s.next a).Sound := by
  cases a with
  | command runOptions pid pidString =>
    exact h.spawn Proc.fresh_sound
  | call i ret =>
    obtain ⟨hi, running, q, asks, admits⟩ := enabled
    obtain ⟨k, code⟩ := asks_code asks
    have parent : q = .fork → ret ≠ 0 := by
      rintro rfl
      rcases admits with rfl | unused
      · decide
      · exact Int.ne_of_gt unused.1
    have stepped : (s.stepped i q ret k).Sound := by
      intro j hj
      rw [stepped_count] at hj
      by_cases e : j = i
      · subst e
        exact ((h j hj).after running code parent).of_alike stepped_self
      · exact (h j hj).of_alike (stepped_other e)
    show (s.step i ret).Sound
    obtain e | ⟨⟨rfl, _⟩, e⟩ := step_cases code ret
    · rw [e]
      exact stepped
    · rw [e]
      exact stepped.spawn ((h i hi).child running code)
  | send i sig =>
    exact h.setProc ((h i enabled.1).of_alike Proc.receive_alike)
  | handle i sig =>
    exact h.setProc (h i enabled.1).interrupt

/-- At first there is no process. -/
lemma init_sound : init.Sound := nofun

end Host
end TagEventor
