import TagEventor.Daemon.Host

/-!
# The lock file over all interleavings

What a step of a host can do to the lock file is said once (`LockMove`): it creates the file, calls
`remove`, ends a process, or does none of these. Two properties of all runs follow, each with the
steps that break it: at most one process that has returned from `getLockOrDie` is running
(`OneDaemon`), and no lock file stays behind when no process is running (`NoStaleLock`).
-/

namespace TagEventor
open Machine

variable {s s' : Host} {i j : Nat} {ret : Int} {a : Action}

/-- The two states of a process differ in nothing that the lock file depends on. -/
structure Proc.Remembers (p p' : Proc) : Prop where
  running : p'.running = p.running
  created : p'.created = p.created
  removed : p'.removed = p.removed

/-- A process that only has other signals remembers. -/
lemma Proc.Alike.remembers {p p' : Proc} (h : p'.Alike p) : p.Remembers p' :=
  ⟨h.running, h.created, h.removed⟩

/-- Only the acting process has done something with the lock file. -/
structure Changes (s s' : Host) (acting : Nat → Prop) : Prop where
  count : s.count ≤ s'.count
  old : ∀ j < s.count, ¬ acting j → (s.procs j).Remembers (s'.procs j)
  new : ∀ j, s.count ≤ j → j < s'.count → (s'.procs j).created = none

/-- What a step can do to the lock file. -/
inductive LockMove (s : Host) : Action → Host → Prop where
  | keeps {a : Action} {s' : Host} (changes : Changes s s' fun _ => False)
      (path : s'.path = s.path) (fileCount : s'.fileCount = s.fileCount) : LockMove s a s'
  | create {i : Nat} {ret : Int} {s' : Host} (hi : i < s.count)
      (running : (s.procs i).running = true)
      (asks : (s.procs i).asks = some .openExcl) (created : ret ≠ -1) (free : s.path = none)
      (changes : Changes s s' (· = i))
      (self : (s'.procs i).running = true ∧ (s'.procs i).created = some s.fileCount ∧
        (s'.procs i).removed = (s.procs i).removed)
      (path : s'.path = some s.fileCount) (fileCount : s'.fileCount = s.fileCount + 1) :
      LockMove s (.call i ret) s'
  | remove {i : Nat} {ret : Int} {s' : Host} (hi : i < s.count)
      (running : (s.procs i).running = true)
      (asks : (s.procs i).asks = some .remove) (changes : Changes s s' (· = i))
      (self : (s'.procs i).running = true ∧ (s'.procs i).created = (s.procs i).created ∧
        (s'.procs i).removed = true)
      (path : s'.path = if ret = -1 then s.path else none)
      (fileCount : s'.fileCount = s.fileCount) : LockMove s (.call i ret) s'
  | exit {i : Nat} {ret : Int} {s' : Host} {status : Int} (hi : i < s.count)
      (running : (s.procs i).running = true)
      (asks : (s.procs i).asks = some (.exit status)) (changes : Changes s s' (· = i))
      (self : (s'.procs i).running = false ∧ (s'.procs i).created = (s.procs i).created)
      (path : s'.path = s.path) (fileCount : s'.fileCount = s.fileCount) :
      LockMove s (.call i ret) s'

/-- What a step leaves alone. -/
lemma Host.Frame.changes (h : Host.Frame s s' i) : Changes s s' (· = i) :=
  ⟨h.count, fun j hj ne => (h.old j hj ne).remembers, h.new⟩

/-- A step that leaves the acting process as it is, too. -/
lemma Changes.keeps (h : Changes s s' (· = i)) (self : (s.procs i).Remembers (s'.procs i)) :
    Changes s s' fun _ => False where
  count := h.count
  old j hj _ := by
    by_cases e : j = i
    · subst e
      exact self
    · exact h.old j hj e
  new := h.new

/-- A process goes on without the lock file. -/
lemma setProc_keeps {p : Proc} (self : (s.procs i).Remembers p) :
    Changes s (s.setProc i p) fun _ => False where
  count := Nat.le_refl _
  old j _ _ := by
    by_cases e : j = i
    · subst e
      rw [Host.setProc_self]
      exact self
    · rw [Host.setProc_of_ne e]
      exact ⟨rfl, rfl, rfl⟩
  new _ h h' := absurd h' (Nat.not_lt_of_le h)

/-- A process is started that has no lock file. -/
lemma spawn_keeps {p : Proc} (new : p.created = none) :
    Changes s (s.spawn p) fun _ => False where
  count := Nat.le_succ _
  old j hj _ := by
    rw [Host.spawn_old hj]
    exact ⟨rfl, rfl, rfl⟩
  new j h h' := by
    rw [Host.spawn_new h h']
    exact new

/-- The next step of a program is what the process asks. -/
lemma asks_of_code {p : Proc} {q k} (code : p.code.run = .ask q k) : p.asks = some q := by
  unfold Proc.asks
  rw [code]

/-- Every step is one of the moves. -/
theorem next_lockMove (enabled : s.Enabled a) : LockMove s a (s.next a) := by
  cases a with
  | command runOptions pid pidString =>
    exact .keeps (spawn_keeps rfl) rfl rfl
  | send i sig =>
    exact .keeps (setProc_keeps Proc.receive_alike.remembers) rfl rfl
  | handle i sig =>
    exact .keeps (setProc_keeps ⟨rfl, rfl, rfl⟩) rfl rfl
  | call i ret =>
    obtain ⟨hi, running, q, asks, admits⟩ := enabled
    obtain ⟨k, code⟩ := Host.asks_code asks
    have changes := (Host.step_frame code ret).changes
    have self := (Host.step_self hi code ret).remembers
    obtain ⟨path, fileCount⟩ := Host.step_path code ret
    show LockMove s (.call i ret) (s.step i ret)
    generalize s.step i ret = s' at changes self path fileCount
    cases q with
    | openExcl =>
      by_cases failed : ret = -1
      · have e : (s.procs i).after s .openExcl ret = { s.procs i with lockFile := none } :=
          if_pos failed
        rw [Host.effect, if_pos failed] at path fileCount
        rw [e] at self
        exact .keeps (changes.keeps ⟨self.running, self.created, self.removed⟩) path fileCount
      · have e : (s.procs i).after s .openExcl ret =
            { s.procs i with lockFile := some s.fileCount, created := some s.fileCount } :=
          if_neg failed
        rw [Host.effect, if_neg failed] at path fileCount
        rw [e] at self
        have free : s.path = none := (admits.resolve_left failed).2.2
        exact .create hi running (asks_of_code code) failed free changes
          ⟨self.running.trans running, self.created, self.removed⟩ path fileCount
    | remove =>
      have path' : s'.path = if ret = -1 then s.path else none := by
        rw [path, Host.effect]
        split
        next => rfl
        next => rfl
      exact .remove hi running (asks_of_code code) changes
        ⟨self.running.trans running, self.created, self.removed⟩ path'
        (fileCount.trans (Host.effect_fileCount nofun))
    | exit status =>
      exact .exit hi running (asks_of_code code) changes ⟨self.running, self.created⟩
        (path.trans (Host.effect_path nofun nofun)) (fileCount.trans (Host.effect_fileCount nofun))
    | _ =>
      exact .keeps (changes.keeps ⟨self.running, self.created, self.removed⟩)
        (path.trans (Host.effect_path nofun nofun)) (fileCount.trans (Host.effect_fileCount nofun))

/-- At most one process that has returned from `getLockOrDie` is still running. -/
def OneDaemon (s : Host) : Prop :=
  ∀ i < s.count, ∀ j < s.count, (s.procs i).running = true → (s.procs i).gotLock = true →
    (s.procs j).running = true → (s.procs j).gotLock = true → i = j

/-- The lock file is removed only while no other process that passed the `open` is running, and
created only while none is running that has called `remove`. -/
def Host.Alone (s : Host) : Action → Prop
  | .call i ret => ret ≠ -1 →
    ((s.procs i).asks = some .remove → ∀ j < s.count, j ≠ i → ¬(s.procs j).Passed) ∧
    ((s.procs i).asks = some .openExcl →
      ∀ j < s.count, (s.procs j).Passed → (s.procs j).removed = false)
  | _ => True

instance : ∀ a, Decidable (s.Alone a)
  | .command .. => .isTrue trivial
  | .call .. => inferInstanceAs (Decidable (_ → _ ∧ _))
  | .send .. => .isTrue trivial
  | .handle .. => .isTrue trivial

/-- One process at most has passed the `open`, and its file is there until it calls `remove`. -/
structure OneHolder (s : Host) : Prop where
  unique : ∀ i < s.count, ∀ j < s.count, (s.procs i).Passed → (s.procs j).Passed → i = j
  present : ∀ i < s.count, (s.procs i).Passed → (s.procs i).removed = false → s.path ≠ none

/-- A process that remembers has got as far. -/
lemma Proc.Remembers.passed {p p' : Proc} (h : p.Remembers p') (passed : p'.Passed) : p.Passed := by
  unfold Proc.Passed at passed ⊢
  rwa [h.running, h.created] at passed

/-- A process that has passed the `open` is the acting one, or did so before. -/
lemma Changes.passed {acting : Nat → Prop} (h : Changes s s' acting) (hj : j < s'.count)
    (passed : (s'.procs j).Passed) :
    acting j ∨ ¬ acting j ∧ j < s.count ∧ (s.procs j).Remembers (s'.procs j) ∧
      (s.procs j).Passed := by
  by_cases e : acting j
  · exact .inl e
  by_cases old : j < s.count
  · have remembers := h.old j old e
    exact .inr ⟨e, old, remembers, remembers.passed passed⟩
  · exact absurd (h.new j (Nat.le_of_not_lt old) hj) passed.2

/-- If nobody passes the `open`, there is still at most one that has passed it. -/
lemma OneHolder.unique_of_changes {acting : Nat → Prop} (h : OneHolder s)
    (changes : Changes s s' acting)
    (self : ∀ i, acting i → (s'.procs i).Passed → i < s.count ∧ (s.procs i).Passed) :
    ∀ j < s'.count, ∀ k < s'.count, (s'.procs j).Passed → (s'.procs k).Passed → j = k := by
  have old : ∀ j < s'.count, (s'.procs j).Passed → j < s.count ∧ (s.procs j).Passed := by
    intro j hj passed
    obtain acts | ⟨_, old, _, passed⟩ := changes.passed hj passed
    · exact self j acts passed
    · exact ⟨old, passed⟩
  intro j hj k hk passed passed'
  exact h.unique j (old j hj passed).1 k (old k hk passed').1 (old j hj passed).2
    (old k hk passed').2

/-- A step that meets the condition leaves at most one holder. -/
lemma OneHolder.next (h : OneHolder s) (enabled : s.Enabled a) (alone : s.Alone a) :
    OneHolder (s.next a) := by
  have move := next_lockMove enabled
  generalize s.next a = s' at move
  cases move with
  | keeps changes path =>
    constructor
    · exact h.unique_of_changes changes nofun
    · intro j hj passed there
      obtain nobody | ⟨_, old, remembers, passed⟩ := changes.passed hj passed
      · exact nobody.elim
      rw [path]
      exact h.present j old passed (remembers.removed ▸ there)
  | @create i ret s' hi running asks created free changes self path fileCount =>
    -- the path was free, so nobody held the file
    have nobody : ∀ j < s.count, ¬(s.procs j).Passed := by
      intro j hj passed
      exact h.present j hj passed ((alone created).2 asks j hj passed) free
    have acting : ∀ j < s'.count, (s'.procs j).Passed → j = i := by
      intro j hj passed
      obtain e | ⟨_, old, _, passed⟩ := changes.passed hj passed
      · exact e
      · exact absurd passed (nobody j old)
    constructor
    · intro j hj k hk passed passed'
      rw [acting j hj passed, acting k hk passed']
    · intro _ _ _ _
      rw [path]
      nofun
  | @remove i ret s' hi running asks changes self path fileCount =>
    constructor
    · apply h.unique_of_changes changes
      rintro i rfl passed
      exact ⟨hi, running, self.2.1 ▸ passed.2⟩
    · intro j hj passed there
      obtain rfl | ⟨ne, old, remembers, passed⟩ := changes.passed hj passed
      · exact nomatch self.2.2.symm.trans there
      rw [path]
      split
      next => exact h.present j old passed (remembers.removed ▸ there)
      next succeeded => exact absurd passed ((alone succeeded).1 asks j old ne)
  | @exit i ret s' status hi running asks changes self path fileCount =>
    have ended : ¬(s'.procs i).Passed := by
      intro passed
      exact absurd (self.1.symm.trans passed.1) Bool.false_ne_true
    constructor
    · apply h.unique_of_changes changes
      rintro i rfl passed
      exact absurd passed ended
    · intro j hj passed there
      obtain rfl | ⟨ne, old, remembers, passed⟩ := changes.passed hj passed
      · exact absurd passed ended
      rw [path]
      exact h.present j old passed (remembers.removed ▸ there)

/-- In every run in which the lock file is removed only while no other process that passed the
`open` is running, and created only while none is running that has called `remove`, there is at most
one daemon. -/
theorem oneDaemon_of_run {actions : List Action}
    (h : Meets Host.next (fun s a => s.Enabled a ∧ s.Alone a) .init actions) :
    OneDaemon (actions.foldl Host.next .init) := by
  have inv : (actions.foldl Host.next .init).Sound ∧ OneHolder (actions.foldl Host.next .init) := by
    refine h.inv (I := fun s => s.Sound ∧ OneHolder s) ?_ ⟨Host.init_sound, nofun, nofun⟩
    rintro s a ⟨sound, holder⟩ ⟨enabled, alone⟩
    exact ⟨sound.next enabled, holder.next enabled alone⟩
  obtain ⟨sound, holder⟩ := inv
  intro i hi j hj running got running' got'
  exact holder.unique i hi j hj ⟨running, (sound i hi).gotLock got⟩
    ⟨running', (sound j hj).gotLock got'⟩

/-- A start command that runs as process `i` until its child, process `i + 1`, has the lock. -/
def starts (i : Nat) (pid : Int) : List Action :=
  [.command .START_DAEMON pid [], .call i (pid + 1), .call i 0] ++
    [0, 0, 0, 0, 3, 0, pid + 1, (sprintfInt (pid + 1)).length + 1, 0].map (.call (i + 1))

/-- Process `i` is sent a signal, and its handler runs to the end. -/
def terminates (i : Nat) : List Action :=
  [.send i .SIGTERM, .handle i .SIGTERM] ++ [0, 0, 0, 0].map (.call i)

/-- A stop command that runs as process `i` and whose `kill` fails, up to the `remove`. -/
def stops (i : Nat) (pid : Int) : List Action :=
  .command .STOP_DAEMON pid [] :: [0, 3, 2, 0, -1, 0, 0].map (.call i)

/-- One daemon after the other. -/
theorem oneDaemon_restart :
    OneDaemon ((starts 0 1 ++ terminates 1 ++ starts 2 3).foldl Host.next .init) :=
  oneDaemon_of_run (by decide +kernel)

/-- The stop command cannot signal the daemon, but removes its lock file. -/
theorem twoDaemons_unstopped :
    Meets Host.next Host.Enabled .init (starts 0 1 ++ stops 2 3 ++ starts 3 4) ∧
      ¬ OneDaemon ((starts 0 1 ++ stops 2 3 ++ starts 3 4).foldl Host.next .init) := by
  refine ⟨by decide +kernel, fun one => ?_⟩
  have h := one 1 (by decide +kernel) 4 (by decide +kernel)
  exact absurd (h (by decide +kernel) (by decide +kernel) (by decide +kernel) (by decide +kernel))
    (by decide)

/-- When no process is running, there is no lock file. -/
def NoStaleLock (s : Host) : Prop :=
  (∀ i < s.count, (s.procs i).running = false) → s.path = none

/-- The file at the path is the one process `i` created. -/
def Host.Owns (s : Host) (i : Nat) : Prop :=
  (s.procs i).created ≠ none ∧ (s.procs i).created = s.path

instance : Decidable (s.Owns i) := inferInstanceAs (Decidable (_ ∧ _))

/-- The next step of the process ends it. -/
def Proc.exits (p : Proc) : Bool := p.asks matches some (.exit _)

/-- Outside of the handler a process exits only when the file it created is not at the path, and in
the handler its `remove` fails only then. -/
def Host.CleansUp (s : Host) : Action → Prop
  | .call i ret =>
    ((s.procs i).exits = true → (s.procs i).handling = [] → ¬ s.Owns i) ∧
    ((s.procs i).asks = some .remove → (s.procs i).handling ≠ [] → ret = -1 → ¬ s.Owns i)
  | _ => True

instance : ∀ a, Decidable (s.CleansUp a)
  | .command .. => .isTrue trivial
  | .call .. => inferInstanceAs (Decidable (_ ∧ _))
  | .send .. => .isTrue trivial
  | .handle .. => .isTrue trivial

/-- A lock file has an owner, a running process which has not called `remove`. -/
structure Owned (s : Host) : Prop where
  owner : s.path ≠ none → ∃ i < s.count, (s.procs i).running = true ∧ s.Owns i
  gone : ∀ i < s.count, (s.procs i).running = true → (s.procs i).removed = true → ¬ s.Owns i
  created : ∀ i < s.count, ∀ file, (s.procs i).created = some file → file < s.fileCount

/-- A process that remembers owns the same file. -/
lemma Proc.Remembers.owns (h : (s.procs j).Remembers (s'.procs j)) (path : s'.path = s.path) :
    s'.Owns j ↔ s.Owns j := by
  unfold Host.Owns
  rw [h.created, path]

section
variable {acting : Nat → Prop}

/-- A file that stays at the path keeps its owner, unless it was the acting process. -/
lemma Owned.owner_of_changes (h : Owned s) (changes : Changes s s' acting)
    (path : s'.path = s.path)
    (self : ∀ i, acting i → s.Owns i →
      (s'.procs i).running = true ∧ (s'.procs i).created = (s.procs i).created) :
    s'.path ≠ none → ∃ j < s'.count, (s'.procs j).running = true ∧ s'.Owns j := by
  intro there
  rw [path] at there
  obtain ⟨j, hj, running, owns⟩ := h.owner there
  refine ⟨j, Nat.lt_of_lt_of_le hj changes.count, ?_⟩
  by_cases acts : acting j
  · obtain ⟨running, created⟩ := self j acts owns
    refine ⟨running, ?_⟩
    rw [Host.Owns, created, path]
    exact owns
  · have remembers := changes.old j hj acts
    exact ⟨remembers.running.trans running, (remembers.owns path).2 owns⟩

/-- Who has called `remove` does not own the file at the path, if this holds of the acting
process. -/
lemma Owned.gone_of_changes (h : Owned s) (changes : Changes s s' acting) (path : s'.path = s.path)
    (self : ∀ i, acting i → (s'.procs i).running = true → (s'.procs i).removed = true →
      ¬ s'.Owns i) :
    ∀ j < s'.count, (s'.procs j).running = true → (s'.procs j).removed = true → ¬ s'.Owns j := by
  intro j hj running removed
  by_cases acts : acting j
  · exact self j acts running removed
  by_cases old : j < s.count
  · have remembers := changes.old j old acts
    rw [remembers.owns path]
    exact h.gone j old (remembers.running ▸ running) (remembers.removed ▸ removed)
  · intro owns
    exact owns.1 (changes.new j (Nat.le_of_not_lt old) hj)

/-- The files are numbered as they are created. -/
lemma Owned.created_of_changes (h : Owned s) (changes : Changes s s' acting)
    (fileCount : s.fileCount ≤ s'.fileCount)
    (self : ∀ i, acting i → ∀ file, (s'.procs i).created = some file → file < s'.fileCount) :
    ∀ j < s'.count, ∀ file, (s'.procs j).created = some file → file < s'.fileCount := by
  intro j hj file e
  by_cases acts : acting j
  · exact self j acts file e
  by_cases old : j < s.count
  · rw [(changes.old j old acts).created] at e
    exact Nat.lt_of_lt_of_le (h.created j old file e) fileCount
  · rw [changes.new j (Nat.le_of_not_lt old) hj] at e
    cases e

end

/-- A process that is about to make a step is allowed to make it. -/
lemma Host.Sound.allowed (sound : s.Sound) (hi : i < s.count)
    (running : (s.procs i).running = true) {q : Sys} (asks : (s.procs i).asks = some q) :
    lockProtocol.allowed (s.procs i).mode q := by
  obtain ⟨k, code⟩ := Host.asks_code asks
  exact ((sound i hi).next running code).1

/-- Whoever exits does not own the file at the path: a handler has called `remove` before. -/
lemma Owned.not_owns_of_exit (h : Owned s) (sound : s.Sound) (cleans : s.CleansUp (.call i ret))
    (hi : i < s.count) (running : (s.procs i).running = true) {status : Int}
    (asks : (s.procs i).asks = some (.exit status)) : ¬ s.Owns i := by
  intro owns
  by_cases handling : (s.procs i).handling = []
  · refine cleans.1 ?_ handling owns
    unfold Proc.exits
    rw [asks]
  · have removed := sound.allowed hi running asks (decide_eq_true handling)
      ((sound i hi).daemon owns.1)
    exact h.gone i hi running removed owns

/-- Whoever fails to remove the file does not own it: only a handler removes a file of its own. -/
lemma Host.CleansUp.not_owns_of_failed (cleans : s.CleansUp (.call i ret)) (sound : s.Sound)
    (hi : i < s.count) (running : (s.procs i).running = true)
    (asks : (s.procs i).asks = some .remove) (failed : ret = -1) : ¬ s.Owns i := by
  intro owns
  have handling : (s.procs i).handling ≠ [] :=
    of_decide_eq_true (sound.allowed hi running asks (Option.isSome_iff_ne_none.2 owns.1))
  exact cleans.2 asks handling failed owns

/-- A step that meets the condition leaves an owner to every lock file. -/
lemma Owned.next (h : Owned s) (sound : s.Sound) (enabled : s.Enabled a) (cleans : s.CleansUp a) :
    Owned (s.next a) := by
  have move := next_lockMove enabled
  generalize s.next a = s' at move
  cases move with
  | keeps changes path fileCount =>
    constructor
    · exact h.owner_of_changes changes path nofun
    · exact h.gone_of_changes changes path nofun
    · exact h.created_of_changes changes (Nat.le_of_eq fileCount.symm) nofun
  | @create i ret s' hi running asks created free changes self path fileCount =>
    constructor
    · intro _
      refine ⟨i, Nat.lt_of_lt_of_le hi changes.count, self.1, ?_, ?_⟩
      · rw [self.2.1]
        nofun
      · rw [self.2.1, path]
    · intro j hj running' removed owns
      by_cases acting : j = i
      · subst acting
        have allowed := (sound.allowed hi running asks).2.2
        rw [self.2.2] at removed
        exact nomatch removed.symm.trans allowed
      by_cases old : j < s.count
      · have e := owns.2
        rw [(changes.old j old acting).created, path] at e
        exact absurd (h.created j old _ e) (Nat.lt_irrefl _)
      · exact owns.1 (changes.new j (Nat.le_of_not_lt old) hj)
    · apply h.created_of_changes changes
      · rw [fileCount]
        exact Nat.le_succ _
      · rintro i rfl file e
        rw [self.2.1] at e
        cases e
        rw [fileCount]
        exact Nat.lt_succ_self _
  | @remove i ret s' hi running asks changes self path fileCount =>
    have created : ∀ j, j = i → ∀ file, (s'.procs j).created = some file →
        file < s'.fileCount := by
      rintro i rfl file e
      rw [fileCount]
      exact h.created i hi file (self.2.1 ▸ e)
    by_cases failed : ret = -1
    · rw [if_pos failed] at path
      constructor
      · apply h.owner_of_changes changes path
        rintro i rfl _
        exact ⟨self.1, self.2.1⟩
      · apply h.gone_of_changes changes path
        rintro i rfl _ _ owns
        rw [Host.Owns, self.2.1, path] at owns
        exact cleans.not_owns_of_failed sound hi running asks failed owns
      · exact h.created_of_changes changes (Nat.le_of_eq fileCount.symm) created
    · rw [if_neg failed] at path
      constructor
      · intro there
        exact absurd path there
      · intro j _ _ _ owns
        exact owns.1 (owns.2.trans path)
      · exact h.created_of_changes changes (Nat.le_of_eq fileCount.symm) created
  | @exit i ret s' status hi running asks changes self path fileCount =>
    constructor
    · apply h.owner_of_changes changes path
      rintro i rfl owns
      exact absurd owns (h.not_owns_of_exit sound cleans hi running asks)
    · apply h.gone_of_changes changes path
      rintro i rfl running'
      exact nomatch running'.symm.trans self.1
    · apply h.created_of_changes changes (Nat.le_of_eq fileCount.symm)
      rintro i rfl file e
      rw [fileCount]
      exact h.created i hi file (self.2 ▸ e)

/-- In every run in which a process that created the lock file exits outside of its handler only
when the file is not at the path any more, and the `remove` of a handler fails only then, no lock
file stays behind. -/
theorem noStaleLock_of_run {actions : List Action}
    (h : Meets Host.next (fun s a => s.Enabled a ∧ s.CleansUp a) .init actions) :
    NoStaleLock (actions.foldl Host.next .init) := by
  have inv : (actions.foldl Host.next .init).Sound ∧ Owned (actions.foldl Host.next .init) := by
    refine h.inv (I := fun s => s.Sound ∧ Owned s) ?_ ⟨Host.init_sound, nofun, nofun, nofun⟩
    rintro s a ⟨sound, owned⟩ ⟨enabled, cleans⟩
    exact ⟨sound.next enabled, owned.next sound enabled cleans⟩
  intro ended
  by_contra there
  obtain ⟨i, hi, running, _⟩ := inv.2.owner there
  exact nomatch running.symm.trans (ended i hi)

/-- The daemon is ended by a signal. -/
theorem noStaleLock_terminated :
    NoStaleLock ((starts 0 1 ++ terminates 1).foldl Host.next .init) :=
  noStaleLock_of_run (by decide +kernel)

/-- The rest of `main` after process `i` has the lock. -/
def returns (i : Nat) : List Action := [0, 0, 0].map (.call i)

/-- The daemon returns from `main`, and leaves the lock file behind. -/
theorem staleLock_started :
    Meets Host.next Host.Enabled .init (starts 0 1 ++ returns 1) ∧
      ¬ NoStaleLock ((starts 0 1 ++ returns 1).foldl Host.next .init) := by
  refine ⟨by decide +kernel, fun noStale => ?_⟩
  exact absurd (noStale (by decide +kernel)) (by decide +kernel)

end TagEventor
