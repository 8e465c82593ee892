import TagEventor.Lib.Interact
import TagEventor.Rules.AsList

/-!
# The scripts of tag events

`rulesTableEventDispatch` tries the rules of the table from the last one down. `Tried` is what it
does on the list of rules that the table represents; from this follows which script is started for
a tag event (`dispatch_last_usable`).
-/

namespace TagEventor
open Interact

/-- What a child does: `execl( path, argv0, tagUID, eventTypeString, NULL )`, and `exit`. -/
structure Execl where
  path : CString
  argv0 : CString
  tagUID : CString
  eventTypeString : CString
deriving DecidableEq

/-- The system calls of the dispatch. For `fork` the value is that in the parent. -/
inductive HostCall where
  | stat (path : CString)
  | fork (child : Execl)
deriving DecidableEq

/-- A part of the dispatch, by what it asks of the host. -/
abbrev DispatchProg := Prog HostCall Int

/-- A child is started for the script, if there is one. -/
def execScriptInChild (folderName fileName argv0 tagUID eventTypeString : CString) :
    DispatchProg Bool :=
  let scriptPath := folderName ++ '/' :: fileName
  .ask (.stat scriptPath) fun sts =>
    -- no script found that matches
    if sts = -1 then .ret false
    else
      .ask (.fork ⟨scriptPath, argv0, tagUID, eventTypeString⟩) fun pid =>
        if pid < 0 then .ret false else .ret true

/-- The first `switch` of `rulesTableEventDispatch`. -/
def scriptName (scriptMatchType : Int) (uid : CString) : Option CString :=
  if scriptMatchType = TAG_ID_MATCH then some uid
  else if scriptMatchType = GENERIC_MATCH then some "generic".toList
  else none

/-- The second `switch` of `rulesTableEventDispatch`. -/
def eventTypeString : tEventType → Option CString
  | .TAG_IN => some "IN".toList
  | .TAG_OUT => some "OUT".toList
  | _ => none

/-- The loop of `rulesTableEventDispatch`, for the entries below an index. -/
def dispatchBelow (t : RulesTable) (eventType : tEventType) (pTag : tTag) :
    Nat → DispatchProg (Except Fault Bool)
  | 0 => .ret (.ok false)
  | ruleIndex + 1 =>
    match t.entry t.tagEntryArray ruleIndex with
    | .error fault => .ret (.error fault)
    | .ok e =>
      if e.enabled ≠ 0 then
        match scriptName e.scriptMatchType pTag.uid, eventTypeString eventType with
        | some name, some event =>
          match t.text e.folder with
          | .error fault => .ret (.error fault)
          | .ok folder => do
            if ← execScriptInChild folder name pTag.uid pTag.uid event then return .ok true
            else dispatchBelow t eventType pTag ruleIndex
        | _, _ => .ret (.ok false)
      else dispatchBelow t eventType pTag ruleIndex

/-- The rules are tried from the last to the first. -/
def rulesTableEventDispatch (t : RulesTable) (eventType : tEventType) (pTag : tTag) :
    DispatchProg (Except Fault Bool) :=
  dispatchBelow t eventType pTag t.numTagEntries

/-- The scripts that exist, and what `fork` returns each time it is called. -/
def host (found : CString → Bool) (forks : Nat → Int) : HostCall → Nat → Int × Nat
  | .stat path, calls => (if found path then 0 else -1, calls)
  | .fork _, calls => (forks calls, calls + 1)

/-- The script of a rule: `folder/UID` or `folder/generic`. -/
def scriptPath (uid : CString) (r : Rule) : CString :=
  r.folder ++ '/' :: if r.scriptMatchType = TAG_ID_MATCH then uid else "generic".toList

/-- The child that is forked for a rule. -/
def scriptOf (uid event : CString) (r : Rule) : Execl := ⟨scriptPath uid r, uid, uid, event⟩

section
variable {found : CString → Bool} {forks : Nat → Int} {uid event : CString}

/-- What is called for the rules in the order they are tried, after some calls of `fork`, and
whether a script was started. -/
inductive Tried (found : CString → Bool) (forks : Nat → Int) (uid event : CString) :
    Nat → List Rule → Bool → List (HostCall × Int) → Prop where
  | nil {k} :
    Tried found forks uid event k [] false []
  | disabled {k r rules result calls} :
    r.enabled = 0 →
    Tried found forks uid event k rules result calls →
    Tried found forks uid event k (r :: rules) result calls
  | missing {k r rules result calls} :
    r.enabled ≠ 0 →
    found (scriptPath uid r) = false →
    Tried found forks uid event k rules result calls →
    Tried found forks uid event k (r :: rules) result ((.stat (scriptPath uid r), -1) :: calls)
  | failed {k r rules result calls} :
    r.enabled ≠ 0 →
    found (scriptPath uid r) = true →
    forks k < 0 →
    Tried found forks uid event (k + 1) rules result calls →
    Tried found forks uid event k (r :: rules) result
      ((.stat (scriptPath uid r), 0) :: (.fork (scriptOf uid event r), forks k) :: calls)
  | started {k r rules} :
    r.enabled ≠ 0 →
    found (scriptPath uid r) = true →
    0 ≤ forks k →
    Tried found forks uid event k (r :: rules) true
      [(.stat (scriptPath uid r), 0), (.fork (scriptOf uid event r), forks k)]

/-- The rule has one of the two kinds of scripts. -/
def Known (r : Rule) : Prop :=
  r.scriptMatchType = TAG_ID_MATCH ∨ r.scriptMatchType = GENERIC_MATCH

/-- The name of the script of a rule whose kind is known. -/
lemma Known.scriptName {r} (h : Known r) :
    scriptName r.scriptMatchType uid =
      some (if r.scriptMatchType = TAG_ID_MATCH then uid else "generic".toList) := by
  unfold TagEventor.scriptName
  rcases h with id | generic
  · rw [if_pos id, if_pos id]
  · rw [generic]
    rfl

section
variable {α : Type} {folder name : CString} {k : Nat} {f : Bool → DispatchProg α}

/-- Where there is no script, nothing is started. -/
lemma exec_missing (missing : found (folder ++ '/' :: name) = false) :
    (execScriptInChild folder name uid uid event >>= f).run (host found forks) k =
        (f false).run (host found forks) k ∧
      (execScriptInChild folder name uid uid event >>= f).transcript (host found forks) k =
        (.stat (folder ++ '/' :: name), -1) :: (f false).transcript (host found forks) k := by
  simp [execScriptInChild, Bind.bind, Prog.bind, Prog.run, Prog.transcript, host, missing]

/-- Where `fork` fails, nothing is started. -/
lemma exec_failed (exists_ : found (folder ++ '/' :: name) = true) (failed : forks k < 0) :
    (execScriptInChild folder name uid uid event >>= f).run (host found forks) k =
        (f false).run (host found forks) (k + 1) ∧
      (execScriptInChild folder name uid uid event >>= f).transcript (host found forks) k =
        (.stat (folder ++ '/' :: name), 0) ::
          (.fork ⟨folder ++ '/' :: name, uid, uid, event⟩, forks k) ::
          (f false).transcript (host found forks) (k + 1) := by
  simp [execScriptInChild, Bind.bind, Prog.bind, Prog.run, Prog.transcript, host, exists_, failed]

/-- A child is started. -/
lemma exec_started (exists_ : found (folder ++ '/' :: name) = true) (forked : 0 ≤ forks k) :
    (execScriptInChild folder name uid uid event >>= f).run (host found forks) k =
        (f true).run (host found forks) (k + 1) ∧
      (execScriptInChild folder name uid uid event >>= f).transcript (host found forks) k =
        (.stat (folder ++ '/' :: name), 0) ::
          (.fork ⟨folder ++ '/' :: name, uid, uid, event⟩, forks k) ::
          (f true).transcript (host found forks) (k + 1) := by
  simp [execScriptInChild, Bind.bind, Prog.bind, Prog.run, Prog.transcript, host, exists_,
    Int.not_lt.2 forked]

end

/-- The rules are tried from the last one down. -/
lemma dispatchBelow_tried {t : RulesTable} {rules eventType} {pTag : tTag} {n k}
    (h : t.Represents rules) (known : ∀ r ∈ rules, Known r)
    (isTag : eventTypeString eventType = some event) (le : n ≤ rules.length) :
    ∃ result, ((dispatchBelow t eventType pTag n).run (host found forks) k).1 = .ok result ∧
      Tried found forks pTag.uid event k (rules.take n).reverse result
        ((dispatchBelow t eventType pTag n).transcript (host found forks) k) := by
  induction n generalizing k with
  | zero => exact ⟨false, rfl, .nil⟩
  | succ n ih =>
    have at_n : rules[n]? = some rules[n] := List.getElem?_eq_getElem le
    obtain ⟨e, entry, reads⟩ := h.entry at_n
    have taken : (rules.take (n + 1)).reverse = rules[n] :: (rules.take n).reverse := by
      rw [List.take_add_one, at_n]
      exact List.reverse_concat
    have kind := known rules[n] (List.getElem_mem le)
    have rest {k} := @ih k (Nat.le_of_succ_le le)
    rw [taken]
    generalize rules[n] = r at reads kind
    unfold dispatchBelow
    rw [entry]
    dsimp only
    rw [reads.enabled, reads.scriptMatchType, kind.scriptName, isTag,
      RulesTable.text_eq reads.folder]
    dsimp only
    by_cases enabled : r.enabled = 0
    · rw [if_neg (not_not_intro enabled)]
      obtain ⟨result, run, tried⟩ := rest
      exact ⟨result, run, .disabled enabled tried⟩
    rw [if_pos enabled]
    cases exists_ : found (scriptPath pTag.uid r) with
    | false =>
      obtain ⟨run, transcript⟩ := @exec_missing found forks pTag.uid event _ _ _ k
        (fun started => if started then return .ok true else dispatchBelow t eventType pTag n)
        exists_
      obtain ⟨result, run', tried⟩ := @rest k
      rw [run, transcript]
      exact ⟨result, run', .missing enabled exists_ tried⟩
    | true =>
      by_cases failed : forks k < 0
      · obtain ⟨run, transcript⟩ := @exec_failed found forks pTag.uid event _ _ _ k
          (fun started => if started then return .ok true else dispatchBelow t eventType pTag n)
          exists_ failed
        obtain ⟨result, run', tried⟩ := @rest (k + 1)
        rw [run, transcript]
        exact ⟨result, run', .failed enabled exists_ failed tried⟩
      · obtain ⟨run, transcript⟩ := @exec_started found forks pTag.uid event _ _ _ k
          (fun started => if started then return .ok true else dispatchBelow t eventType pTag n)
          exists_ (Int.not_lt.1 failed)
        rw [run, transcript]
        exact ⟨true, rfl, .started enabled exists_ (Int.not_lt.1 failed)⟩

/-- The event is one of a tag, and this is what a script is told. -/
def IsTagEvent (eventType : tEventType) (event : CString) : Prop :=
  eventType = .TAG_IN ∧ event = "IN".toList ∨ eventType = .TAG_OUT ∧ event = "OUT".toList

/-- For a tag event all rules are tried, the last one first. -/
lemma dispatch_tried {t : RulesTable} {rules eventType} {pTag : tTag} (h : t.Represents rules)
    (known : ∀ r ∈ rules, Known r) (isTag : IsTagEvent eventType event) :
    ∃ result, ((rulesTableEventDispatch t eventType pTag).run (host found forks) 0).1 =
        .ok result ∧
      Tried found forks pTag.uid event 0 rules.reverse result
        ((rulesTableEventDispatch t eventType pTag).transcript (host found forks) 0) := by
  have tagEvent : eventTypeString eventType = some event := by
    rcases isTag with ⟨rfl, rfl⟩ | ⟨rfl, rfl⟩ <;> rfl
  have tried := @dispatchBelow_tried found forks event t rules eventType pTag t.numTagEntries 0 h
    known tagEvent (Nat.le_of_eq h.number)
  rwa [List.take_of_length_le (Nat.le_of_eq h.number.symm)] at tried

/-- The rules that are enabled. -/
def enabledRules (rules : List Rule) : List Rule := rules.filter fun r => r.enabled ≠ 0

/-- The rules that are enabled and whose script exists. -/
def candidates (found : CString → Bool) (uid : CString) (rules : List Rule) : List Rule :=
  (enabledRules rules).filter fun r => found (scriptPath uid r)

/-- The paths that are looked for. -/
def statCalls (calls : List (HostCall × Int)) : List CString :=
  calls.filterMap fun
    | (.stat path, _) => some path
    | _ => none

/-- The children that the program tries to fork. -/
def forkCalls (calls : List (HostCall × Int)) : List Execl :=
  calls.filterMap fun
    | (.fork child, _) => some child
    | _ => none

/-- The children that are started. -/
def startedChildren (calls : List (HostCall × Int)) : List Execl :=
  calls.filterMap fun
    | (.fork child, pid) => if 0 ≤ pid then some child else none
    | _ => none

/-- A rule that is disabled is left out. -/
lemma enabledRules_disabled {r rules} (disabled : r.enabled = 0) :
    enabledRules (r :: rules) = enabledRules rules :=
  List.filter_cons_of_neg (by simp [disabled])

/-- A rule that is enabled is kept. -/
lemma enabledRules_enabled {r rules} (enabled : r.enabled ≠ 0) :
    enabledRules (r :: rules) = r :: enabledRules rules :=
  List.filter_cons_of_pos (by simp [enabled])

/-- Nothing is started by a `fork` that fails. -/
lemma startedChildren_failed {path child pid calls} (error : pid < 0) :
    startedChildren ((.stat path, 0) :: (.fork child, pid) :: calls) = startedChildren calls := by
  simp [startedChildren, Int.not_le.2 error]

/-- The child that was started. -/
lemma startedChildren_started {path child pid} (forked : 0 ≤ pid) :
    startedChildren [(.stat path, 0), (.fork child, pid)] = [child] := by
  simp [startedChildren, forked]

/-- The enabled rules are looked at in order, up to the one whose script is started. -/
lemma Tried.order {k rules result calls} (h : Tried found forks uid event k rules result calls) :
    ∃ before after, enabledRules rules = before ++ after ∧
      statCalls calls = before.map (scriptPath uid) ∧ (result = false → after = []) ∧
      ∀ child ∈ startedChildren calls, before.getLast?.map (scriptOf uid event) = some child := by
  -- a rule that is passed over is the last one only if nothing is started after it
  have passed {before : List Rule} {r : Rule} {child}
      (h : before.getLast?.map (scriptOf uid event) = some child) :
      (r :: before).getLast?.map (scriptOf uid event) = some child := by
    cases before with
    | nil => cases h
    | cons r' before => rwa [List.getLast?_cons_cons]
  induction h with
  | nil => exact ⟨[], [], rfl, rfl, fun _ => rfl, nofun⟩
  | disabled disabled _ ih =>
    rw [enabledRules_disabled disabled]
    exact ih
  | missing enabled _ _ ih =>
    obtain ⟨before, after, e, paths, all, last⟩ := ih
    rw [enabledRules_enabled enabled, e]
    exact ⟨_ :: before, after, rfl, congrArg _ paths, all, fun child mem => passed (last child mem)⟩
  | @failed k r rules result calls enabled _ error _ ih =>
    obtain ⟨before, after, e, paths, all, last⟩ := ih
    rw [enabledRules_enabled enabled, e]
    refine ⟨_ :: before, after, rfl, congrArg _ paths, all, fun child mem => ?_⟩
    rw [startedChildren_failed error] at mem
    exact passed (last child mem)
  | @started k r rules enabled _ forked =>
    rw [enabledRules_enabled enabled]
    refine ⟨[r], enabledRules rules, rfl, rfl, nofun, fun child mem => ?_⟩
    rw [startedChildren_started forked] at mem
    rw [List.mem_singleton.1 mem]
    rfl

/-- How the trials of some candidates, whose calls of `fork` are numbered from `k` on, can end. -/
inductive Ends (forks : Nat → Int) (uid event : CString) (k : Nat) (candidates : List Rule) :
    Bool → List Execl → List Execl → Prop where
  | worked {j r} :
    candidates[j]? = some r →
    0 ≤ forks (k + j) →
    (∀ i < j, forks (k + i) < 0) →
    Ends forks uid event k candidates true ((candidates.take (j + 1)).map (scriptOf uid event))
      [scriptOf uid event r]
  | failed :
    (∀ j < candidates.length, forks (k + j) < 0) →
    Ends forks uid event k candidates false (candidates.map (scriptOf uid event)) []

/-- A candidate whose `fork` fails comes before the others. -/
lemma Ends.cons {k r rules result forked started}
    (h : Ends forks uid event (k + 1) rules result forked started) (error : forks k < 0) :
    Ends forks uid event k (r :: rules) result (scriptOf uid event r :: forked) started := by
  have shift : ∀ i, k + (i + 1) = k + 1 + i := fun i => by omega
  cases h with
  | @worked j r' at_j positive before =>
    refine .worked (j := j + 1) at_j ((shift j).symm ▸ positive) ?_
    intro i hi
    cases i with
    | zero => exact error
    | succ i =>
      rw [shift]
      exact before i (Nat.lt_of_succ_lt_succ hi)
  | failed all =>
    refine .failed fun i hi => ?_
    cases i with
    | zero => exact error
    | succ i =>
      rw [shift]
      exact all i (Nat.lt_of_succ_lt_succ hi)

/-- A rule without a script is no candidate. -/
lemma candidates_missing {r rules} (enabled : r.enabled ≠ 0)
    (missing : found (scriptPath uid r) = false) :
    candidates found uid (r :: rules) = candidates found uid rules := by
  rw [candidates, enabledRules_enabled enabled, List.filter_cons_of_neg (by rw [missing]; nofun)]
  rfl

/-- An enabled rule with its script is a candidate. -/
lemma candidates_found {r rules} (enabled : r.enabled ≠ 0)
    (exists_ : found (scriptPath uid r) = true) :
    candidates found uid (r :: rules) = r :: candidates found uid rules := by
  rw [candidates, enabledRules_enabled enabled]
  exact List.filter_cons_of_pos exists_

/-- The candidates are forked in order, up to the first one for which this works. -/
lemma Tried.ends {k rules result calls} (h : Tried found forks uid event k rules result calls) :
    Ends forks uid event k (candidates found uid rules) result (forkCalls calls)
      (startedChildren calls) := by
  induction h with
  | nil => exact .failed nofun
  | disabled disabled _ ih =>
    rw [candidates, enabledRules_disabled disabled]
    exact ih
  | missing enabled missing _ ih =>
    rw [candidates_missing enabled missing]
    exact ih
  | @failed k r rules result calls enabled exists_ error _ ih =>
    rw [candidates_found enabled exists_, startedChildren_failed error]
    exact ih.cons error
  | @started k r rules enabled exists_ forked =>
    rw [candidates_found enabled exists_, startedChildren_started forked]
    exact .worked (j := 0) rfl forked nofun

/-- The rules are tried from the last one down, and at most one script is started: that of the first
rule in that order that is enabled, whose script exists and whose `fork` works. -/
structure DispatchesLast (rules : List Rule) (found : CString → Bool) (forks : Nat → Int)
    (uid event : CString) (returned : Except Fault Bool) (calls : List (HostCall × Int)) :
    Prop where
  result : ∃ b, returned = .ok b ∧
    (b = true ↔ ∃ j < (candidates found uid rules.reverse).length, 0 ≤ forks j)
  order : ∃ before after, enabledRules rules.reverse = before ++ after ∧
    statCalls calls = before.map (scriptPath uid) ∧ (returned = .ok false → after = []) ∧
    ∀ child ∈ startedChildren calls, before.getLast?.map (scriptOf uid event) = some child
  worked : ∀ j r, (candidates found uid rules.reverse)[j]? = some r → 0 ≤ forks j →
    (∀ i < j, forks i < 0) →
    forkCalls calls =
        ((candidates found uid rules.reverse).take (j + 1)).map (scriptOf uid event) ∧
      startedChildren calls = [scriptOf uid event r]
  failed : (∀ j < (candidates found uid rules.reverse).length, forks j < 0) →
    forkCalls calls = (candidates found uid rules.reverse).map (scriptOf uid event) ∧
      startedChildren calls = []

/-- A walk over the candidates from the last to the first starts the last usable one. -/
lemma Ends.dispatchesLast {rules b calls}
    (ends : Ends forks uid event 0 (candidates found uid rules.reverse) b (forkCalls calls)
      (startedChildren calls))
    (order : ∃ before after, enabledRules rules.reverse = before ++ after ∧
      statCalls calls = before.map (scriptPath uid) ∧ (b = false → after = []) ∧
      ∀ child ∈ startedChildren calls, before.getLast?.map (scriptOf uid event) = some child) :
    DispatchesLast rules found forks uid event (.ok b) calls := by
  have order' : ∃ before after, enabledRules rules.reverse = before ++ after ∧
      statCalls calls = before.map (scriptPath uid) ∧
      ((.ok b : Except Fault Bool) = .ok false → after = []) ∧
      ∀ child ∈ startedChildren calls, before.getLast?.map (scriptOf uid event) = some child := by
    obtain ⟨before, after, e, paths, all, last⟩ := order
    exact ⟨before, after, e, paths, fun ok => all (Except.ok.inj ok), last⟩
  generalize calls' : forkCalls calls = forked at ends
  generalize children : startedChildren calls = started at ends
  cases ends with
  | @worked j r at_j positive before =>
    rw [Nat.zero_add] at positive
    have before : ∀ i < j, forks i < 0 := fun i hi => by simpa using before i hi
    obtain ⟨inside, _⟩ := List.getElem?_eq_some_iff.1 at_j
    refine ⟨⟨true, rfl, fun _ => ⟨j, inside, positive⟩, fun _ => rfl⟩, order', ?_, ?_⟩
    · intro j' r' at_j' positive' before'
      -- there is only one first candidate for which `fork` works
      have same : j' = j := by
        rcases Nat.lt_trichotomy j' j with less | same | greater
        · exact absurd (before j' less) (Int.not_lt.2 positive')
        · exact same
        · exact absurd (before' j greater) (Int.not_lt.2 positive)
      subst same
      cases at_j.symm.trans at_j'
      exact ⟨calls', children⟩
    · intro all
      exact absurd (all j inside) (Int.not_lt.2 positive)
  | failed all =>
    have all : ∀ j < (candidates found uid rules.reverse).length, forks j < 0 :=
      fun j hj => by simpa using all j hj
    refine ⟨⟨false, rfl, nofun, ?_⟩, order', ?_, fun _ => ⟨calls', children⟩⟩
    · rintro ⟨j, inside, positive⟩
      exact absurd (all j inside) (Int.not_lt.2 positive)
    · intro j r at_j positive _
      obtain ⟨inside, _⟩ := List.getElem?_eq_some_iff.1 at_j
      exact absurd (all j inside) (Int.not_lt.2 positive)

/-- The kind of an added rule is known. -/
lemma addedRule_known : Known RulesTable.addedRule := .inl rfl

/-- Every rule of the table has one of the two kinds of scripts. -/
lemma rulesAfter_known {ops : List RulesOp} : ∀ r ∈ rulesAfter ops, Known r := by
  induction ops using List.reverseRecOn with
  | nil =>
    intro r mem
    have mem : r ∈ defaultCommands := mem
    simp only [defaultCommands, List.mem_cons, List.not_mem_nil, or_false] at mem
    rcases mem with rfl | rfl | rfl | rfl
    · exact .inr rfl
    · exact .inl rfl
    · exact .inr rfl
    · exact .inl rfl
  | append_singleton ops op ih =>
    rw [rulesAfter_concat]
    cases op with
    | rulesTableAddEntry =>
      intro r mem
      rcases List.mem_append.1 mem with mem | mem
      · exact ih r mem
      · rw [List.mem_singleton.1 mem]
        exact addedRule_known
    | rulesTableEntryEnable index enable =>
      intro r mem
      obtain ⟨j, at_j⟩ := List.mem_iff_getElem?.1 mem
      rw [RulesOp.update, RulesTable.enableRule, List.getElem?_modify] at at_j
      obtain ⟨r', own, rfl⟩ := Option.map_eq_some_iff.1 at_j
      have known := ih r' (List.mem_of_getElem? own)
      split
      · exact known
      · exact known

/-- For a tag event the script of the last usable rule is started, and no other. -/
theorem dispatch_last_usable {mem : Malloc} {ops : List RulesOp} {eventType} {pTag : tTag}
    (indexed : Indexed ops) (served : tableAfter mem ops ≠ .error .outOfMemory)
    (isTag : IsTagEvent eventType event) :
    ∃ t, tableAfter mem ops = .ok t ∧
      let p := rulesTableEventDispatch t eventType pTag
      DispatchesLast (rulesAfter ops) found forks pTag.uid event
        (p.run (host found forks) 0).1 (p.transcript (host found forks) 0) := by
  obtain ⟨t, run, represents⟩ := (tableAfter_represents indexed).success served
  refine ⟨t, run, ?_⟩
  obtain ⟨b, result, tried⟩ := @dispatch_tried found forks event t _ eventType pTag represents
    rulesAfter_known isTag
  dsimp only
  rw [result]
  exact tried.ends.dispatchesLast tried.order

end

/-- A tag for examples. -/
def mifare : tTag := ⟨.empty, .MIFARE_1K, "04ab".toList⟩

/-- All scripts exist, and `fork` fails once. -/
theorem dispatch_last_usable_defaults : ∃ t, tableAfter plenty [] = .ok t ∧
    let p := rulesTableEventDispatch t .TAG_IN mifare
    let forks := fun k => if k = 0 then -1 else 4242
    DispatchesLast (rulesAfter []) (fun _ => true) forks mifare.uid "IN".toList
      (p.run (host (fun _ => true) forks) 0).1 (p.transcript (host (fun _ => true) forks) 0) :=
  dispatch_last_usable indexed_nil (served_of_isOk rfl) (.inl ⟨rfl, rfl⟩)

end TagEventor
