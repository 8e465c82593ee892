import TagEventor.Tray.Settings

/-!
# The rules in a session

The rules editor changes the table of rules at once, whether or not the changes are applied. In
every session the table is what the additions and the clicks on check buttons make of the built-in
rules, the rows of the window show it, and no fault but the end of the memory is met
(`rules_in_step`).
-/

namespace TagEventor
open Interact Session

/-- The table after the calls, at the indices of existing entries. -/
structure TableIs (mem : Malloc) (ops : List RulesOp) (t : RulesTable) : Prop where
  indexed : Indexed ops
  run : tableAfter mem ops = .ok t

section
variable {mem : Malloc} {ops : List RulesOp} {t : RulesTable}

/-- The table represents the rules after the operations. -/
lemma TableIs.represents (h : TableIs mem ops t) : t.Represents (rulesAfter ops) := by
  have represents := @tableAfter_represents mem ops h.indexed
  rw [h.run] at represents
  cases represents with
  | ok represents => exact represents

/-- One more index is inside. -/
lemma Indexed.concat {op} (h : Indexed ops)
    (inside : ∀ (index : Int) enable, op = .rulesTableEntryEnable index enable →
      0 ≤ index ∧ index < (rulesAfter ops).length) : Indexed (ops ++ [op]) := by
  intro before index enable after e
  induction after using List.reverseRecOn with
  | nil =>
    obtain ⟨rfl, last⟩ := List.append_inj' e rfl
    have own := inside index enable (List.cons.inj last).1
    rw [rulesAfter_length] at own
    exact own
  | append_singleton after op' =>
    rw [← List.cons_append, ← List.append_assoc] at e
    obtain ⟨rfl, _⟩ := List.append_inj' e rfl
    exact h before index enable after rfl

/-- One more operation was made. -/
lemma TableIs.concat {op t'} (h : TableIs mem ops t)
    (inside : ∀ (index : Int) enable, op = .rulesTableEntryEnable index enable →
      0 ≤ index ∧ index < (rulesAfter ops).length) (exec : op.exec mem t = .ok t') :
    TableIs mem (ops ++ [op]) t' where
  indexed := h.indexed.concat inside
  run := by
    rw [tableAfter_concat, h.run]
    exact exec

/-- A rule is added, and the new entry is the last one. -/
lemma TableIs.add (h : TableIs mem ops t) :
    Barring .outOfMemory (fun r => r.1 = (rulesAfter ops).length + 1 ∧
      TableIs mem (ops ++ [.rulesTableAddEntry]) r.2) (t.rulesTableAddEntry mem) := by
  have added := @RulesTable.Live.rulesTableAddEntry mem t h.represents.live
  cases run : t.rulesTableAddEntry mem with
  | error fault =>
    rw [run] at added
    cases added
    exact .error
  | ok r =>
    rw [run] at added
    cases added with
    | ok added =>
      have next : TableIs mem (ops ++ [.rulesTableAddEntry]) r.2 := by
        refine h.concat (fun _ _ e => RulesOp.noConfusion e) ?_
        show (t.rulesTableAddEntry mem >>= _) = _
        rw [run]
        rfl
      refine .ok ⟨?_, next⟩
      rw [added.1, next.represents.number, rulesAfter_concat]
      exact List.length_append

/-- An entry of the table can be enabled. -/
lemma TableIs.enable {i enable} (h : TableIs mem ops t) (inside : i < (rulesAfter ops).length) :
    ∃ t', t.rulesTableEntryEnable i enable = .ok t' ∧
      TableIs mem (ops ++ [.rulesTableEntryEnable i enable]) t' := by
  have low : (0 : Int) ≤ i := Int.natCast_nonneg i
  have high : (i : Int) < (rulesAfter ops).length := Int.ofNat_lt.2 inside
  obtain ⟨t', run, _⟩ := @RulesTable.Live.rulesTableEntryEnable t h.represents.live i enable low
    (h.represents.number ▸ high)
  refine ⟨t', run, h.concat (fun index enable e => ?_) run⟩
  injection e with e
  rw [← e]
  exact ⟨low, high⟩

/-- The script of a rule is found, or the next rule is tried, wherever the calls of `fork` are
counted from. -/
lemma TableIs.tried {found forks uid event eventType} {k : Nat} (h : TableIs mem ops t)
    (isTag : IsTagEvent eventType event) :
    ∃ result, ((rulesTableEventDispatch t eventType (tagWith uid)).run (host found forks) k).1 =
        .ok result ∧
      Tried found forks uid event k (rulesAfter ops).reverse result
        ((rulesTableEventDispatch t eventType (tagWith uid)).transcript (host found forks) k) := by
  have tagEvent : eventTypeString eventType = some event := by
    rcases isTag with ⟨rfl, rfl⟩ | ⟨rfl, rfl⟩ <;> rfl
  have tried := @dispatchBelow_tried found forks event t (rulesAfter ops) eventType (tagWith uid)
    t.numTagEntries k h.represents rulesAfter_known tagEvent (Nat.le_of_eq h.represents.number)
  rwa [List.take_of_length_le (Nat.le_of_eq h.represents.number.symm)] at tried

end

/-- A click on the check button of a row changes the row as the call for it changes the rule. -/
lemma click_rows {rules : List Rule} {i r} (at_i : rules[i]? = some r) :
    (rules.mapIdx rowFor).modify i (fun row =>
        { row with enabled := gboolean (row.enabled = 0) }) =
      (RulesTable.enableRule rules i (gboolean (r.enabled = 0))).mapIdx rowFor := by
  apply List.ext_getElem?
  intro j
  rw [List.getElem?_modify, List.getElem?_mapIdx, List.getElem?_mapIdx, RulesTable.enableRule,
    List.getElem?_modify]
  by_cases e : i = j
  · subst e
    simp only [at_i, if_true]
    rfl
  · simp only [e, if_false]
    cases rules[j]? <;> rfl

/-- The call of the handler of an input that changes the table. -/
def handlerOps (s : Session) : Input → List RulesOp
  | .editor .add => [.rulesTableAddEntry]
  | .editor (.enableToggled i) =>
    match (s.editor.click i).rows[i]? with
    | some row => [.rulesTableEntryEnable row.entryIndex row.enabled]
    | none => []
  | _ => []

/-- The operations on the table that an input makes. -/
def tableOps (s : Session) (input : Input) : List RulesOp :=
  if s.Delivers input then handlerOps s input else []

/-- The calls that some inputs make. -/
def tableOpsOf (d : Desktop) : Session → List Input → List RulesOp
  | _, [] => []
  | s, input :: inputs => tableOps s input ++ tableOpsOf d (s.step d input) inputs

/-- The memory has run out. -/
def OutOfMemory (s : Session) : Prop := s.ended = some (.crashed .outOfMemory)

/-- The invariant of the rules: the table is what the calls make, and the rows show it. -/
structure RulesInStep (mem : Malloc) (ops : List RulesOp) (s : Session) : Prop where
  ready : s.editor.dialog.Ready
  fault : ∀ fault, s.ended = some (.crashed fault) → fault = .outOfMemory
  table : ¬ OutOfMemory s → TableIs mem ops s.table
  rows : ¬ OutOfMemory s → s.editor.dialog.window ≠ .unbuilt →
    s.editor.rows = (rulesAfter ops).mapIdx rowFor

section
variable {mem : Malloc} {ops : List RulesOp} {d : Desktop} {s : Session}

/-- A session that is running has not run out of memory. -/
lemma not_outOfMemory (running : s.ended = none) : ¬ OutOfMemory s := by
  rw [OutOfMemory, running]
  exact (Option.some_ne_none _).symm

/-- A step that touches neither the table nor the window keeps the invariant. -/
lemma RulesInStep.congr {s' : Session} (h : RulesInStep mem ops s) (running : s.ended = none)
    (table : s'.table = s.table) (rows : s'.editor.rows = s.editor.rows)
    (ready : s'.editor.dialog.Ready)
    (built : s'.editor.dialog.window ≠ .unbuilt → s.editor.dialog.window ≠ .unbuilt)
    (fault : ∀ fault, s'.ended ≠ some (.crashed fault)) : RulesInStep mem ops s' where
  ready := ready
  fault f crashed := absurd crashed (fault f)
  table _ := by
    rw [table]
    exact h.table (not_outOfMemory running)
  rows _ e := by
    rw [rows]
    exact h.rows (not_outOfMemory running) (built e)

/-- No event of a tag makes the dispatch fail. -/
lemma runScript_running {eventType uid failed event} (h : TableIs mem ops s.table)
    (isTag : IsTagEvent eventType event) :
    (s.runScript d eventType uid failed).ended = s.ended := by
  obtain ⟨result, run, _⟩ := @TableIs.tried mem ops s.table (d.found s.world.log) d.forks uid event
    eventType s.forked h isTag
  unfold runScript
  dsimp only
  rw [run]
  cases result <;> rfl

/-- No event of a tag ends the session. -/
lemma eventDispatch_running {e} (h : TableIs mem ops s.table) :
    (s.eventDispatch d e).ended = s.ended := by
  unfold Session.eventDispatch
  split
  · rfl
  split
  · exact runScript_running h (.inl ⟨rfl, rfl⟩)
  · exact runScript_running h (.inr ⟨rfl, rfl⟩)
  · rfl
  · rfl
  · rfl
  · rfl

/-- A poll does not end the session. -/
lemma poll_running (h : TableIs mem ops s.table) : (s.poll d).ended = s.ended := by
  unfold Session.poll
  generalize tagListCheck d.env true s.world = w
  dsimp only
  have dispatch {events : List Event} {s' : Session} (same : s'.table = s.table) :
      (events.foldl (Session.eventDispatch d) s').ended = s'.ended := by
    refine (Loop.foldl_inv (I := fun s'' : Session => s''.table = s.table ∧ s''.ended = s'.ended)
      (fun e _ s'' hs => ?_) ⟨same, rfl⟩).2
    obtain ⟨table, ended⟩ := hs
    have own : TableIs mem ops s''.table := table ▸ h
    exact ⟨eventDispatch_reacts.table.trans table, (eventDispatch_running own).trans ended⟩
  rw [setStatus_reports.ended, dispatchEvents]
  exact dispatch rfl

/-- A session goes on after a step that does not end it. -/
lemma RulesInStep.running {s' : Session} (ready : s'.editor.dialog.Ready)
    (running : s'.ended = none) (table : TableIs mem ops s'.table)
    (rows : s'.editor.dialog.window ≠ .unbuilt →
      s'.editor.rows = (rulesAfter ops).mapIdx rowFor) : RulesInStep mem ops s' where
  ready := ready
  fault f crashed := by
    rw [running] at crashed
    cases crashed
  table _ := table
  rows _ := rows

/-- A session in which the memory has run out is over. -/
lemma RulesInStep.crashed (ready : s.editor.dialog.Ready) :
    RulesInStep mem ops { s with ended := some (.crashed .outOfMemory) } where
  ready := ready
  fault f crashed := by
    injection crashed with crashed
    injection crashed with crashed
    exact crashed.symm
  table alive := absurd rfl alive
  rows alive := absurd rfl alive

/-- The window is built with a row for each rule. -/
lemma RulesInStep.built (h : RulesInStep mem ops s) (running : s.ended = none) :
    RulesInStep mem ops s.buildrulesEditor := by
  have table := h.table (not_outOfMemory running)
  unfold buildrulesEditor
  rw [fillTable_rows table.represents]
  exact .running Dialog.ready_built running table fun _ => rfl

/-- A rule that is added gets the last row. -/
lemma RulesInStep.added (h : RulesInStep d.mem ops s) (running : s.ended = none)
    (built : s.editor.dialog.window ≠ .unbuilt) :
    RulesInStep d.mem (ops ++ [.rulesTableAddEntry]) (s.addTagEntry d) := by
  have table := h.table (not_outOfMemory running)
  have add := @TableIs.add d.mem ops s.table table
  unfold addTagEntry
  generalize s.table.rulesTableAddEntry d.mem = added at add ⊢
  cases add with
  | error => exact .crashed h.ready
  | @ok r ha =>
    obtain ⟨numEntries, t⟩ := r
    obtain ⟨number, next⟩ := ha
    change numEntries = _ at number
    change TableIs d.mem _ t at next
    have after : rulesAfter (ops ++ [.rulesTableAddEntry]) =
        rulesAfter ops ++ [RulesTable.addedRule] := rulesAfter_concat
    have at_last : (rulesAfter (ops ++ [.rulesTableAddEntry]))[(rulesAfter ops).length]? =
        some RulesTable.addedRule := by
      rw [after]
      exact List.getElem?_concat_length
    have row := tableAddRow_row next.represents at_last
    show RulesInStep d.mem _ (orCrash { s with table := t } _ (t.tableAddRow (numEntries - 1)))
    rw [number, Nat.add_sub_cancel, row]
    refine .running h.ready running next fun _ => ?_
    show s.editor.rows ++ [_] = _
    rw [h.rows (not_outOfMemory running) built, after, List.mapIdx_concat]

/-- A click on a check button changes the rule of its row, and makes changes pending. -/
lemma RulesInStep.enabled {i} (h : RulesInStep mem ops s) (running : s.ended = none)
    (built : s.editor.dialog.window ≠ .unbuilt) (inside : i < s.editor.rows.length) :
    ∃ row, (s.editor.click i).rows[i]? = some row ∧
      let s' := { s with editor := s.editor.click i }.enableChange row
      RulesInStep mem (ops ++ [.rulesTableEntryEnable row.entryIndex row.enabled]) s' ∧
        s'.editor.dialog.savePending = true := by
  have table := h.table (not_outOfMemory running)
  have rows := h.rows (not_outOfMemory running) built
  rw [rows, List.length_mapIdx] at inside
  have at_i : (rulesAfter ops)[i]? = some (rulesAfter ops)[i] := List.getElem?_eq_getElem inside
  generalize (rulesAfter ops)[i] = r at at_i
  have clicked : (s.editor.click i).rows =
      (rulesAfter (ops ++ [.rulesTableEntryEnable i
        (gboolean (r.enabled = 0))])).mapIdx rowFor := by
    rw [rulesAfter_concat]
    show s.editor.rows.modify i _ = _
    rw [rows]
    exact click_rows at_i
  refine ⟨{ rowFor i r with enabled := gboolean (r.enabled = 0) }, ?_, ?_⟩
  · show (s.editor.rows.modify i _)[i]? = _
    rw [rows, List.getElem?_modify, List.getElem?_mapIdx, at_i]
    simp
    rfl
  · obtain ⟨t, run, next⟩ :=
      @TableIs.enable mem ops s.table i (gboolean (r.enabled = 0)) table inside
    have changed : { s with editor := s.editor.click i }.enableChange
        { rowFor i r with enabled := gboolean (r.enabled = 0) } =
        { s with table := t, editor := (s.editor.click i).setSavePending true } := by
      show orCrash _ _ (s.table.rulesTableEntryEnable i (gboolean (r.enabled = 0))) = _
      rw [run]
      rfl
    intro s'
    rw [show s' = _ from changed]
    exact ⟨.running (Dialog.Ready.setPending built) running next fun _ => clicked, rfl⟩

/-- No operation was made. -/
lemma RulesInStep.same {more} (none : more = []) (h : RulesInStep mem ops s) :
    RulesInStep mem (ops ++ more) s := by
  rwa [none, List.append_nil]

/-- Signals that only move the window, or make changes pending, keep the invariant. -/
lemma RulesInStep.moved {editor : RulesEditor} (h : RulesInStep mem ops s)
    (running : s.ended = none) (rows : editor.rows = s.editor.rows) (ready : editor.dialog.Ready)
    (built : editor.dialog.window ≠ .unbuilt → s.editor.dialog.window ≠ .unbuilt) :
    RulesInStep mem ops { s with editor } :=
  .running ready running (h.table (not_outOfMemory running)) fun e => by
    rw [show ({ s with editor } : Session).editor.rows = _ from rows]
    exact h.rows (not_outOfMemory running) (built e)

/-- A window that is shown exists. -/
lemma Window.built_of_shown {w : Window} (shown : w = .shown) : w ≠ .unbuilt := by
  rw [shown]
  exact Window.noConfusion

/-- An input that is delivered makes the operations of its handler. -/
lemma tableOps_eq {input} (delivers : s.Delivers input) :
    tableOps s input = handlerOps s input := if_pos delivers

/-- A signal of the rules editor keeps the table and the rows in step. -/
lemma RulesInStep.handleEditor {signal} (h : RulesInStep d.mem ops s)
    (delivers : s.Delivers (.editor signal)) :
    RulesInStep d.mem (ops ++ handlerOps s (.editor signal)) (s.handleEditor d signal) := by
  obtain ⟨running, delivers⟩ := delivers
  cases signal with
  | activate isActive =>
    refine .same rfl ?_
    show RulesInStep d.mem ops (s.rulesEditorActivate _)
    unfold rulesEditorActivate
    split
    next => exact h.built running
    next built =>
      split
      · exact h.moved running rfl h.ready.hide fun _ => built
      · exact h.moved running rfl (h.ready.present built) fun _ => built
  | add =>
    exact h.added running (Window.built_of_shown delivers)
  | enableToggled i =>
    obtain ⟨row, at_i, next, _⟩ := h.enabled running (Window.built_of_shown delivers.1) delivers.2
    have handled : s.handleEditor d (.enableToggled i) =
        { s with editor := s.editor.click i }.enableChange row := by
      unfold Session.handleEditor
      dsimp only
      rw [at_i]
    rw [handled, handlerOps, at_i]
    exact next
  | fileSet i =>
    refine .same rfl ?_
    have built := Window.built_of_shown delivers.1
    exact h.moved running rfl (Dialog.Ready.setPending built) fun _ => built
  | matchToggled i =>
    refine .same rfl ?_
    have built := Window.built_of_shown delivers.1
    exact h.moved running rfl (Dialog.Ready.setPending built) fun _ => built
  | apply =>
    refine .same rfl ?_
    have built := Window.built_of_shown delivers.1
    exact h.moved running rfl (Dialog.Ready.setPending built) fun _ => built
  | close =>
    refine .same rfl ?_
    exact h.moved running rfl h.ready.hide Dialog.hide_unbuilt.not.1
  | cancel =>
    refine .same rfl ?_
    exact h.moved running rfl h.ready.hide Dialog.hide_unbuilt.not.1
  | delete =>
    refine .same rfl ?_
    exact h.moved running rfl h.ready.delete fun _ => Window.built_of_shown delivers

/-- Every input keeps the table and the rows in step. -/
lemma RulesInStep.handle {input} (h : RulesInStep d.mem ops s) (delivers : s.Delivers input) :
    RulesInStep d.mem (ops ++ tableOps s input) (s.handle d input) := by
  have running := delivers.1
  have table := h.table (not_outOfMemory running)
  rw [tableOps_eq delivers]
  cases input with
  | timeout id =>
    have polls := @poll_polls d s
    refine .same rfl ?_
    show RulesInStep d.mem ops (s.poll d)
    refine .running ?_ ((poll_running table).trans running) (polls.table.symm ▸ table)
      fun built => ?_
    · rw [polls.dialog]
      exact h.ready
    · rw [polls.rows]
      rw [polls.dialog] at built
      exact h.rows (not_outOfMemory running) built
  | settings signal =>
    have sets := @handleSettings_sets s signal
    refine .same rfl ?_
    show RulesInStep d.mem ops (s.handleSettings signal)
    refine .running ?_ (sets.ended.trans running) (sets.table.symm ▸ table) ?_
    · rw [sets.editor]
      exact h.ready
    · rw [sets.editor]
      exact h.rows (not_outOfMemory running)
  | editor signal => exact h.handleEditor delivers
  | quit =>
    refine .same rfl ?_
    show RulesInStep d.mem ops s.iconQuit
    unfold iconQuit
    dsimp only
    split
    · refine ⟨h.ready, fun fault crashed => ?_, fun _ => table, fun _ =>
        h.rows (not_outOfMemory running)⟩
      injection crashed with crashed
      cases crashed
    · exact .running h.ready running table (h.rows (not_outOfMemory running))
  | system signal =>
    have interrupts := @handleSignal_interrupts d s signal
    obtain ⟨world, ended, l, about, e⟩ := interrupts.same
    have editor : (s.handleSignal d signal).editor = s.editor := by rw [e]
    refine .same rfl (h.congr running ?_ (congrArg RulesEditor.rows editor) ?_ ?_ fun fault => ?_)
    · show (s.handleSignal d signal).table = _
      rw [e]
    · show (s.handleSignal d signal).editor.dialog.Ready
      rw [editor]
      exact h.ready
    · intro built
      rw [← editor]
      exact built
    · show (s.handleSignal d signal).ended ≠ _
      rcases interrupts.ended with goes | exits
      · rw [goes, running]
        nofun
      · rw [exits]
        nofun

/-- The operations of the last input come after the others. -/
lemma tableOpsOf_concat {inputs input} :
    tableOpsOf d s (inputs ++ [input]) =
      tableOpsOf d s inputs ++ tableOps (s.run d inputs) input := by
  induction inputs generalizing s with
  | nil => exact List.append_nil _
  | cons first inputs ih =>
    show tableOps s first ++ tableOpsOf d (s.step d first) (inputs ++ [input]) = _
    rw [ih, ← List.append_assoc]
    rfl

/-- The last input comes after the others. -/
lemma run_concat {inputs input} : s.run d (inputs ++ [input]) = (s.run d inputs).step d input := by
  unfold Session.run
  rw [List.foldl_append]
  rfl

/-- What the first calls lead to, the whole session keeps. -/
lemma RulesInStep.run {inputs} (h : RulesInStep d.mem ops s) :
    RulesInStep d.mem (ops ++ tableOpsOf d s inputs) (s.run d inputs) := by
  induction inputs using List.reverseRecOn with
  | nil =>
    show RulesInStep d.mem (ops ++ []) s
    rwa [List.append_nil]
  | append_singleton inputs input ih =>
    rw [tableOpsOf_concat, run_concat, ← List.append_assoc]
    by_cases delivers : (s.run d inputs).Delivers input
    · rw [step_eq delivers]
      exact ih.handle delivers
    · rw [step_not delivers, tableOps, if_neg delivers, List.append_nil]
      exact ih

end

section
variable {d : Desktop} {c : CommandLine} {number : Nat} {t : RulesTable} {inputs : List Input}

/-- In every session the table and the rows are in step. -/
lemma rulesInStep_run (read : RulesTable.init.rulesTableRead d.mem = .ok (number, t)) :
    RulesInStep d.mem (tableOpsOf d (start c t) inputs) ((start c t).run d inputs) := by
  have first : TableIs d.mem [] t := by
    refine ⟨indexed_nil, ?_⟩
    show (RulesTable.init.rulesTableRead d.mem >>= _) = _
    rw [read]
    rfl
  have started : RulesInStep d.mem [] (start c t) :=
    .running Dialog.ready_init rfl first (absurd rfl)
  exact started.run

end

end TagEventor
