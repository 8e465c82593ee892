import Mathlib.Data.List.Forall2
import Mathlib.Data.List.Induction
import TagEventor.Rules.Table

/-!
# The table of rules as a list

A table `Represents` the list of rules that is read back from its array (`rulesTableRead_represents`
for the built-in ones). An addition puts a rule at the end, and `rulesTableEntryEnable` changes a
flag. Therefore, unless the memory runs out, the table behaves as the plain list of rules that the
same calls make (`table_is_list`).
-/

namespace TagEventor
namespace RulesTable

section
variable {mem : Malloc} {t : RulesTable} {array i : Nat} {entries : List tRulesTableEntry}
  {e : tRulesTableEntry}

/-- The entry has the fields of the rule, and its texts are in blocks that are not freed. -/
structure Reads (strings : Blocks StringBlock) (e : tRulesTableEntry) (r : Rule) : Prop where
  IDRegex : (strings.get e.IDRegex).bind StringBlock.text = some r.IDRegex
  folder : (strings.get e.folder).bind StringBlock.text = some r.folder
  scriptMatchType : e.scriptMatchType = r.scriptMatchType
  description : (strings.get e.description).bind StringBlock.text = some r.description
  enabled : e.enabled = r.enabled

/-- The table represents a list of rules. -/
structure Represents (t : RulesTable) (rules : List Rule) : Prop where
  live : Live t
  reads : List.Forall₂ (Reads t.strings) t.rows rules

/-- More blocks leave the texts alone. -/
lemma text_append {strings more : Blocks StringBlock} {p text}
    (h : (strings.get p).bind StringBlock.text = some text) :
    ((strings ++ more).get p).bind StringBlock.text = some text := by
  obtain ⟨block, found, e⟩ := Option.bind_eq_some_iff.1 h
  rw [Blocks.get_append found]
  exact e

/-- Blocks that are allocated later do not matter. -/
lemma Reads.append {strings more : Blocks StringBlock} {r} (h : Reads strings e r) :
    Reads (strings ++ more) e r where
  IDRegex := text_append h.IDRegex
  folder := text_append h.folder
  scriptMatchType := h.scriptMatchType
  description := text_append h.description
  enabled := h.enabled

/-- The entry for a rule reads as the rule. -/
lemma reads_entryFor {strings : Blocks StringBlock} {r} :
    Reads (strings ++ blocksFor r) (entryFor strings.length r) r := by
  have found {k} : (strings ++ blocksFor r).get (strings.length + k) = (blocksFor r).get k := by
    rw [Blocks.get, List.getElem?_append_right (Nat.le_add_right _ _), Nat.add_sub_cancel_left]
    rfl
  refine ⟨?_, ?_, rfl, ?_, rfl⟩
  · show ((strings ++ blocksFor r).get (strings.length + 0)).bind _ = _
    rw [found]
    rfl
  · show ((strings ++ blocksFor r).get (strings.length + 1)).bind _ = _
    rw [found]
    rfl
  · show ((strings ++ blocksFor r).get (strings.length + 2)).bind _ = _
    rw [found]
    rfl

/-- An entry that was added is the next rule. -/
lemma Represents.added {t' rules r} (h : Represents t rules) (added : Added t t' r) :
    Represents t' (rules ++ [r]) where
  live := added.live
  reads := by
    rw [added.rows, added.strings]
    exact List.rel_append (h.reads.imp fun _ _ => Reads.append) (.cons reads_entryFor .nil)

/-- The table after some rounds of the loop of `rulesTableRead`. -/
structure ReadSoFar (array n : Nat) (t : RulesTable) : Prop where
  number : t.numTagEntries = NUM_DEFAULT_COMMANDS
  current : t.tagEntryArray = some array
  entries : ∃ entries, entries.length = NUM_DEFAULT_COMMANDS ∧
    t.arrays.get array = some entries ∧
    List.Forall₂ (Reads t.strings) (entries.take n) (defaultCommands.take n)

/-- One more of the default rules is read. -/
lemma ReadSoFar.round (h : ReadSoFar array i t) (hi : i < NUM_DEFAULT_COMMANDS) :
    Barring .outOfMemory (ReadSoFar array (i + 1)) (readCommand mem t i) := by
  obtain ⟨entries, length, live, reads⟩ := h.entries
  have opened : Open t array i entries := ⟨h.current, live, length ▸ hi⟩
  have at_i : defaultCommands[i]? = some defaultCommands[i] := List.getElem?_eq_getElem hi
  apply (opened.readCommand at_i (defaultCommands_fit (List.getElem_mem hi))).mono
  rintro _ rfl
  obtain ⟨current, live⟩ := @Open.withRule_array _ _ _ _ opened defaultCommands[i]
  refine ⟨h.number, current, _, (List.length_set ..).trans length, live, ?_⟩
  have before : (entries.set i (entryFor t.strings.length defaultCommands[i])).take (i + 1) =
      entries.take i ++ [entryFor t.strings.length defaultCommands[i]] := by
    rw [List.take_add_one, List.take_set_of_le (Nat.le_refl i),
      List.getElem?_set_self (length ▸ hi)]
    rfl
  rw [before, List.take_add_one, at_i]
  exact List.rel_append (reads.imp fun _ _ => Reads.append) (.cons reads_entryFor .nil)

/-- The table that is read represents the built-in rules. -/
lemma rulesTableRead_represents :
    Barring .outOfMemory (fun r => r.1 = r.2.numTagEntries ∧ Represents r.2 defaultCommands)
      (t.rulesTableRead mem) := by
  unfold rulesTableRead
  have three : Bounded 3 := Nat.lt_of_sub_ne_zero (by decide)
  apply (mallocArray_fresh three).bind
  rintro _ ⟨bounded, fresh, length, rfl⟩
  have loop := Barring.foldlM_range (e := Fault.outOfMemory) (n := NUM_DEFAULT_COMMANDS)
    (I := ReadSoFar t.arrays.length) (f := readCommand mem)
    (a := ⟨NUM_DEFAULT_COMMANDS, some t.arrays.length, t.arrays.alloc fresh, t.strings⟩)
    ⟨rfl, rfl, fresh, length, Blocks.get_alloc, .nil⟩ fun i hi s hs => hs.round hi
  apply loop.bind
  rintro s ⟨number, current, entries, length, live, reads⟩
  have rows := rows_eq current live
  rw [List.take_of_length_le (Nat.le_of_eq length)] at reads
  refine .ok ⟨rfl, ⟨⟨_, current, rows ▸ live⟩, ?_, ?_⟩, ?_⟩
  · rw [number, rows, length]
  · rw [number]
    exact bounded
  · rw [rows]
    exact reads

/-- Related elements are changed in the same place. -/
lemma forall₂_modify {α β : Type} {R : α → β → Prop} {f : α → α} {g : β → β} {l : List α}
    {m : List β} (h : List.Forall₂ R l m) (step : ∀ a b, R a b → R (f a) (g b)) :
    List.Forall₂ R (l.modify i f) (m.modify i g) := by
  induction h generalizing i with
  | nil =>
    cases i with
    | zero => exact .nil
    | succ i => exact .nil
  | cons hab h ih =>
    cases i with
    | zero => exact .cons (step _ _ hab) h
    | succ i => exact .cons hab ih

/-- The table with another flag at entry `i`. -/
structure Enabled (t t' : RulesTable) (i : Nat) (enable : BYTE) : Prop where
  live : Live t'
  rows : t'.rows = t.rows.modify i fun e => { e with enabled := enable }
  strings : t'.strings = t.strings

/-- An entry of the table can be enabled. -/
lemma Live.rulesTableEntryEnable (h : Live t) {index : Int} {enable} (low : 0 ≤ index)
    (high : index < t.numTagEntries) :
    ∃ t', t.rulesTableEntryEnable index enable = .ok t' ∧ Enabled t t' index.toNat enable := by
  obtain ⟨array, current, live⟩ := h.array
  obtain ⟨i, rfl⟩ := Int.eq_ofNat_of_zero_le low
  have inside : i < t.rows.length := by
    rw [← h.number]
    omega
  unfold RulesTable.rulesTableEntryEnable
  rw [current, assign_eq live inside, Int.toNat_natCast]
  refine ⟨_, rfl, ?_⟩
  generalize changed : RulesTable.mk _ _ _ _ = t'
  have current' : t'.tagEntryArray = some array := by
    rw [← changed]
    exact current
  have live' : t'.arrays.get array =
      some (t.rows.modify i fun e => { e with enabled := enable }) := by
    rw [← changed]
    exact Blocks.get_put live
  have number : t'.numTagEntries = t.numTagEntries := by rw [← changed]
  have rows := rows_eq current' live'
  refine ⟨⟨⟨array, current', by rw [rows]; exact live'⟩, ?_, ?_⟩, rows, by rw [← changed]⟩
  · rw [number, rows, List.length_modify]
    exact h.number
  · rw [number]
    exact h.bounded

/-- The rules with another flag at entry `i`. -/
def enableRule (rules : List Rule) (i : Nat) (enable : BYTE) : List Rule :=
  rules.modify i fun r => { r with enabled := enable }

/-- An entry that was enabled is the rule that is enabled. -/
lemma Represents.enabled {t' rules enable} (h : Represents t rules)
    (enabled : Enabled t t' i enable) : Represents t' (enableRule rules i enable) where
  live := enabled.live
  reads := by
    rw [enabled.rows, enabled.strings]
    exact forall₂_modify h.reads fun e r own => { own with enabled := rfl }

/-- There are as many entries as rules. -/
lemma Represents.number {rules} (h : Represents t rules) : t.numTagEntries = rules.length := by
  rw [h.live.number]
  exact h.reads.length_eq

/-- There is an entry exactly at the indices of rules. -/
lemma Represents.get_iff {rules} {index : Int} (h : Represents t rules) :
    t.rulesTableEntryGet index ≠ none ↔ 0 ≤ index ∧ index < rules.length := by
  obtain ⟨array, current, _⟩ := h.live.array
  unfold rulesTableEntryGet
  rw [current, h.number]
  dsimp only
  split
  next inside => simpa using inside
  next outside => simpa using outside

/-- A text that is there can be read. -/
lemma text_eq {p text} (h : (t.strings.get p).bind StringBlock.text = some text) :
    t.text p = .ok text := by
  rw [RulesTable.text, h]

/-- The entry for a rule can be read. -/
lemma Represents.entry {rules r} (h : Represents t rules) (at_i : rules[i]? = some r) :
    ∃ e, t.entry t.tagEntryArray i = .ok e ∧ Reads t.strings e r := by
  obtain ⟨array, current, live⟩ := h.live.array
  obtain ⟨inside, rfl⟩ := List.getElem?_eq_some_iff.1 at_i
  have inside' : i < t.rows.length := by
    rw [h.reads.length_eq]
    exact inside
  refine ⟨t.rows[i], ?_, (List.forall₂_iff_get.1 h.reads).2 i inside' inside⟩
  rw [current]
  exact entry_eq live (List.getElem?_eq_getElem inside')

/-- What is read back is the rule. -/
lemma Represents.readBack {rules pointer} {index : Int} (h : Represents t rules)
    (get : t.rulesTableEntryGet index = some pointer) :
    ∃ rule, rules[index.toNat]? = some rule ∧ t.readBack pointer = .ok rule := by
  obtain ⟨low, high⟩ := h.get_iff.1 (by rw [get]; nofun)
  obtain ⟨array, current, _⟩ := h.live.array
  obtain ⟨i, rfl⟩ := Int.eq_ofNat_of_zero_le low
  have at_i : rules[i]? = some rules[i] := List.getElem?_eq_getElem (by omega)
  obtain ⟨e, entry, reads⟩ := h.entry at_i
  have here : pointer = (array, i) := by
    rw [rulesTableEntryGet, current] at get
    dsimp only at get
    rw [if_pos ⟨low, by rw [h.number]; exact high⟩] at get
    exact (Option.some.inj get).symm
  refine ⟨rules[i], at_i, ?_⟩
  rw [current] at entry
  rw [here, RulesTable.readBack, entry]
  show (do return Rule.mk (← t.text _) (← t.text _) _ (← t.text _) _ : Except Fault Rule) = _
  rw [text_eq reads.IDRegex, text_eq reads.folder, text_eq reads.description,
    reads.scriptMatchType, reads.enabled]
  rfl

end

end RulesTable

/-- The calls that change the table. -/
inductive RulesOp where
  | rulesTableAddEntry
  | rulesTableEntryEnable (index : Int) (enable : BYTE)
deriving DecidableEq

namespace RulesOp
variable (mem : Malloc)

/-- The table after an operation. -/
def exec (t : RulesTable) : RulesOp → Except Fault RulesTable
  | rulesTableAddEntry => do
    let (_, t) ← t.rulesTableAddEntry mem
    return t
  | rulesTableEntryEnable index enable => t.rulesTableEntryEnable index enable

/-- What a call makes of the plain list of rules. -/
def update (rules : List Rule) : RulesOp → List Rule
  | rulesTableAddEntry => rules ++ [RulesTable.addedRule]
  | rulesTableEntryEnable index enable => RulesTable.enableRule rules index.toNat enable

/-- A call changes only what it should: it adds a disabled entry at the end, or sets a flag. -/
def Changes (t t' : RulesTable) : RulesOp → Prop
  | rulesTableAddEntry => ∃ e, e.enabled = 0 ∧ e.scriptMatchType = TAG_ID_MATCH ∧
    t'.rows = t.rows ++ [e]
  | rulesTableEntryEnable index enable =>
    t'.rows = t.rows.modify index.toNat fun e => { e with enabled := enable }

end RulesOp

/-- The table after `rulesTableRead` and some calls. -/
def tableAfter (mem : Malloc) (ops : List RulesOp) : Except Fault RulesTable := do
  let (_, t) ← RulesTable.init.rulesTableRead mem
  ops.foldlM (RulesOp.exec mem) t

/-- The plain list of rules after some calls. -/
def rulesAfter (ops : List RulesOp) : List Rule := ops.foldl RulesOp.update defaultCommands

/-- How often a rule was added. -/
def additions (ops : List RulesOp) : Nat := ops.count .rulesTableAddEntry

/-- Rules are enabled and disabled at the indices of existing entries only. -/
def Indexed (ops : List RulesOp) : Prop :=
  ∀ before (index : Int) enable after,
    ops = before ++ .rulesTableEntryEnable index enable :: after →
    0 ≤ index ∧ index < NUM_DEFAULT_COMMANDS + additions before

section
variable {mem : Malloc} {ops : List RulesOp} {t : RulesTable}

/-- The last operation comes after the others. -/
lemma tableAfter_concat {op} :
    tableAfter mem (ops ++ [op]) = tableAfter mem ops >>= fun t => op.exec mem t := by
  unfold tableAfter
  cases RulesTable.init.rulesTableRead mem with
  | error e => rfl
  | ok r =>
    show (ops ++ [op]).foldlM (RulesOp.exec mem) r.2 = ops.foldlM (RulesOp.exec mem) r.2 >>= _
    rw [List.foldlM_append]
    congr 1
    funext t
    rw [List.foldlM_cons]
    cases op.exec mem t with
    | error e => rfl
    | ok t' => rfl

/-- The last operation comes after the others. -/
lemma rulesAfter_concat {op} : rulesAfter (ops ++ [op]) = op.update (rulesAfter ops) := by
  rw [rulesAfter, List.foldl_append]
  rfl

/-- There are the default rules and those that were added. -/
lemma rulesAfter_length : (rulesAfter ops).length = NUM_DEFAULT_COMMANDS + additions ops := by
  induction ops using List.reverseRecOn with
  | nil => rfl
  | append_singleton ops op ih =>
    rw [rulesAfter_concat, additions, List.count_append]
    cases op with
    | rulesTableAddEntry =>
      rw [RulesOp.update, List.length_append, ih]
      rfl
    | rulesTableEntryEnable index enable =>
      rw [RulesOp.update, RulesTable.enableRule, List.length_modify, ih]
      rfl

/-- A call does to the list of rules what it should, and keeps all texts. -/
structure RulesOp.Steps (op : RulesOp) (rules : List Rule) (t t' : RulesTable) : Prop where
  represents : t'.Represents (op.update rules)
  changes : op.Changes t t'
  texts : ∀ p block, t.strings.get p = some block → t'.strings.get p = some block

/-- An operation on a table does to it what it does to the list of rules. -/
lemma RulesOp.steps {op : RulesOp} {rules} (h : t.Represents rules)
    (indexed : ∀ (index : Int) enable, op = .rulesTableEntryEnable index enable →
      0 ≤ index ∧ index < rules.length) :
    Barring .outOfMemory (op.Steps rules t) (op.exec mem t) := by
  cases op with
  | rulesTableAddEntry =>
    apply h.live.rulesTableAddEntry.bind
    rintro ⟨_, t'⟩ ⟨_, added⟩
    refine .ok ⟨h.added added, ⟨_, rfl, rfl, added.rows⟩, ?_⟩
    intro p block found
    rw [added.strings]
    exact Blocks.get_append found
  | rulesTableEntryEnable index enable =>
    obtain ⟨low, high⟩ := indexed index enable rfl
    obtain ⟨t', run, enabled⟩ :=
      @RulesTable.Live.rulesTableEntryEnable t h.live index enable low (h.number ▸ high)
    refine .of_eq run ⟨h.enabled enabled, enabled.rows, ?_⟩
    intro p block found
    rw [enabled.strings]
    exact found

/-- Without operations there is no index. -/
lemma indexed_nil : Indexed [] := by
  intro before index enable after e
  cases before with
  | nil => cases e
  | cons op before => cases e

/-- The indices of the first operations were inside. -/
lemma Indexed.before {before after : List RulesOp} (h : Indexed (before ++ after)) :
    Indexed before := by
  rintro first index enable rest rfl
  exact h first index enable (rest ++ after) (by simp)

/-- The index of the last operation is inside of the list. -/
lemma Indexed.last {index : Int} {enable}
    (h : Indexed (ops ++ [.rulesTableEntryEnable index enable])) :
    0 ≤ index ∧ index < (rulesAfter ops).length := by
  rw [rulesAfter_length]
  exact h ops index enable [] rfl

/-- The last call of a run. -/
lemma Indexed.steps {op} (h : Indexed (ops ++ [op])) (represents : t.Represents (rulesAfter ops)) :
    Barring .outOfMemory (op.Steps (rulesAfter ops) t) (op.exec mem t) := by
  apply RulesOp.steps represents
  rintro index enable rfl
  exact h.last

/-- Unless the memory runs out, the table represents the plain list. -/
theorem tableAfter_represents (indexed : Indexed ops) :
    Barring .outOfMemory (RulesTable.Represents · (rulesAfter ops)) (tableAfter mem ops) := by
  induction ops using List.reverseRecOn with
  | nil =>
    apply RulesTable.rulesTableRead_represents.bind
    rintro ⟨_, t⟩ ⟨_, represents⟩
    exact .ok represents
  | append_singleton ops op ih =>
    rw [tableAfter_concat, rulesAfter_concat]
    apply (ih indexed.before).bind
    intro t represents
    exact (indexed.steps represents).mono fun _ steps => steps.represents

/-- The table behaves as the plain list of rules that the calls make. -/
structure IsList (mem : Malloc) (ops : List RulesOp) (t : RulesTable) : Prop where
  number : t.rulesTableNumber = NUM_DEFAULT_COMMANDS + additions ops
  get : ∀ index : Int, t.rulesTableEntryGet index ≠ none ↔
    0 ≤ index ∧ index < (NUM_DEFAULT_COMMANDS + additions ops : Nat)
  /-- nothing is freed that an entry refers to, and the entries are those of the list -/
  readBack : ∀ (index : Int) pointer, t.rulesTableEntryGet index = some pointer →
    ∃ rule, (rulesAfter ops)[index.toNat]? = some rule ∧ t.readBack pointer = .ok rule
  /-- the last call has changed no other field, and no text -/
  last : ∀ before op, ops = before ++ [op] → ∃ t0, tableAfter mem before = .ok t0 ∧
    op.Changes t0 t ∧ ∀ p block, t0.strings.get p = some block → t.strings.get p = some block

/-- Unless the memory runs out, the table behaves as a list. -/
theorem table_is_list (indexed : Indexed ops) (served : tableAfter mem ops ≠ .error .outOfMemory) :
    ∃ t, tableAfter mem ops = .ok t ∧ IsList mem ops t := by
  obtain ⟨t, run, represents⟩ := (tableAfter_represents indexed).success served
  refine ⟨t, run, ?_, ?_, fun index pointer => represents.readBack, ?_⟩
  · exact represents.number.trans rulesAfter_length
  · intro index
    rw [← rulesAfter_length]
    exact represents.get_iff
  · rintro before op rfl
    rw [tableAfter_concat] at run
    have first := @tableAfter_represents mem before indexed.before
    generalize tableAfter mem before = x at first run
    cases first with
    | error => cases run
    | @ok t0 represents0 =>
      have run : op.exec mem t0 = .ok t := run
      have steps := @Indexed.steps mem before t0 op indexed represents0
      rw [run] at steps
      cases steps with
      | ok steps => exact ⟨t0, rfl, steps.changes, steps.texts⟩

end

/-- All requests for memory are served. -/
def plenty : Malloc := ⟨fun _ _ => true, fun _ _ => ⟨0, 0, 0, 0, 0⟩⟩

/-- A table that is there has got its memory. -/
lemma served_of_isOk {mem : Malloc} {ops} (ok : (tableAfter mem ops).isOk = true) :
    tableAfter mem ops ≠ .error .outOfMemory := by
  intro failed
  rw [failed] at ok
  cases ok

/-- A rule is added and enabled. -/
theorem table_is_list_added :
    ∃ t, tableAfter plenty [.rulesTableAddEntry, .rulesTableEntryEnable 4 1] = .ok t ∧
      IsList plenty [.rulesTableAddEntry, .rulesTableEntryEnable 4 1] t := by
  apply table_is_list
  · intro before index enable after e
    rcases before with _ | ⟨op, before⟩
    · cases e
    · rcases before with _ | ⟨op', before⟩
      · cases e
        decide
      · cases before <;> cases e
  · exact served_of_isOk rfl

end TagEventor
