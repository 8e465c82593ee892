import Mathlib.Algebra.Order.Ring.Int
import TagEventor.Lib.Barring
import TagEventor.Lib.Blocks
import TagEventor.Reader.Types

/-!
# The table of rules

`rulesTable.c` keeps its rules in an array of entries that is allocated anew for every rule that is
added, and the texts of an entry in three blocks of its own. A run of it ends in a `Fault` where the
memory runs out, and where it uses a block that is freed or not large enough. Unless the memory runs
out, an addition copies all entries and fills in one more (`Live.rulesTableAddEntry`).
-/

namespace TagEventor

/-- The number of default rules. -/
def NUM_DEFAULT_COMMANDS : Nat := 4
/-- The folder for the scripts of the application. -/
def DEFAULT_COMMAND_DIR : CString := "/Library/Application Support/tagEventor".toList

/-- `sizeof( tUID )`. -/
def SIZEOF_TUID : Nat := 20
/-- The size of a path. -/
def PATH_MAX : Nat := 4096
/-- The size of a description. -/
def MAX_DESCRIPTION_LENGTH : Nat := 80

/-- The script has the UID of the tag as its name. -/
def TAG_ID_MATCH : Int := 1
/-- The script has a fixed name. -/
def GENERIC_MATCH : Int := 2

/-- `tRulesTableEntry`, with pointers to its texts. -/
structure tRulesTableEntry where
  IDRegex : Nat
  folder : Nat
  scriptMatchType : Int
  description : Nat
  enabled : BYTE
deriving DecidableEq

/-- `sizeof(tRulesTableEntry)`. -/
def SIZEOF_ENTRY : Nat := 40

/-- An entry with its texts. -/
structure Rule where
  IDRegex : CString
  folder : CString
  scriptMatchType : Int
  description : CString
  enabled : BYTE
deriving DecidableEq

/-- The rules that every table begins with. -/
def defaultCommands : List Rule := [
  ⟨['*'], DEFAULT_COMMAND_DIR, GENERIC_MATCH,
    "Match any tag, then run script named 'generic' in application script dir".toList, 1⟩,
  ⟨['*'], DEFAULT_COMMAND_DIR, TAG_ID_MATCH,
    "Match any tag, then run script named $tagUID   in application script dir".toList, 1⟩,
  ⟨['*'], "./scripts".toList, GENERIC_MATCH,
    "Match any tag, then run script named 'generic' in './scripts/'".toList, 1⟩,
  ⟨['*'], "./scripts".toList, TAG_ID_MATCH,
    "Match any tag, then run script named $tagUID   in './scripts/'".toList, 1⟩]

/-- How a run can fail. -/
inductive Fault where
  | outOfMemory
  /-- an access through a `NULL` pointer, to a freed block, or outside of a block -/
  | badAccess
deriving DecidableEq

/-- A block for a text, `none` before something is written to it. -/
structure StringBlock where
  size : Nat
  text : Option CString
deriving DecidableEq

/-- Which requests `malloc` can serve, by their number and their size, and what is found in the new
arrays. -/
structure Malloc where
  serves : Nat → Nat → Bool
  stale : Nat → Nat → tRulesTableEntry

/-- No object is larger than that. -/
def PTRDIFF_MAX : Nat := 2 ^ 63 - 1

/-- The static variables of `rulesTable.c`, and the blocks it has allocated. -/
structure RulesTable where
  numTagEntries : Nat
  tagEntryArray : Option Nat
  arrays : Blocks (List tRulesTableEntry)
  strings : Blocks StringBlock

namespace RulesTable

/-- The table at the start of the program. -/
def init : RulesTable := ⟨0, none, [], []⟩

section
variable (mem : Malloc) (t : RulesTable)

/-- A request for memory is served. -/
def serves (size : Nat) : Bool :=
  size ≤ PTRDIFF_MAX && mem.serves (t.arrays.length + t.strings.length) size

/-- `malloc` of an array of entries; the size is an `int` that is converted to a `size_t`. -/
def mallocArray (size : Int) : Except Fault (Nat × RulesTable) :=
  let size := (size % 2 ^ 64).toNat
  let fresh := (List.range (size / SIZEOF_ENTRY)).map (mem.stale t.arrays.length)
  if t.serves mem size then .ok (t.arrays.length, { t with arrays := t.arrays.alloc fresh })
  else .error .outOfMemory

/-- `malloc` of a text. -/
def mallocString (size : Nat) : Except Fault (Nat × RulesTable) :=
  if t.serves mem size then
    .ok (t.strings.length, { t with strings := t.strings.alloc ⟨size, none⟩ })
  else .error .outOfMemory

/-- `free` of an array; nothing happens to `NULL`. -/
def free : Option Nat → Except Fault RulesTable
  | none => .ok t
  | some array =>
    match t.arrays.get array with
    | some _ => .ok { t with arrays := t.arrays.free array }
    | none => .error .badAccess

/-- Read `array[i]`. -/
def entry (array : Option Nat) (i : Int) : Except Fault tRulesTableEntry :=
  match array.bind t.arrays.get with
  | some entries =>
    if 0 ≤ i then
      match entries[i.toNat]? with
      | some e => .ok e
      | none => .error .badAccess
    else .error .badAccess
  | none => .error .badAccess

/-- Assign to fields of `array[i]`. -/
def assign (array : Option Nat) (i : Int) (set : tRulesTableEntry → tRulesTableEntry) :
    Except Fault RulesTable :=
  match array with
  | some p =>
    match t.arrays.get p with
    | some entries =>
      if 0 ≤ i ∧ i < entries.length then
        .ok { t with arrays := t.arrays.put p (entries.modify i.toNat set) }
      else .error .badAccess
    | none => .error .badAccess
  | none => .error .badAccess

/-- `sprintf` or `strcpy` of a text. -/
def write (p : Nat) (text : CString) : Except Fault RulesTable :=
  match t.strings.get p with
  | some s =>
    if text.length < s.size then .ok { t with strings := t.strings.put p { s with text } }
    else .error .badAccess
  | none => .error .badAccess

/-- The text at a pointer. -/
def text (p : Nat) : Except Fault CString :=
  match (t.strings.get p).bind StringBlock.text with
  | some text => .ok text
  | none => .error .badAccess

/-- `tagEntryArray[i].field = malloc( size )`. -/
def mallocField (i size : Nat) (set : Nat → tRulesTableEntry → tRulesTableEntry) :
    Except Fault RulesTable := do
  let (p, t) ← t.mallocString mem size
  t.assign t.tagEntryArray i (set p)

/-- `strcpy( tagEntryArray[i].field, text )`. -/
def writeField (i : Nat) (field : tRulesTableEntry → Nat) (text : CString) :
    Except Fault RulesTable := do
  t.write (field (← t.entry t.tagEntryArray i)) text

/-- `to[i].field = from[i].field`. -/
def copyField (source : Option Nat) (target i : Nat)
    (copy : tRulesTableEntry → tRulesTableEntry → tRulesTableEntry) : Except Fault RulesTable := do
  t.assign (some target) i (copy (← t.entry source i))

/-- The body of the loop of `rulesTableAddEntry`. -/
def copyEntry (source : Option Nat) (target : Nat) (t : RulesTable) (i : Nat) :
    Except Fault RulesTable := do
  let t ← t.copyField source target i fun e n => { n with IDRegex := e.IDRegex }
  let t ← t.copyField source target i fun e n => { n with folder := e.folder }
  let t ← t.copyField source target i fun e n => { n with scriptMatchType := e.scriptMatchType }
  let t ← t.copyField source target i fun e n => { n with description := e.description }
  t.copyField source target i fun e n => { n with enabled := e.enabled }

/-- The size of an array of entries, as an `int`. -/
def arraySize (numTagEntries : Nat) : Int :=
  ((numTagEntries * SIZEOF_ENTRY : Nat) : Int).bmod (2 ^ 32)

/-- The part of `rulesTableAddEntry` that fills in the new entry. -/
def newEntry (last : Nat) : Except Fault RulesTable := do
  let t ← t.mallocField mem last SIZEOF_TUID fun p e => { e with IDRegex := p }
  let t ← t.writeField last tRulesTableEntry.IDRegex "Tag ID Match Regexp".toList
  let t ← t.mallocField mem last PATH_MAX fun p e => { e with folder := p }
  let t ← t.writeField last tRulesTableEntry.folder DEFAULT_COMMAND_DIR
  let t ← t.mallocField mem last MAX_DESCRIPTION_LENGTH fun p e => { e with description := p }
  let t ← t.writeField last tRulesTableEntry.description "A generic tagID match command".toList
  let t ← t.assign t.tagEntryArray last fun e => { e with enabled := 0 }
  t.assign t.tagEntryArray last fun e => { e with scriptMatchType := TAG_ID_MATCH }

/-- The table is copied into a larger array, with a new entry behind the others. -/
def rulesTableAddEntry : Except Fault (Nat × RulesTable) := do
  -- the counter is incremented first
  let t := { t with numTagEntries := t.numTagEntries + 1 }
  let (newTagEntryArray, t) ← t.mallocArray mem (arraySize t.numTagEntries)
  let t ← (List.range (t.numTagEntries - 1)).foldlM (copyEntry t.tagEntryArray newTagEntryArray) t
  let t ← t.free t.tagEntryArray
  let t := { t with tagEntryArray := some newTagEntryArray }
  let t ← t.newEntry mem (t.numTagEntries - 1)
  return (t.numTagEntries, t)

/-- An entry is enabled or disabled; the index is not checked. -/
def rulesTableEntryEnable (index : Int) (enable : BYTE) : Except Fault RulesTable :=
  t.assign t.tagEntryArray index fun e => { e with enabled := enable }

/-- `rulesTableEntryGet`; a pointer to an entry is its array and its index. -/
def rulesTableEntryGet (index : Int) : Option (Nat × Nat) :=
  match t.tagEntryArray with
  | none => none
  | some array => if 0 ≤ index ∧ index < t.numTagEntries then some (array, index.toNat) else none

/-- The number of entries. -/
def rulesTableNumber : Nat := t.numTagEntries

/-- The body of the loop of `rulesTableRead`. -/
def readCommand (t : RulesTable) (i : Nat) : Except Fault RulesTable := do
  let command := defaultCommands.getD i ⟨[], [], 0, [], 0⟩
  let t ← t.mallocField mem i SIZEOF_TUID fun p e => { e with IDRegex := p }
  let t ← t.mallocField mem i PATH_MAX fun p e => { e with folder := p }
  let t ← t.mallocField mem i MAX_DESCRIPTION_LENGTH fun p e => { e with description := p }
  let t ← t.writeField i tRulesTableEntry.IDRegex command.IDRegex
  let t ← t.writeField i tRulesTableEntry.folder command.folder
  let t ← t.writeField i tRulesTableEntry.description command.description
  let t ← t.assign t.tagEntryArray i fun e => { e with enabled := command.enabled }
  t.assign t.tagEntryArray i fun e => { e with scriptMatchType := command.scriptMatchType }

/-- The default rules are read into a new table. -/
def rulesTableRead : Except Fault (Nat × RulesTable) := do
  let t := { t with numTagEntries := NUM_DEFAULT_COMMANDS }
  let (array, t) ← t.mallocArray mem (arraySize t.numTagEntries)
  let t := { t with tagEntryArray := some array }
  let t ← (List.range t.numTagEntries).foldlM (readCommand mem) t
  return (t.numTagEntries, t)

end

/-- The entry that a pointer designates, with its texts. -/
def readBack (t : RulesTable) (pointer : Nat × Nat) : Except Fault Rule := do
  let e ← t.entry (some pointer.1) pointer.2
  return ⟨← t.text e.IDRegex, ← t.text e.folder, e.scriptMatchType, ← t.text e.description,
    e.enabled⟩

end RulesTable

namespace RulesTable

section
variable {mem : Malloc} {t : RulesTable} {array i size : Nat} {entries : List tRulesTableEntry}

/-- An entry of a live array can be read. -/
lemma entry_eq {e} (live : t.arrays.get array = some entries) (at_i : entries[i]? = some e) :
    t.entry (some array) i = .ok e := by
  simp [entry, live, at_i]

/-- An entry of a live array can be changed. -/
lemma assign_eq {set} (live : t.arrays.get array = some entries) (hi : i < entries.length) :
    t.assign (some array) i set =
      .ok { t with arrays := t.arrays.put array (entries.modify i set) } := by
  simp [assign, live, hi]

/-- The table while entry `i` of its array is filled in: the entry is `e` so far, and the blocks
`more` were allocated for its texts. -/
def filled (t : RulesTable) (array i : Nat) (entries : List tRulesTableEntry)
    (e : tRulesTableEntry) (more : Blocks StringBlock) : RulesTable :=
  { t with
    arrays := t.arrays.put array (entries.set i e)
    strings := t.strings ++ more }

/-- The state in which an entry can be filled in. -/
structure Open (t : RulesTable) (array i : Nat) (entries : List tRulesTableEntry) : Prop where
  current : t.tagEntryArray = some array
  live : t.arrays.get array = some entries
  inside : i < entries.length

variable {e : tRulesTableEntry} {more : Blocks StringBlock}

/-- An entry that is filled leaves the array open. -/
lemma Open.filled (h : Open t array i entries) :
    Open (t.filled array i entries e more) array i (entries.set i e) where
  current := h.current
  live := Blocks.get_put h.live
  inside := by
    rw [List.length_set]
    exact h.inside

/-- Nothing is filled in at first. -/
lemma Open.start (h : Open t array i entries) : ∃ e, t = t.filled array i entries e [] := by
  refine ⟨entries.get ⟨i, h.inside⟩, ?_⟩
  unfold RulesTable.filled
  rw [List.get_eq_getElem, List.set_getElem_self, Blocks.put_self h.live, List.append_nil]

/-- A change of an entry that was just stored. -/
lemma set_modify {f : tRulesTableEntry → tRulesTableEntry} :
    (entries.set i e).modify i f = entries.set i (f e) := by
  apply List.ext_getElem?
  intro j
  rw [List.getElem?_modify, List.getElem?_set, List.getElem?_set]
  by_cases hj : i = j
  · by_cases inside : i < entries.length
    · simp [hj, hj ▸ inside]
    · simp [hj, hj ▸ inside]
  · simp [hj]

/-- Assigning to a field. -/
lemma Open.assign (h : Open t array i entries) {set} :
    (t.filled array i entries e more).assign (t.filled array i entries e more).tagEntryArray i set =
      .ok (t.filled array i entries (set e) more) := by
  have opened := @Open.filled t array i entries e more h
  rw [opened.current, assign_eq opened.live opened.inside, set_modify]
  show Except.ok { t with arrays := (t.arrays.put _ _).put _ _, strings := _ } = _
  rw [Blocks.put_put]
  rfl

/-- A block is allocated for a text. -/
lemma Open.mallocField (h : Open t array i entries) {set} :
    Barring .outOfMemory
      (· = t.filled array i entries (set (t.strings.length + more.length) e)
        (more ++ [some ⟨size, none⟩]))
      ((t.filled array i entries e more).mallocField mem i size set) := by
  unfold RulesTable.mallocField mallocString
  split
  · have next := @Open.assign t array i entries e (more ++ [some ⟨size, none⟩]) h
      (set (t.strings.length + more.length))
    refine Barring.of_eq ?_ rfl
    rw [← next]
    show RulesTable.assign _ _ _ _ = _
    have length : (t.filled array i entries e more).strings.length =
        t.strings.length + more.length := List.length_append
    have strings : (t.filled array i entries e more).strings.alloc ⟨size, none⟩ =
        t.strings ++ (more ++ [some ⟨size, none⟩]) := List.append_assoc ..
    rw [length, strings]
    rfl
  · exact .error

/-- A text is written to its block. -/
lemma Open.writeField (h : Open t array i entries) {field : tRulesTableEntry → Nat} {text k}
    (own : field e = t.strings.length + k) (block : more[k]? = some (some ⟨size, none⟩))
    (fits : text.length < size) :
    (t.filled array i entries e more).writeField i field text =
      .ok (t.filled array i entries e (more.set k (some ⟨size, some text⟩))) := by
  have opened := @Open.filled t array i entries e more h
  have read : (t.filled array i entries e more).entry
      (t.filled array i entries e more).tagEntryArray i = .ok e := by
    rw [opened.current]
    exact entry_eq opened.live (by rw [List.getElem?_set_self h.inside])
  have found : (t.strings ++ more).get (t.strings.length + k) = some ⟨size, none⟩ := by
    rw [Blocks.get, List.getElem?_append_right (Nat.le_add_right _ _), Nat.add_sub_cancel_left,
      block]
    rfl
  unfold RulesTable.writeField
  rw [read]
  show RulesTable.write _ (field e) text = _
  unfold RulesTable.write
  have strings : (t.filled array i entries e more).strings = t.strings ++ more := rfl
  rw [own, strings, found]
  dsimp only
  rw [if_pos fits, Blocks.put, List.set_append_right _ _ (Nat.le_add_right _ _),
    Nat.add_sub_cancel_left]
  rfl

/-- The texts of the rule fit into the blocks that are allocated for them. -/
structure Fits (r : Rule) : Prop where
  IDRegex : r.IDRegex.length < SIZEOF_TUID
  folder : r.folder.length < PATH_MAX
  description : r.description.length < MAX_DESCRIPTION_LENGTH

/-- The entry for a rule whose texts are in the blocks from `base` on. -/
def entryFor (base : Nat) (r : Rule) : tRulesTableEntry :=
  ⟨base, base + 1, r.scriptMatchType, base + 2, r.enabled⟩

/-- The blocks for the texts of a rule. -/
def blocksFor (r : Rule) : Blocks StringBlock := [
  some ⟨SIZEOF_TUID, some r.IDRegex⟩,
  some ⟨PATH_MAX, some r.folder⟩,
  some ⟨MAX_DESCRIPTION_LENGTH, some r.description⟩]

/-- The table with a rule in entry `i`. -/
def withRule (t : RulesTable) (array i : Nat) (entries : List tRulesTableEntry) (r : Rule) :
    RulesTable :=
  t.filled array i entries (entryFor t.strings.length r) (blocksFor r)

/-- A default rule is read into its entry, if there is memory. -/
lemma Open.readCommand (h : Open t array i entries) {command}
    (at_i : defaultCommands[i]? = some command) (fits : Fits command) :
    Barring .outOfMemory (· = t.withRule array i entries command) (readCommand mem t i) := by
  obtain ⟨e, start⟩ := h.start
  suffices Barring .outOfMemory (· = t.withRule array i entries command)
      (RulesTable.readCommand mem (t.filled array i entries e []) i) by rwa [← start] at this
  unfold RulesTable.readCommand
  rw [List.getD_eq_getElem?_getD, at_i, Option.getD_some]
  apply h.mallocField.bind
  rintro _ rfl
  apply h.mallocField.bind
  rintro _ rfl
  apply h.mallocField.bind
  rintro _ rfl
  apply (Barring.of_eq (h.writeField (k := 0) rfl rfl fits.IDRegex) rfl).bind
  rintro _ rfl
  apply (Barring.of_eq (h.writeField (k := 1) rfl rfl fits.folder) rfl).bind
  rintro _ rfl
  apply (Barring.of_eq (h.writeField (k := 2) rfl rfl fits.description) rfl).bind
  rintro _ rfl
  apply (Barring.of_eq h.assign rfl).bind
  rintro _ rfl
  exact Barring.of_eq h.assign rfl

/-- The rule that is added. -/
def addedRule : Rule :=
  ⟨"Tag ID Match Regexp".toList, DEFAULT_COMMAND_DIR, TAG_ID_MATCH,
    "A generic tagID match command".toList, 0⟩

/-- The texts of an added rule fit into their blocks. -/
lemma addedRule_fits : Fits addedRule := ⟨by decide, by decide, by decide⟩

/-- A new entry is filled with the rule that is added, if there is memory. -/
lemma Open.newEntry (h : Open t array i entries) :
    Barring .outOfMemory (· = t.withRule array i entries addedRule) (t.newEntry mem i) := by
  obtain ⟨e, start⟩ := h.start
  have fits := addedRule_fits
  suffices Barring .outOfMemory (· = t.withRule array i entries addedRule)
      ((t.filled array i entries e []).newEntry mem i) by rwa [← start] at this
  unfold RulesTable.newEntry
  apply h.mallocField.bind
  rintro _ rfl
  apply (Barring.of_eq (h.writeField (k := 0) rfl rfl fits.IDRegex) rfl).bind
  rintro _ rfl
  apply h.mallocField.bind
  rintro _ rfl
  apply (Barring.of_eq (h.writeField (k := 1) rfl rfl fits.folder) rfl).bind
  rintro _ rfl
  apply h.mallocField.bind
  rintro _ rfl
  apply (Barring.of_eq (h.writeField (k := 2) rfl rfl fits.description) rfl).bind
  rintro _ rfl
  apply (Barring.of_eq h.assign rfl).bind
  rintro _ rfl
  exact Barring.of_eq h.assign rfl

/-- The texts of the default rules fit into their blocks. -/
lemma defaultCommands_fit {r} (mem : r ∈ defaultCommands) : Fits r := by
  simp only [defaultCommands, List.mem_cons, List.not_mem_nil, or_false] at mem
  rcases mem with rfl | rfl | rfl | rfl
  all_goals exact ⟨by decide, by decide, by decide⟩

/-- The table with something written to an array. -/
def copied (t : RulesTable) (target : Nat) (entries : List tRulesTableEntry) : RulesTable :=
  { t with arrays := t.arrays.put target entries }

variable {source target : Nat} {current : List tRulesTableEntry}

/-- A field is copied from the old array to the new one. -/
lemma copyField_eq {copy} (old : t.arrays.get source = some entries) (ne : target ≠ source)
    (new : t.arrays.get target ≠ none) (at_i : entries[i]? = some e) (hi : i < current.length) :
    (t.copied target current).copyField (some source) target i copy =
      .ok (t.copied target (current.modify i (copy e))) := by
  obtain ⟨fresh, live⟩ := Option.ne_none_iff_exists'.1 new
  have read : (t.copied target current).entry (some source) i = .ok e :=
    entry_eq ((Blocks.get_put_ne ne).trans old) at_i
  have write := @assign_eq (t.copied target current) target i current (copy e)
    (Blocks.get_put live) hi
  unfold copyField
  rw [read]
  refine write.trans ?_
  unfold copied
  dsimp only
  rw [Blocks.put_put]

/-- An entry is copied as a whole. -/
lemma copyEntry_copies (old : t.arrays.get source = some entries) (ne : target ≠ source)
    (new : t.arrays.get target ≠ none) (at_i : entries[i]? = some e) (hi : i < current.length) :
    Barring .outOfMemory (· = t.copied target (current.set i e))
      (copyEntry (some source) target (t.copied target current) i) := by
  have all : current.set i e = ((((current.modify i fun n => { n with IDRegex := e.IDRegex }).modify
      i fun n => { n with folder := e.folder }).modify
      i fun n => { n with scriptMatchType := e.scriptMatchType }).modify
      i fun n => { n with description := e.description }).modify
      i fun n => { n with enabled := e.enabled } := by
    simp only [List.modify_modify_eq]
    apply List.ext_getElem?
    intro j
    rw [List.getElem?_modify, List.getElem?_set]
    by_cases hj : i = j
    · subst hj
      simp [hi]
    · simp [hj]
  have step {current copy} (hi : i < List.length current) :
      Barring .outOfMemory (· = t.copied target (current.modify i (copy e)))
        ((t.copied target current).copyField (some source) target i copy) :=
    .of_eq (copyField_eq old ne new at_i hi) rfl
  have length {current : List tRulesTableEntry} {f} (hi : i < current.length) :
      i < (current.modify i f).length := by
    rw [List.length_modify]
    exact hi
  rw [all]
  unfold copyEntry
  apply (step hi).bind
  rintro _ rfl
  apply (step (length hi)).bind
  rintro _ rfl
  apply (step (length (length hi))).bind
  rintro _ rfl
  apply (step (length (length (length hi)))).bind
  rintro _ rfl
  exact @step _ (fun e n => { n with enabled := e.enabled }) (length (length (length (length hi))))

/-- The loop copies all entries. -/
lemma copyLoop_copies {fresh : List tRulesTableEntry} (old : t.arrays.get source = some entries)
    (ne : target ≠ source) (new : t.arrays.get target = some fresh)
    (room : entries.length ≤ fresh.length) :
    Barring .outOfMemory (· = t.copied target (entries ++ fresh.drop entries.length))
      ((List.range entries.length).foldlM (copyEntry (some source) target) t) := by
  have start : t = t.copied target (entries.take 0 ++ fresh.drop 0) := by
    unfold copied
    rw [List.take_zero, List.drop_zero, List.nil_append, Blocks.put_self new]
  have loop := Barring.foldlM_range (e := Fault.outOfMemory) (n := entries.length)
    (I := fun i s => s = t.copied target (entries.take i ++ fresh.drop i))
    (f := copyEntry (some source) target) start ?_
  · rwa [List.take_length] at loop
  rintro i hi _ rfl
  have length : (entries.take i).length = i := List.length_take_of_le (Nat.le_of_lt hi)
  have inside : i < fresh.length := Nat.lt_of_lt_of_le hi room
  have next : entries.take (i + 1) ++ fresh.drop (i + 1) =
      (entries.take i ++ fresh.drop i).set i entries[i] := by
    rw [List.take_add_one, List.getElem?_eq_getElem hi, List.drop_eq_getElem_cons inside,
      List.set_append_right _ _ (Nat.le_of_eq length), length, Nat.sub_self, List.append_assoc]
    rfl
  rw [next]
  apply copyEntry_copies old ne (by rw [new]; nofun) (List.getElem?_eq_getElem hi)
  rw [List.length_append, length, List.length_drop]
  omega

/-- The number of entries is such that the size of their array is positive as an `int`. -/
def Bounded (n : Nat) : Prop := n * SIZEOF_ENTRY < 2 ^ 31

/-- The size of an array as a `size_t`, if it is positive as an `int`. -/
lemma size_bounded {n : Nat} (bounded : Bounded n) :
    (arraySize n % 2 ^ 64).toNat = n * SIZEOF_ENTRY := by
  unfold Bounded at bounded
  unfold arraySize
  generalize n * SIZEOF_ENTRY = size at *
  have e : (size : Int).bmod (2 ^ 32) = size := by
    rw [Int.bmod_def]
    omega
  rw [e, Int.emod_eq_of_lt (Int.natCast_nonneg size) (by omega)]
  exact Int.toNat_natCast size

/-- The size that comes after all of these is negative as an `int`, and huge as a `size_t`. -/
lemma size_unbounded {n : Nat} (bounded : Bounded n) (next : ¬ Bounded (n + 1)) :
    PTRDIFF_MAX < (arraySize (n + 1) % 2 ^ 64).toNat := by
  unfold Bounded SIZEOF_ENTRY at *
  unfold arraySize SIZEOF_ENTRY PTRDIFF_MAX
  have e : (((n + 1) * 40 : Nat) : Int).bmod (2 ^ 32) = (((n + 1) * 40 : Nat) : Int) - 2 ^ 32 := by
    rw [Int.bmod_def]
    omega
  rw [e]
  omega

/-- An array for one more entry is never too small. -/
lemma mallocArray_fresh {n : Nat} (bounded : Bounded n) :
    Barring .outOfMemory (fun r => Bounded (n + 1) ∧ ∃ fresh, fresh.length = n + 1 ∧
        r = (t.arrays.length, { t with arrays := t.arrays.alloc fresh }))
      (t.mallocArray mem (arraySize (n + 1))) := by
  unfold mallocArray
  dsimp only
  by_cases next : Bounded (n + 1)
  · rw [size_bounded next]
    split
    · refine .ok ⟨next, _, ?_, rfl⟩
      rw [List.length_map, List.length_range]
      exact Nat.mul_div_cancel _ (by decide)
    · exact .error
  · have refused {size} (large : PTRDIFF_MAX < size) : t.serves mem size = false := by
      simp [serves, Nat.not_le.2 large]
    rw [refused (size_unbounded bounded next)]
    exact .error

/-- The entries of the table. -/
def rows (t : RulesTable) : List tRulesTableEntry := (t.tagEntryArray.bind t.arrays.get).getD []

/-- The table has an array that holds its entries. -/
structure Live (t : RulesTable) : Prop where
  array : ∃ array, t.tagEntryArray = some array ∧ t.arrays.get array = some t.rows
  number : t.numTagEntries = t.rows.length
  bounded : Bounded t.numTagEntries

/-- A table to which a rule was added at the end. -/
structure Added (t t' : RulesTable) (r : Rule) : Prop where
  live : Live t'
  rows : t'.rows = t.rows ++ [entryFor t.strings.length r]
  strings : t'.strings = t.strings ++ blocksFor r

/-- The rows are the entries of the array of the table. -/
lemma rows_eq (current : t.tagEntryArray = some array) (live : t.arrays.get array = some entries) :
    t.rows = entries := by
  unfold rows
  rw [current, Option.bind_some, live]
  rfl

/-- The table with a new array, into which the entries were copied, and which has room for one
more. -/
structure Grown (t t' : RulesTable) (array : Nat) (junk : tRulesTableEntry) : Prop where
  opened : Open t' array t.rows.length (t.rows ++ [junk])
  strings : t'.strings = t.strings
  number : t'.numTagEntries = t.rows.length + 1

/-- The rule is stored in the array of the table. -/
lemma Open.withRule_array (h : Open t array i entries) {r} :
    (t.withRule array i entries r).tagEntryArray = some array ∧
      (t.withRule array i entries r).arrays.get array =
        some (entries.set i (entryFor t.strings.length r)) :=
  ⟨h.current, Blocks.get_put h.live⟩

/-- A rule that is filled in after the array has grown is added. -/
lemma Grown.added {t' junk r} (h : Grown t t' array junk) (bounded : Bounded t'.numTagEntries) :
    Added t (t'.withRule array t.rows.length (t.rows ++ [junk]) r) r := by
  obtain ⟨current, live⟩ := @Open.withRule_array _ _ _ _ h.opened r
  rw [List.set_append_right _ _ (Nat.le_refl _), Nat.sub_self, h.strings] at live
  have live : (t'.withRule array t.rows.length (t.rows ++ [junk]) r).arrays.get array =
      some (t.rows ++ [entryFor t.strings.length r]) := live
  have entries := rows_eq current live
  refine ⟨⟨⟨array, current, by rw [entries]; exact live⟩, ?_, bounded⟩, entries, ?_⟩
  · rw [entries, List.length_append]
    exact h.number
  · show t'.strings ++ _ = _
    rw [h.strings]

/-- Once the entries are copied, the old array is freed, and the new one takes its place. -/
lemma grown_of_copied {old fresh junk} (live : t.arrays.get old = some t.rows) :
    ∃ t', (copied ⟨t.rows.length + 1, some old, t.arrays.alloc fresh, t.strings⟩ t.arrays.length
        (t.rows ++ [junk])).free (some old) = .ok t' ∧
      Grown t { t' with tagEntryArray := some t.arrays.length } t.arrays.length junk := by
  have ne : t.arrays.length ≠ old := Nat.ne_of_gt (Blocks.lt_of_get live)
  generalize copies : copied _ _ _ = t2
  have old2 : t2.arrays.get old = some t.rows := by
    rw [← copies]
    exact (Blocks.get_put_ne ne).trans (Blocks.get_append live)
  have new2 : (t2.arrays.free old).get t.arrays.length = some (t.rows ++ [junk]) := by
    rw [Blocks.get_free_ne ne.symm, ← copies]
    exact Blocks.get_put Blocks.get_alloc
  refine ⟨{ t2 with arrays := t2.arrays.free old }, ?_, ⟨rfl, new2, by simp⟩, ?_, ?_⟩
  · unfold RulesTable.free
    dsimp only
    rw [old2]
  · rw [← copies]
    rfl
  · rw [← copies]
    rfl

/-- The entry is added at the end, and the others are copied. -/
lemma Live.rulesTableAddEntry (h : Live t) :
    Barring .outOfMemory (fun r => r.1 = r.2.numTagEntries ∧ Added t r.2 addedRule)
      (t.rulesTableAddEntry mem) := by
  obtain ⟨old, current, live⟩ := h.array
  unfold RulesTable.rulesTableAddEntry
  apply (mallocArray_fresh h.bounded).bind
  rintro _ ⟨bounded, fresh, length, rfl⟩
  have number : t.numTagEntries = t.rows.length := h.number
  have ne : t.arrays.length ≠ old := Nat.ne_of_gt (Blocks.lt_of_get live)
  dsimp only
  rw [current, Nat.add_sub_cancel, number]
  -- the entries are copied to the new array
  have loop := @copyLoop_copies ⟨t.rows.length + 1, some old, t.arrays.alloc fresh, t.strings⟩
    t.rows old t.arrays.length fresh (Blocks.get_append live) ne Blocks.get_alloc (by omega)
  apply loop.bind
  rintro _ rfl
  obtain ⟨junk, drop⟩ : ∃ junk, fresh.drop t.rows.length = [junk] :=
    List.length_eq_one_iff.1 (by rw [List.length_drop]; omega)
  rw [drop]
  -- the old one is freed
  obtain ⟨t3, freed, grown⟩ := @grown_of_copied t old fresh junk live
  apply (Barring.of_eq freed rfl).bind
  rintro _ rfl
  -- the new entry is filled in
  have number3 : t3.numTagEntries = t.rows.length + 1 := grown.number
  generalize RulesTable.mk _ (some t.arrays.length) _ _ = t4 at grown ⊢
  rw [number3, Nat.add_sub_cancel]
  apply grown.opened.newEntry.bind
  rintro _ rfl
  refine .ok ⟨rfl, grown.added ?_⟩
  rw [grown.number, ← number]
  exact bounded

end

end RulesTable

end TagEventor
