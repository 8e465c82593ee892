import TagEventor.Rules.Dispatch

/-!
# The rules editor

`fillTable` of `rulesEditor.c` shows the rules from top to bottom in the order of their index, and
the window says that they are tested in that order. `rulesTableEventDispatch` tries them the other
way round, so the script that is started is the one the window promises exactly if the first and the
last usable rule have the same script (`follows_editor_iff`).
-/

namespace TagEventor
open Interact

/-- A row of widgets in the table of the window; the callbacks get the index of the entry. -/
structure EditorRow where
  row : Nat
  entryIndex : Nat
  description : CString
  IDRegex : CString
  folder : CString
  enabled : BYTE
deriving DecidableEq

namespace RulesTable
variable (t : RulesTable)

/-- The row for an entry of the table. -/
def tableAddRow (i : Nat) : Except Fault EditorRow := do
  match t.rulesTableEntryGet i with
  | none => .error .badAccess
  | some pTagEntry =>
    let e ← t.entry (some pTagEntry.1) pTagEntry.2
    return ⟨i + 1, i, ← t.text e.description, ← t.text e.IDRegex, ← t.text e.folder, e.enabled⟩

/-- `fillTable`; without rules there is only a label, otherwise the headers are in row 0. -/
def fillTable (numTags : Nat) : Except Fault (List EditorRow) :=
  if numTags = 0 then .ok [] else (List.range numTags).mapM t.tableAddRow

end RulesTable

/-- The row for a rule. -/
def rowFor (i : Nat) (r : Rule) : EditorRow :=
  ⟨i + 1, i, r.description, r.IDRegex, r.folder, r.enabled⟩

section
variable {t : RulesTable} {rules : List Rule}

/-- The row shows the rule. -/
lemma tableAddRow_row (h : t.Represents rules) {i r} (at_i : rules[i]? = some r) :
    t.tableAddRow i = .ok (rowFor i r) := by
  obtain ⟨e, entry, reads⟩ := h.entry at_i
  obtain ⟨array, current, _⟩ := h.live.array
  obtain ⟨inside, _⟩ := List.getElem?_eq_some_iff.1 at_i
  have get : t.rulesTableEntryGet i = some (array, i) := by
    rw [RulesTable.rulesTableEntryGet, current, h.number]
    exact if_pos ⟨Int.natCast_nonneg i, Int.ofNat_lt.2 inside⟩
  rw [current] at entry
  unfold RulesTable.tableAddRow
  rw [get]
  dsimp only
  rw [entry]
  show (do return EditorRow.mk _ _ (← t.text _) (← t.text _) (← t.text _) _ :
    Except Fault EditorRow) = _
  rw [RulesTable.text_eq reads.description, RulesTable.text_eq reads.IDRegex,
    RulesTable.text_eq reads.folder, reads.enabled]
  rfl

/-- A loop in which nothing fails. -/
lemma mapM_ok {f : Nat → Except Fault EditorRow} {g : Nat → EditorRow} {l : List Nat}
    (all : ∀ i ∈ l, f i = .ok (g i)) : l.mapM f = .ok (l.map g) := by
  induction l with
  | nil => rfl
  | cons i l ih =>
    have rest := ih fun j mem => all j (List.mem_cons_of_mem _ mem)
    rw [List.mapM_cons, all i List.mem_cons_self, rest]
    rfl

/-- The window shows rule `i` in row `i + 1`. -/
lemma fillTable_rows (h : t.Represents rules) :
    t.fillTable t.rulesTableNumber = .ok (rules.mapIdx rowFor) := by
  have number : t.rulesTableNumber = rules.length := h.number
  unfold RulesTable.fillTable
  rw [number]
  split
  next none =>
    rw [List.length_eq_zero_iff.1 none]
    rfl
  next some =>
    have rows : ∀ i ∈ List.range rules.length,
        t.tableAddRow i = .ok ((rules.mapIdx rowFor).getD i (rowFor 0 ⟨[], [], 0, [], 0⟩)) := by
      intro i mem
      have inside := List.mem_range.1 mem
      rw [tableAddRow_row h (List.getElem?_eq_getElem inside), List.getD_eq_getElem?_getD,
        List.getElem?_mapIdx, List.getElem?_eq_getElem inside]
      rfl
    rw [mapM_ok rows]
    congr 1
    apply List.ext_getElem?
    intro i
    by_cases inside : i < rules.length
    · simp [inside]
    · simp [inside]

/-- The rule is enabled, its script exists and can be forked. -/
def Usable (found : CString → Bool) (works : Nat → Int) (uid : CString) (rules : List Rule)
    (i : Nat) : Prop :=
  ∃ r, rules[i]? = some r ∧ r.enabled ≠ 0 ∧ found (scriptPath uid r) = true ∧ 0 ≤ works i

/-- The rules for which `fork` is called, in this order, with their indices. -/
def forkOrder (found : CString → Bool) (uid : CString) (rules : List Rule) : List (Rule × Nat) :=
  (rules.zipIdx.filter fun p => found (scriptPath uid p.1) && p.1.enabled ≠ 0).reverse

/-- What `fork` returns each time, if it returns `works i` for the rule at index `i`. -/
def forkResults (found : CString → Bool) (uid : CString) (rules : List Rule) (works : Nat → Int)
    (k : Nat) : Int :=
  ((forkOrder found uid rules)[k]?.map fun p => works p.2).getD (-1)

section
variable {found : CString → Bool} {works : Nat → Int} {uid event : CString}

/-- The rules for which `fork` is called are the candidates. -/
lemma forkOrder_candidates :
    (forkOrder found uid rules).map Prod.fst = candidates found uid rules.reverse := by
  unfold forkOrder candidates enabledRules
  rw [List.filter_filter, List.map_reverse, List.filter_reverse]
  congr 1
  have both := @List.filter_map _ _ Prod.fst
    (fun r : Rule => found (scriptPath uid r) && decide (r.enabled ≠ 0)) rules.zipIdx
  rw [List.zipIdx_map_fst] at both
  exact both.symm

/-- Which rules `fork` may be called for. -/
lemma mem_forkOrder {r i} : (r, i) ∈ forkOrder found uid rules ↔
    rules[i]? = some r ∧ r.enabled ≠ 0 ∧ found (scriptPath uid r) = true := by
  unfold forkOrder
  rw [List.mem_reverse, List.mem_filter, List.mk_mem_zipIdx_iff_getElem?]
  simp [and_comm]

/-- The last rules come first. -/
lemma forkOrder_decreasing {j j' : Nat} {p p'} (at_j : (forkOrder found uid rules)[j]? = some p)
    (at_j' : (forkOrder found uid rules)[j']? = some p') (less : j < j') : p'.2 < p.2 := by
  have sorted : (forkOrder found uid rules).Pairwise fun p p' => p'.2 < p.2 := by
    unfold forkOrder
    rw [List.pairwise_reverse]
    apply List.Pairwise.filter
    have indices : (List.range' 0 rules.length).Pairwise (· < ·) := List.pairwise_lt_range'
    rw [← List.zipIdx_map_snd, List.pairwise_map] at indices
    exact indices
  obtain ⟨inside, rfl⟩ := List.getElem?_eq_some_iff.1 at_j
  obtain ⟨inside', rfl⟩ := List.getElem?_eq_some_iff.1 at_j'
  exact List.pairwise_iff_getElem.1 sorted j j' inside inside' less

/-- The script of the last usable rule is started, if there is one. -/
inductive StartsLast (found : CString → Bool) (works : Nat → Int) (uid event : CString)
    (rules : List Rule) : List Execl → Prop where
  | some {i r} :
    rules[i]? = some r →
    Usable found works uid rules i →
    (∀ j, Usable found works uid rules j → j ≤ i) →
    StartsLast found works uid event rules [scriptOf uid event r]
  | none :
    (∀ j, ¬ Usable found works uid rules j) →
    StartsLast found works uid event rules []

/-- What `fork` returns for a rule in this order. -/
lemma forkResults_eq {k r i} (at_k : (forkOrder found uid rules)[k]? = some (r, i)) :
    forkResults found uid rules works k = works i := by
  rw [forkResults, at_k]
  rfl

/-- A usable rule has its place in the order. -/
lemma Usable.order {i} (h : Usable found works uid rules i) :
    ∃ (k : Nat) (r : Rule), (forkOrder found uid rules)[k]? = some (r, i) := by
  obtain ⟨r, at_i, enabled, exists_, _⟩ := h
  obtain ⟨k, at_k⟩ := List.mem_iff_getElem?.1 (mem_forkOrder.2 ⟨at_i, enabled, exists_⟩)
  exact ⟨k, r, at_k⟩

/-- The first candidate for which `fork` works is the last usable rule. -/
lemma Ends.startsLast {result forked started}
    (h : Ends (forkResults found uid rules works) uid event 0 (candidates found uid rules.reverse)
      result forked started) : StartsLast found works uid event rules started := by
  rw [← forkOrder_candidates] at h
  cases h with
  | @worked k r at_k positive before =>
    rw [List.getElem?_map] at at_k
    obtain ⟨⟨r', i⟩, own, rfl⟩ := Option.map_eq_some_iff.1 at_k
    clear at_k
    rw [Nat.zero_add, forkResults_eq own] at positive
    obtain ⟨at_i, enabled, exists_⟩ := mem_forkOrder.1 (List.mem_of_getElem? own)
    refine .some at_i ⟨r', at_i, enabled, exists_, positive⟩ fun i' usable => ?_
    obtain ⟨k', r'', at_k'⟩ := usable.order
    obtain ⟨_, _, _, _, works'⟩ := usable
    rcases Nat.lt_trichotomy k' k with less | rfl | greater
    · have failed := before k' less
      rw [Nat.zero_add, forkResults_eq at_k'] at failed
      exact absurd works' (Int.not_le.2 failed)
    · cases own.symm.trans at_k'
      exact Nat.le_refl _
    · exact Nat.le_of_lt (forkOrder_decreasing own at_k' greater)
  | failed all =>
    refine .none fun i usable => ?_
    obtain ⟨k, r, at_k⟩ := usable.order
    obtain ⟨_, _, _, _, works'⟩ := usable
    obtain ⟨inside, _⟩ := List.getElem?_eq_some_iff.1 at_k
    have failed := all k (by rwa [List.length_map])
    rw [Nat.zero_add, forkResults_eq at_k] at failed
    exact absurd works' (Int.not_le.2 failed)

/-- The script that is started is that of the first usable rule from top to bottom, and none if no
rule is usable. -/
structure FollowsEditor (found : CString → Bool) (works : Nat → Int) (uid event : CString)
    (rules : List Rule) (rows : List EditorRow) (started : List Execl) : Prop where
  first : ∀ row ∈ rows, Usable found works uid rules row.entryIndex →
    (∀ other ∈ rows, Usable found works uid rules other.entryIndex → row.row ≤ other.row) →
    rules[row.entryIndex]?.map (fun r => [scriptOf uid event r]) = some started
  none : (∀ row ∈ rows, ¬ Usable found works uid rules row.entryIndex) → started = []

/-- The first and the last usable rule have the same script. -/
def EndsAlike (found : CString → Bool) (works : Nat → Int) (uid : CString) (rules : List Rule) :
    Prop :=
  ∀ i j, Usable found works uid rules i → Usable found works uid rules j →
    (∀ k, Usable found works uid rules k → i ≤ k ∧ k ≤ j) →
    rules[i]?.map (scriptPath uid) = rules[j]?.map (scriptPath uid)

/-- The rows are those for the rules. -/
lemma mem_rows {row} :
    row ∈ rules.mapIdx rowFor ↔ ∃ i r, rules[i]? = some r ∧ row = rowFor i r := by
  rw [List.mem_iff_getElem?]
  apply exists_congr
  intro i
  rw [List.getElem?_mapIdx, Option.map_eq_some_iff]
  exact exists_congr fun r => and_congr_right fun _ => eq_comm

/-- A usable rule has a row. -/
lemma Usable.row {i} (h : Usable found works uid rules i) :
    ∃ r, rules[i]? = some r ∧ rowFor i r ∈ rules.mapIdx rowFor := by
  obtain ⟨r, at_i, _⟩ := h
  exact ⟨r, at_i, mem_rows.2 ⟨i, r, at_i, rfl⟩⟩

/-- Where both ends are alike, the last usable rule is the one that the text promises. -/
lemma StartsLast.follows {started} (h : StartsLast found works uid event rules started)
    (alike : EndsAlike found works uid rules) :
    FollowsEditor found works uid event rules (rules.mapIdx rowFor) started := by
  constructor
  · intro row mem usable least
    obtain ⟨i, r, at_i, rfl⟩ := mem_rows.1 mem
    have usable : Usable found works uid rules i := usable
    have below : ∀ k, Usable found works uid rules k → i ≤ k := by
      intro k usable'
      obtain ⟨r', _, mem'⟩ := usable'.row
      exact Nat.le_of_succ_le_succ (least _ mem' usable')
    cases h with
    | @some j r' at_j last greatest =>
      have paths := alike i j usable last fun k usable' => ⟨below k usable', greatest k usable'⟩
      rw [at_i, at_j] at paths
      have paths : scriptPath uid r = scriptPath uid r' := Option.some.inj paths
      show rules[i]?.map _ = _
      rw [at_i]
      show Option.some [scriptOf uid event r] = Option.some [scriptOf uid event r']
      rw [scriptOf, paths]
      rfl
    | none no => exact absurd usable (no i)
  · intro no
    cases h with
    | some _ last _ =>
      obtain ⟨_, _, mem⟩ := last.row
      exact absurd last (no _ mem)
    | none => rfl

/-- Where the last usable rule is the one that the text promises, both ends are alike. -/
lemma StartsLast.alike {started} (h : StartsLast found works uid event rules started)
    (follows : FollowsEditor found works uid event rules (rules.mapIdx rowFor) started) :
    EndsAlike found works uid rules := by
  intro i j first last extreme
  obtain ⟨r, at_i, mem⟩ := first.row
  have window := follows.first _ mem first fun other mem' usable => by
    obtain ⟨k, _, _, rfl⟩ := mem_rows.1 mem'
    exact Nat.succ_le_succ (extreme k usable).1
  cases h with
  | @some j' r' at_j' last' greatest =>
    have same : j' = j := Nat.le_antisymm (extreme j' last').2 (greatest j last)
    have window : rules[i]?.map _ = _ := window
    rw [at_i] at window
    injection window with window
    injection window with window
    rw [← same, at_i, at_j']
    exact congrArg Option.some (congrArg Execl.path window)
  | none no => exact absurd first (no i)

/-- The rules are tried in the order that the window shows exactly if the first and the last usable
rule have the same script. -/
theorem follows_editor_iff {eventType} {pTag : tTag} {rows} (h : t.Represents rules)
    (known : ∀ r ∈ rules, Known r) (isTag : IsTagEvent eventType event)
    (shown : t.fillTable t.rulesTableNumber = .ok rows) :
    FollowsEditor found works pTag.uid event rules rows
        (startedChildren ((rulesTableEventDispatch t eventType pTag).transcript
          (host found (forkResults found pTag.uid rules works)) 0)) ↔
      EndsAlike found works pTag.uid rules := by
  obtain ⟨_, _, tried⟩ := @dispatch_tried found (forkResults found pTag.uid rules works) event t
    rules eventType pTag h known isTag
  have last := tried.ends.startsLast
  rw [fillTable_rows h] at shown
  cases shown
  exact ⟨last.alike, last.follows⟩

end

end

/-- If all scripts exist, the window shows the script `generic` in the application directory first,
but the one for the tag in `./scripts` is started. -/
theorem window_order_reversed : ∃ t rows, tableAfter plenty [] = .ok t ∧
    t.fillTable t.rulesTableNumber = .ok rows ∧
    let works := fun _ => 4242
    let calls := (rulesTableEventDispatch t .TAG_IN mifare).transcript
      (host (fun _ => true) (forkResults (fun _ => true) mifare.uid (rulesAfter []) works)) 0
    (startedChildren calls).map Execl.path = ["./scripts/04ab".toList] ∧
      ¬ FollowsEditor (fun _ => true) works mifare.uid "IN".toList (rulesAfter []) rows
        (startedChildren calls) := by
  refine ⟨_, _, rfl, rfl, by decide, fun follows => ?_⟩
  have first := follows.first _ List.mem_cons_self ⟨_, rfl, by decide, rfl, by decide⟩
    fun other mem _ => by
      have mem : other ∈ (rulesAfter []).mapIdx rowFor := mem
      obtain ⟨i, _, _, rfl⟩ := mem_rows.1 mem
      exact Nat.succ_le_succ (Nat.zero_le i)
  exact absurd first (by decide)

/-- The default rules, when all of their scripts are there. -/
theorem follows_editor_iff_defaults : ∃ t rows, tableAfter plenty [] = .ok t ∧
    t.fillTable t.rulesTableNumber = .ok rows ∧
    (FollowsEditor (fun _ => true) (fun _ => 4242) mifare.uid "IN".toList (rulesAfter []) rows
        (startedChildren ((rulesTableEventDispatch t .TAG_IN mifare).transcript
          (host (fun _ => true)
            (forkResults (fun _ => true) mifare.uid (rulesAfter []) fun _ => 4242)) 0)) ↔
      EndsAlike (fun _ => true) (fun _ => 4242) mifare.uid (rulesAfter [])) := by
  obtain ⟨t, run, represents⟩ :=
    (@tableAfter_represents plenty [] indexed_nil).success (served_of_isOk rfl)
  have shown := fillTable_rows represents
  exact ⟨t, _, run, shown,
    follows_editor_iff represents rulesAfter_known (.inl ⟨rfl, rfl⟩) shown⟩

end TagEventor
