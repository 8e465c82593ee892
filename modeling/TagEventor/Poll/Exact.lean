import TagEventor.Lib.Replay
import TagEventor.Poll.Diff

/-!
# The comparison is exact

`processTagLists` announces the change from the previous UIDs to the current ones and nothing else:
replayed on the previous set, its events give the current set, and the callback is called exactly
when the two sets differ. Of the tags themselves only the contents are written (`Exact`).

It does not always get that far. `TAG_OUT` frees the contents of the tag, and a `free` of anything
but a block that is allocated aborts the process. `Aborting` has the functions again with this stop,
and `processTagLists_returns_iff` says when there is none.
-/

namespace TagEventor
open Ledger Replay

/-- What a tag event announces about the set of UIDs. -/
def Event.change (e : Event) : Option (Change CString) :=
  match e.eventType, e.uid with
  | .TAG_IN, some u => some (.enter u)
  | .TAG_OUT, some u => some (.leave u)
  | _, _ => none

/-- The UIDs that leave are those missing in the second list. -/
lemma leaving_eq {l l' : List CString} : leaving l l' = (missing l l').map .leave := by
  apply congrArg (List.map Change.leave)
  apply List.filter_congr
  intro u _
  rw [decide_eq_decide]

/-- The UIDs that enter are those missing in the first list. -/
lemma entering_eq {l l' : List CString} : entering l l' = (missing l' l).map .enter := by
  apply congrArg (List.map Change.enter)
  apply List.filter_congr
  intro u _
  rw [decide_eq_decide]

/-- The events of a comparison announce the difference of the lists. -/
lemma filterMap_change {l l' : List CString} :
    ((missing l l').map (tagEvent .TAG_OUT) ++ (missing l' l).map (tagEvent .TAG_IN)).filterMap
      Event.change = leaving l l' ++ entering l l' := by
  rw [List.filterMap_append, List.filterMap_map, List.filterMap_map, leaving_eq, entering_eq,
    ← List.filterMap_eq_map, ← List.filterMap_eq_map]
  rfl

/-- Something is missing on one side or the other iff the sets differ. -/
lemma missing_ne_nil_iff {l l' : List CString} :
    missing l l' ≠ [] ∨ missing l' l ≠ [] ↔ l.toFinset ≠ l'.toFinset := by
  rw [ne_eq (l.toFinset), ← diff_eq_nil_iff, leaving_eq, entering_eq, List.append_eq_nil_iff,
    List.map_eq_nil_iff, List.map_eq_nil_iff, not_and_or]

/-- What comparing two lists is to do: dispatch a `TAG_OUT` for each entry of the previous list that
is missing in the current one, then a `TAG_IN` for each entry of the current list that is missing in
the previous one; these events lead from the previous UIDs to the current ones, the callback is
called iff the UIDs differ, and the tags keep their places, types and UIDs. -/
structure Exact (callBack : Bool) (w w' : World) : Prop where
  events : w'.events = w.events ++
    ((w.previousTagList.uids.filter (· ∉ w.readerManager.tagList.uids)).map (tagEvent .TAG_OUT) ++
      (w.readerManager.tagList.uids.filter (· ∉ w.previousTagList.uids)).map (tagEvent .TAG_IN))
  change : replay w.previousTagList.uids.toFinset
    ((w'.events.drop w.events.length).filterMap Event.change) =
      w.readerManager.tagList.uids.toFinset
  callbacks : w'.callbacks = w.callbacks ++
    if w.previousTagList.uids.toFinset ≠ w.readerManager.tagList.uids.toFinset ∧
        callBack = true then
      [changedCallback w]
    else []
  previous : identitiesOf w'.previousTagList.entries = identitiesOf w.previousTagList.entries ∧
    w'.previousTagList.numTags = w.previousTagList.numTags
  current : identitiesOf w'.readerManager.tagList.entries =
      identitiesOf w.readerManager.tagList.entries ∧
    w'.readerManager.tagList.numTags = w.readerManager.tagList.numTags

/-- A comparison that gets to its end is exact. -/
lemma processTagLists_exact {callBack} {w : World} :
    Exact callBack w (processTagLists callBack w) := by
  have processed := @processTagLists_processed callBack w
  have events := processed.events
  rw [List.append_assoc] at events
  obtain ⟨identities, identities', -, -, changed⟩ := @ins_spec w
  obtain ⟨callbacks, e⟩ := @processTagLists_eq callBack w
  constructor
  · exact events
  · rw [show (processTagLists callBack w).events = _ from events, List.drop_left, filterMap_change]
    exact replay_diff
  · rw [processTagLists_callbacks]
    simp only [changed, missing_ne_nil_iff]
  · constructor
    · rw [e, ← identities]
      exact congrArg identitiesOf compared_entries.1
    · rw [e]
      rfl
  · rw [processTagLists_entries]
    exact ⟨identities', processed.numTags⟩

namespace Aborting

/-- `free`, which aborts the process if there is no such block. -/
def free (p : DataPtr) (w : World) : Except World World :=
  if p ∈ outstanding w.dataHeap then .ok { w with dataHeap := w.dataHeap ++ [.release p] }
  else .error w

/-- `tagDetachData` with the stop. -/
def tagDetachData (pTag : tTag) (w : World) : Except World (tTag × World) := do
  let w ← match pTag.contents.pData with
    | none => pure w
    | some p => free p w
  return ({ pTag with contents := .empty }, w)

/-- `eventDispatch` of a tag event with the stop. -/
def eventDispatch (eventType : tEventType) (pTag : tTag) (w : World) :
    Except World (tTag × World) :=
  let w := { w with events := w.events ++ [⟨eventType, some pTag.uid, 0⟩] }
  match eventType with
  | .TAG_IN => .ok (tagAttachData pTag w)
  | .TAG_OUT => tagDetachData pTag w
  | _ => .ok (pTag, w)

/-- The first loop of `processTagLists` with the stop. -/
def outLoop : List tTag → Diff → Except World (List tTag × Diff)
  | [], s => .ok ([], s)
  | p :: ps, s =>
    let found := s.current.any fun c => p.uid = c.uid
    let s := { s with current := s.current.map (copyContents p) }
    if found then do
      let r ← outLoop ps s
      return (p :: r.1, r.2)
    else do
      let d ← eventDispatch .TAG_OUT p s.world
      let r ← outLoop ps { s with listChanged := true, world := d.2 }
      return (d.1 :: r.1, r.2)

/-- `processTagLists` with the stop; `TAG_IN`, the event of the second loop, frees nothing. -/
def processTagLists (callBack : Bool) (w : World) : Except World World := do
  let out ← outLoop w.previousTagList.entries ⟨w.readerManager.tagList.entries, false, w⟩
  let inn := inLoop out.1 out.2.current (out.2.listChanged, out.2.world)
  let w := { inn.2.2 with previousTagList := w.previousTagList.setEntries out.1 }
  let w := w.setTagList (w.readerManager.tagList.setEntries inn.1)
  return if inn.2.1 then
    w.callBack callBack true
      (TAGEVENTOR_STRING_CONNECTED_READER w.readerManager.nbReaders w.readerManager.tagList.numTags)
      (w.readerManager.tagList.uids.flatMap TAGEVENTOR_STRING_TAG_LINE)
  else w

/-- What the tags that leave have attached. -/
def detached (previous : List tTag) (current : List CString) : List DataPtr :=
  (previous.filter fun p => !current.contains p.uid).filterMap (·.contents.pData)

/-- A tag that stays keeps its contents. -/
lemma detached_cons_of_mem {p : tTag} {ps current} (h : p.uid ∈ current) :
    detached (p :: ps) current = detached ps current := by
  simp [detached, h]

/-- A tag that leaves has its contents freed. -/
lemma detached_cons_of_notMem {p : tTag} {ps current} (h : p.uid ∉ current) :
    detached (p :: ps) current = p.contents.pData.toList ++ detached ps current := by
  cases hp : p.contents.pData <;> simp [detached, h, hp]

/-- Where the contents of a tag are allocated, its `TAG_OUT` frees them. -/
lemma eventDispatch_frees {p : tTag} {w : World}
    (free : ∀ ptr ∈ p.contents.pData, ptr ∈ outstanding w.dataHeap) :
    eventDispatch .TAG_OUT p w = .ok (TagEventor.eventDispatch .TAG_OUT p w) := by
  simp only [eventDispatch, tagDetachData, TagEventor.eventDispatch, TagEventor.tagDetachData]
  cases hp : p.contents.pData with
  | none => rfl
  | some ptr =>
    have mem : ptr ∈ outstanding w.dataHeap := free ptr hp
    simp only [Aborting.free, if_pos mem]
    rfl

/-- Where they are not, the process is aborted. -/
lemma eventDispatch_aborts {p : tTag} {w : World}
    (kept : ¬ ∀ ptr ∈ p.contents.pData, ptr ∈ outstanding w.dataHeap) :
    ∃ w', eventDispatch .TAG_OUT p w = .error w' := by
  push Not at kept
  obtain ⟨ptr, hp, mem⟩ := kept
  have hp : p.contents.pData = some ptr := hp
  simp only [eventDispatch, tagDetachData, hp, Aborting.free, if_neg mem]
  exact ⟨_, rfl⟩

/-- What a `TAG_OUT` frees is not allocated any more, so the contents of the tags are allocated iff
those of the other tags are afterwards. -/
lemma subperm_eventDispatch {p : tTag} {w : World} {l : List DataPtr}
    (free : ∀ ptr ∈ p.contents.pData, ptr ∈ outstanding w.dataHeap) :
    (p.contents.pData.toList ++ l).Subperm (outstanding w.dataHeap) ↔
      l.Subperm (outstanding (TagEventor.eventDispatch .TAG_OUT p w).2.dataHeap) := by
  simp only [TagEventor.eventDispatch, TagEventor.tagDetachData]
  cases hp : p.contents.pData with
  | none => rfl
  | some ptr =>
    rw [outstanding_release]
    exact cons_subperm_iff.trans (and_iff_right (free ptr hp))

/-- The first loop gets to its end iff everything it is to free is allocated. -/
lemma outLoop_spec {ps : List tTag} {s : Diff} :
    if (detached ps (uidsOf s.current)).Subperm (outstanding s.world.dataHeap) then
      outLoop ps s = .ok (TagEventor.outLoop ps s)
    else ∃ w, outLoop ps s = .error w := by
  induction ps generalizing s with
  | nil => exact if_pos List.nil_subperm ▸ rfl
  | cons p ps ih =>
    by_cases h : p.uid ∈ uidsOf s.current
    · have ih := @ih { s with current := s.current.map (copyContents p) }
      rw [uidsOf_map_copyContents] at ih
      simp only [outLoop, TagEventor.outLoop, any_uid, decide_eq_true h, if_true,
        detached_cons_of_mem h]
      split_ifs at ih ⊢ with fits
      · rw [ih]
        rfl
      · obtain ⟨w, e⟩ := ih
        exact ⟨w, by rw [e]; rfl⟩
    · simp only [outLoop, TagEventor.outLoop, any_uid, decide_eq_false h, Bool.false_eq_true,
        if_false, detached_cons_of_notMem h]
      have ih (w : World) := @ih
        { current := s.current.map (copyContents p), listChanged := true, world := w }
      simp only [uidsOf_map_copyContents] at ih
      by_cases free : ∀ ptr ∈ p.contents.pData, ptr ∈ outstanding s.world.dataHeap
      · have ih := ih (TagEventor.eventDispatch .TAG_OUT p s.world).2
        rw [eventDispatch_frees free]
        simp only [subperm_eventDispatch free]
        split_ifs at ih ⊢ with fits
        · simp only [bind, Except.bind, ih]
          rfl
        · obtain ⟨w, e⟩ := ih
          exact ⟨w, by simp only [bind, Except.bind, e]⟩
      · obtain ⟨w, e⟩ := eventDispatch_aborts free
        have tight : ¬ (p.contents.pData.toList ++ detached ps (uidsOf s.current)).Subperm
            (outstanding s.world.dataHeap) := fun fits => free fun ptr mem =>
          fits.subset (List.mem_append_left _ (Option.mem_toList.2 mem))
        rw [if_neg tight, e]
        exact ⟨w, rfl⟩

/-- What the tags that leave have attached is allocated, and each block is attached to one of them
only. -/
def Allocated (w : World) : Prop :=
  (detached w.previousTagList.entries w.readerManager.tagList.uids).Subperm (outstanding w.dataHeap)

/-- A comparison returns, and does so exactly, iff the contents of the tags that leave are
allocated. -/
theorem processTagLists_returns_iff {callBack} {w : World} :
    (∃ w', processTagLists callBack w = .ok w' ∧ Exact callBack w w') ↔ Allocated w := by
  have out := @outLoop_spec w.previousTagList.entries ⟨w.readerManager.tagList.entries, false, w⟩
  split_ifs at out with allocated
  · refine iff_of_true ⟨TagEventor.processTagLists callBack w, ?_, processTagLists_exact⟩ allocated
    rw [processTagLists, out]
    rfl
  · obtain ⟨stopped, aborted⟩ := out
    refine iff_of_false ?_ allocated
    rintro ⟨w', e, -⟩
    rw [processTagLists, aborted] at e
    cases e

/-- A tag, with the contents that its `TAG_IN` attaches. -/
def entered : tTag × World := TagEventor.eventDispatch .TAG_IN ⟨.empty, .MIFARE_1K, "abcd".toList⟩
  (.init READER_BIT_AUTO)

/-- It is replaced by another one. -/
def replaced : World :=
  { entered.2 with previousTagList := ⟨some ⟨0, [entered.1]⟩, 1⟩ }.setTagList
    ⟨some ⟨1, [⟨.empty, .MIFARE_1K, "0123".toList⟩]⟩, 1⟩

/-- The first `TAG_OUT` aborts the process: no `TAG_IN` follows, and the callback is not called. -/
theorem literal_aborts_replaced :
    ¬ ∃ w', processTagLists true replaced = .ok w' ∧ Exact true replaced w' := by
  rintro ⟨w', e, -⟩
  have aborted : (processTagLists true replaced).isOk = false := by decide +kernel
  rw [e] at aborted
  cases aborted

end Aborting

end TagEventor
