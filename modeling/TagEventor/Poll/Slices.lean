import Mathlib.Algebra.GroupWithZero.Nat
import TagEventor.Poll.Context

/-!
# The slices of the readers

The explorer shows, for each reader, the slice of the tag list its `tagList` points at. The slices
match the list (`SlicesMatch`) after every poll that reads the readers, but a poll whose connection
phase fails has dropped the list already and leaves the slices as they were.
-/

namespace TagEventor

/-- The number of tags of the readers before reader `i`. -/
def World.tagsBefore (w : World) (i : Nat) : Nat :=
  ((List.range i).map fun j => (w.reader j).tagList.numTags).sum

/-- Every reader with tags points at its part of the list, and the parts make up the list. -/
def SlicesMatch (w : World) : Prop :=
  (∀ i < w.readerManager.nbReaders, 0 < (w.reader i).tagList.numTags →
    ∃ a ∈ w.readerManager.tagList.pTags,
      (w.reader i).tagList.pTags = some ⟨a.block, w.tagsBefore i⟩) ∧
  w.tagsBefore w.readerManager.nbReaders = w.readerManager.tagList.numTags

instance (w : World) : Decidable (SlicesMatch w) := inferInstanceAs (Decidable (_ ∧ _))

/-- There are no tags, neither in the list nor in the slices. -/
def NoTags (w : World) : Prop :=
  w.readerManager.tagList.numTags = 0 ∧ ∀ i, (w.reader i).tagList.numTags = 0

/-- If the connection phase of the poll fails, then no reader that is listed had tags. -/
def StopsClean (env : Env) (callBack : Bool) (w : World) : Prop :=
  connected env callBack w = true →
    (connectIfAutomatic env (w.shifted env callBack)).1 ≠ SCARD_S_SUCCESS →
    ∀ i < (connectIfAutomatic env (w.shifted env callBack)).2.readerManager.nbReaders,
      (w.reader i).tagList.numTags = 0

instance (env : Env) (callBack : Bool) (w : World) : Decidable (StopsClean env callBack w) :=
  inferInstanceAs (Decidable (_ → _ → _))

/-- Before readers without tags there are no tags. -/
lemma tagsBefore_eq_zero {w : World} {n} (h : ∀ i < n, (w.reader i).tagList.numTags = 0) :
    w.tagsBefore n = 0 := by
  induction n with
  | zero => rfl
  | succ n ih =>
    have hsum : w.tagsBefore (n + 1) = w.tagsBefore n + (w.reader n).tagList.numTags := by
      simp [World.tagsBefore, List.range_succ]
    rw [hsum, h n (Nat.lt_succ_self n), ih fun i hi => h i (Nat.lt_succ_of_lt hi)]

/-- Where there are no tags, the slices match. -/
lemma slicesMatch_of_none {w : World} (total : w.readerManager.tagList.numTags = 0)
    (h : ∀ i < w.readerManager.nbReaders, (w.reader i).tagList.numTags = 0) : SlicesMatch w :=
  ⟨fun i hi hpos => absurd (h i hi) (Nat.ne_of_gt hpos), (tagsBefore_eq_zero h).trans total.symm⟩

/-- An empty list or the same one has no tags if the list had none. -/
lemma numTags_of_reset {r r' : tReader} (h : r'.tagList = r.tagList ∨ r'.tagList = .empty)
    (h0 : r.tagList.numTags = 0) : r'.tagList.numTags = 0 := by
  rcases h with e | e
  · rw [e, h0]
  · rw [e]; rfl

/-- The connection phase finds no tags. -/
lemma NoTags.prepares {w w'} (h : NoTags w) (p : Prepares w w') : NoTags w' :=
  ⟨by rw [p.tagList]; exact h.1, fun i => numTags_of_reset (p.readerTagLists i) (h.2 i)⟩

/-- Reading the readers makes the slices match. -/
lemma Collected.slicesMatch {w w' lists} (h : Collected w w' lists) : SlicesMatch w' := by
  have nb := h.reads.nbReaders
  have before : ∀ i ≤ w.readerManager.nbReaders,
      w'.tagsBefore i = ((List.range i).flatMap lists).length := fun i hi => by
    rw [World.tagsBefore, List.length_flatMap]
    congr 1
    refine List.map_congr_left fun j hj => h.readers j ?_
    exact Nat.lt_of_lt_of_le (List.mem_range.1 hj) hi
  refine ⟨fun i hi hpos => ?_, by rw [nb, before _ (Nat.le_refl _), h.numTags]⟩
  rw [nb] at hi
  rw [h.readers i hi] at hpos
  obtain ⟨a, ha, hs⟩ := h.slices i hi (List.ne_nil_of_length_pos hpos)
  exact ⟨a, ha, by rw [before i (Nat.le_of_lt hi)]; exact hs⟩

/-- The comparison leaves the slices alone. -/
lemma Processed.slicesMatch {w w'} (h : Processed w w') (hs : SlicesMatch w) : SlicesMatch w' := by
  have hr : w'.reader = w.reader := by
    funext i
    simp only [World.reader, h.readers]
  have nb : w'.readerManager.nbReaders = w.readerManager.nbReaders := congrArg Conn.nbReaders h.conn
  have before : w'.tagsBefore = w.tagsBefore := by
    funext i
    simp only [World.tagsBefore, hr]
  refine ⟨fun i hi hpos => ?_, by rw [nb, before, h.numTags]; exact hs.2⟩
  rw [hr] at hpos ⊢
  obtain ⟨a, ha, hp⟩ := hs.1 i (nb ▸ hi) hpos
  obtain ⟨a', ha', hb⟩ : ∃ a' ∈ w'.readerManager.tagList.pTags, a'.block = a.block := by
    have hblock := h.block
    rw [show w.readerManager.tagList.pTags = some a from ha] at hblock
    obtain ⟨a', ha', hb⟩ := Option.map_eq_some_iff.1 hblock
    exact ⟨a', ha', hb⟩
  exact ⟨a', ha', by rw [before, hb]; exact hp⟩

/-- What holds of the slices after every poll. -/
structure SlicesInv (w : World) : Prop where
  slices : SlicesMatch w
  noTags : w.readerManager.hContext = none → NoTags w

/-- A poll whose connection phase leaves no stale slices keeps the slices matching. -/
lemma SlicesInv.poll {env : Env} {callBack} {w : World} (h : SlicesInv w)
    (clean : StopsClean env callBack w) : SlicesInv (tagListCheck env callBack w) := by
  by_cases hc : connected env callBack w = true
  swap
  · have hw : w.readerManager.hContext = none := by
      by_contra hw
      exact hc (by rw [connected, connectPcscd_of_context hw])
    have none := (h.noTags hw).prepares (tagListCheck_unconnected (Bool.eq_false_iff.2 hc)).2
    exact ⟨slicesMatch_of_none none.1 fun i _ => none.2 i, fun _ => none⟩
  refine ⟨?_, fun e => absurd e (tagListCheck_context hc)⟩
  have hp : SlicesMatch (pollTagLists env callBack w).2 := by
    obtain ⟨stop, after⟩ | ⟨lists, collected⟩ := connected_outcome hc
    · -- the list is empty, the slices are those of the readers before the poll
      refine slicesMatch_of_none (by rw [stopped_tagList after]; rfl) fun i hi => ?_
      have h0 := numTags_of_reset
        ((@connectPcscd_prepares env callBack w).readerTagLists i)
        (clean hc stop i (after.nbReaders ▸ hi))
      have hs : (w.shifted env callBack).reader i = (connectPcscd env callBack w).2.reader i :=
        congrFun shiftTagLists_shifts.readers i
      rw [← hs] at h0
      exact numTags_of_reset (after.readerTagLists i)
        (numTags_of_reset (connectIfAutomatic_connects.readerTagLists i) h0)
    · exact collected.slicesMatch
  rw [tagListCheck_eq]
  split
  · exact processTagLists_processed.slicesMatch hp
  · exact hp

/-- The slices match the list after every poll of a run in which a connection phase fails only when
the readers listed have no tags. -/
theorem slices_of_clean_stops {env : Env} {callBack setting n}
    (h : ∀ m < n, StopsClean env callBack (polls env callBack setting m)) :
    SlicesMatch (polls env callBack setting n) := by
  have inv : SlicesInv (polls env callBack setting n) := by
    induction n with
    | zero => exact ⟨slicesMatch_of_none rfl nofun, fun _ => ⟨rfl, fun _ => rfl⟩⟩
    | succ n ih =>
      rw [polls_succ]
      exact (ih fun m hm => h m (Nat.lt_succ_of_lt hm)).poll (h n (Nat.lt_succ_self n))
  exact inv.slices

/-- A reader with a tag is polled twice. -/
theorem slices_plain :
    SlicesMatch (polls (plain [acr0] fun _ _ => some [0xab, 0xcd]) true READER_BIT_AUTO 2) :=
  slices_of_clean_stops (by decide +kernel)

/-- The second poll fails to enumerate the readers: the list is empty, but the reader keeps the tag
it had, in the array of the list before. -/
theorem slice_stale_hiccup : ¬ SlicesMatch (polls hiccup true READER_BIT_AUTO 2) := by
  decide +kernel

end TagEventor
