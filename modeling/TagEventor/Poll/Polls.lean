import TagEventor.Poll.Diff
import TagEventor.Reader.Runs

/-!
# What a poll does

A call of `tagListCheck` has one of three outcomes (`PollOutcome`): there is no connection to pcscd
and the tag lists are not touched; the lists are shifted but the connection phase fails, so that no
reader is read; or the readers are read, and the current list is what they answered. Only in the
last case the lists may be compared. The claims about runs of polls start from this case
distinction.
-/

namespace TagEventor
open Machine

/-- The callback leaves everything but itself alone. -/
lemma callBack_rounds {w : World} {callBack connected general tags} :
    Rounds w (w.callBack callBack connected general tags) := by
  obtain ⟨callbacks, e⟩ := @callBack_eq w callBack connected general tags
  rw [e]
  exact { Rounds.refl (w := w) with conn := .refl }

/-- With success there is a context. -/
lemma readersManagerConnect_context {env : Env} {w : World}
    (h : (readersManagerConnect env w).1 = SCARD_S_SUCCESS) :
    (readersManagerConnect env w).2.readerManager.hContext ≠ none := by
  unfold readersManagerConnect at h ⊢
  dsimp only at h ⊢
  split at h
  next hrv => exact absurd h hrv
  next hrv =>
    rw [if_neg hrv, readersEnumerate_connects.hContext]
    nofun

/-- Connecting to pcscd does not touch the tag lists. -/
lemma connectPcscd_prepares {env : Env} {callBack} {w : World} :
    Prepares w (connectPcscd env callBack w).2 := by
  unfold connectPcscd
  split
  · have h := @readersManagerConnect_prepares env w
    rcases he : readersManagerConnect env w with ⟨rv, w1⟩
    rw [he] at h
    dsimp only at h ⊢
    split
    · exact h.trans callBack_rounds.toPrepares
    · exact h.trans readersConnect_connects.toPrepares
  · exact .refl

/-- With a context there is nothing to be established. -/
lemma connectPcscd_of_context {env : Env} {callBack} {w : World}
    (h : w.readerManager.hContext ≠ none) : connectPcscd env callBack w = (true, w) := if_neg h

/-- The lists are shifted only with a context. -/
lemma connectPcscd_context {env : Env} {callBack} {w : World}
    (h : (connectPcscd env callBack w).1 = true) :
    (connectPcscd env callBack w).2.readerManager.hContext ≠ none := by
  unfold connectPcscd at h ⊢
  split at h
  next hnone =>
    have hc := @readersManagerConnect_context env w
    rw [if_pos hnone]
    rcases he : readersManagerConnect env w with ⟨rv, w1⟩
    rw [he] at h hc
    dsimp only at h hc ⊢
    split at h
    · cases h
    next hrv =>
      rw [if_neg hrv, readersConnect_connects.hContext]
      exact hc (by simpa using hrv)
  next hsome => rwa [if_neg hsome]

/-- The current list is empty. -/
lemma shiftTagLists_tagList {w : World} : w.shiftTagLists.readerManager.tagList = .empty := rfl

/-- The previous list is the one that was current. -/
lemma shiftTagLists_previousTagList {w : World} :
    w.shiftTagLists.previousTagList = w.readerManager.tagList := by
  unfold World.shiftTagLists
  cases w.previousTagList.pTags <;> rfl

/-- What the shift of the lists leaves alone. -/
structure Shifts (w w' : World) : Prop where
  conn : w'.conn = w.conn
  readers : w'.readerManager.readers = w.readerManager.readers
  hContext : w'.readerManager.hContext = w.readerManager.hContext
  readerSetting : w'.readerManager.readerSetting = w.readerManager.readerSetting
  events : w'.events = w.events
  dataHeap : w'.dataHeap = w.dataHeap

/-- The lists are shifted and nothing else happens. -/
lemma shiftTagLists_shifts {w : World} : Shifts w w.shiftTagLists := by
  unfold World.shiftTagLists
  cases w.previousTagList.pTags <;> exact ⟨rfl, rfl, rfl, rfl, rfl, rfl⟩

/-- No call is made. -/
lemma shiftTagLists_log {w : World} : w.shiftTagLists.log = w.log :=
  congrArg Conn.log shiftTagLists_shifts.conn

/-- The state in which the connection phase of a poll starts. -/
def World.shifted (env : Env) (callBack : Bool) (w : World) : World :=
  (connectPcscd env callBack w).2.shiftTagLists

/-- What `tagListCheck` does before it compares the lists; the flag says whether it does. -/
inductive PollOutcome (env : Env) (callBack : Bool) (w : World) : Bool → World → Prop where
  /-- no connection to pcscd -/
  | unconnected {w'} (unconnected : (connectPcscd env callBack w).1 = false)
      (prepares : Prepares w w') : PollOutcome env callBack w false w'
  /-- the connection phase failed -/
  | stopped {w'} (connected : (connectPcscd env callBack w).1 = true)
      (stop : (connectIfAutomatic env (w.shifted env callBack)).1 ≠ SCARD_S_SUCCESS)
      (after : Rounds (connectIfAutomatic env (w.shifted env callBack)).2 w') :
      PollOutcome env callBack w false w'
  /-- the readers were read, the last one possibly without success -/
  | read {ok w' lists} (connected : (connectPcscd env callBack w).1 = true)
      (success : (connectIfAutomatic env (w.shifted env callBack)).1 = SCARD_S_SUCCESS)
      (collected : Collected (connectIfAutomatic env (w.shifted env callBack)).2 w' lists) :
      PollOutcome env callBack w ok w'

/-- The callback changes nothing of what was collected. -/
lemma Collected.callBack {w w' : World} {lists callBack connected general tags}
    (h : Collected w w' lists) :
    Collected w (w'.callBack callBack connected general tags) lists := by
  obtain ⟨callbacks, e⟩ := @callBack_eq w' callBack connected general tags
  rw [e]
  exact { h with reads := { h.reads with conn := h.reads.conn } }

/-- Every poll has one of the three outcomes. -/
theorem pollTagLists_outcome {env : Env} {callBack} {w : World} :
    PollOutcome env callBack w (pollTagLists env callBack w).1 (pollTagLists env callBack w).2 := by
  have prepares := @connectPcscd_prepares env callBack w
  have context := @connectPcscd_context env callBack w
  have hs : w.shifted env callBack = (connectPcscd env callBack w).2.shiftTagLists := rfl
  unfold pollTagLists
  rcases he : connectPcscd env callBack w with ⟨connected, w1⟩
  rw [he] at prepares context hs
  cases connected with
  | false => exact .unconnected (by rw [he]) prepares
  | true =>
    have hc : (connectPcscd env callBack w).1 = true := by rw [he]
    have hcontext : (w.shifted env callBack).readerManager.hContext ≠ none := by
      rw [hs, shiftTagLists_shifts.hContext]
      exact context rfl
    dsimp only
    rw [← hs]
    obtain ⟨stop, e⟩ | ⟨success, e⟩ := @readersGetTagList_cases env _ hcontext
    · rw [e, if_pos stop]
      exact .stopped hc stop callBack_rounds
    · obtain ⟨lists, hl⟩ := @readTags_collected env
        (connectIfAutomatic env (w.shifted env callBack)).2
        (connectIfAutomatic env (w.shifted env callBack)).1
      rw [e]
      split
      · exact .read hc success hl.callBack
      · exact .read hc success hl

end TagEventor
