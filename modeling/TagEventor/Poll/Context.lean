import TagEventor.Poll.Events

/-!
# The context after a poll

`tagListCheck` connects to pcscd again when `hContext` is `NULL`, but nothing it calls ever makes
it `NULL` once there is a context: only a failing `SCardEstablishContext` leaves no context, and
then the poll makes no other call. So the failure of a call on a dead service is never followed by
a new connection.
-/

namespace TagEventor

/-- A call that fails because the service, or the context it was asked for, is gone. -/
def Call.deadService : Call → Bool
  | .SCardListReaders _ rv _ => rv = SCARD_E_NO_SERVICE ∨ rv = SCARD_E_INVALID_HANDLE
  | .SCardConnect _ _ rv _ => rv = SCARD_E_NO_SERVICE ∨ rv = SCARD_E_INVALID_HANDLE
  | .SCardTransmit _ _ _ rv _ => rv = SCARD_E_NO_SERVICE
  | _ => false

/-- The calls a poll makes. -/
def pollCalls (env : Env) (callBack : Bool) (w : World) : List Call :=
  (tagListCheck env callBack w).log.drop w.log.length

/-- A poll that is connected has a context when it returns. -/
lemma tagListCheck_context {env : Env} {callBack} {w : World}
    (h : connected env callBack w = true) :
    (tagListCheck env callBack w).readerManager.hContext ≠ none := by
  have hs : (connectIfAutomatic env (w.shifted env callBack)).2.readerManager.hContext ≠ none := by
    rw [connectIfAutomatic_connects.hContext, World.shifted, shiftTagLists_shifts.hContext]
    exact connectPcscd_context h
  have hp : (pollTagLists env callBack w).2.readerManager.hContext ≠ none := by
    obtain ⟨_, after⟩ | ⟨lists, collected⟩ := connected_outcome h
    · rw [after.hContext]; exact hs
    · rw [collected.reads.hContext]; exact hs
  rw [tagListCheck_eq]
  split
  · rw [processTagLists_processed.hContext]; exact hp
  · exact hp

/-- `readersManagerConnect` leaves no context only when pcscd refuses one. -/
lemma readersManagerConnect_none {env : Env} {w : World}
    (h : (readersManagerConnect env w).2.readerManager.hContext = none) :
    ∃ rv, (readersManagerConnect env w).2.log = w.log ++ [.SCardEstablishContext rv] := by
  unfold readersManagerConnect at h ⊢
  dsimp only at h ⊢
  split at h
  next hrv =>
    rw [if_pos hrv]
    exact ⟨_, rfl⟩
  next hrv =>
    rw [readersEnumerate_connects.hContext] at h
    cases h

/-- A poll that ends without a context has made no call but the one for the context. -/
lemma pollCalls_of_none {env : Env} {callBack} {w : World}
    (h : (tagListCheck env callBack w).readerManager.hContext = none) :
    ∃ rv, pollCalls env callBack w = [.SCardEstablishContext rv] := by
  have hc : connected env callBack w = false :=
    Bool.eq_false_iff.2 fun hc => tagListCheck_context hc h
  have hw : w.readerManager.hContext = none := by
    by_contra hw
    rw [connected, connectPcscd_of_context hw] at hc
    cases hc
  -- without a context before and after, `readersManagerConnect` is all that is called
  obtain ⟨connected, general, tags, e⟩ : ∃ connected general tags, tagListCheck env callBack w =
      (readersManagerConnect env w).2.callBack callBack connected general tags := by
    unfold connected connectPcscd at hc
    unfold tagListCheck pollTagLists connectPcscd
    rw [if_pos hw] at hc ⊢
    generalize readersManagerConnect env w = x at hc ⊢
    obtain ⟨rv, w1⟩ := x
    dsimp only at hc ⊢
    split at hc
    next hrv => rw [if_pos hrv]; exact ⟨_, _, _, rfl⟩
    · cases hc
  obtain ⟨callbacks, ecb⟩ :=
    @callBack_eq (readersManagerConnect env w).2 callBack connected general tags
  rw [e, ecb] at h
  obtain ⟨rv, hlog⟩ := readersManagerConnect_none h
  refine ⟨rv, ?_⟩
  rw [pollCalls, e, ecb]
  show List.drop _ (readersManagerConnect env w).2.log = _
  rw [hlog, List.drop_left]

/-- The context is dropped after a failure of the service in no poll: what is demanded of a poll
that meets a dead service holds exactly when the poll does not meet one. -/
theorem context_dropped_iff {env : Env} {callBack} {w : World} :
    ((∃ c ∈ pollCalls env callBack w, c.deadService = true) →
      (tagListCheck env callBack w).readerManager.hContext = none) ↔
    ∀ c ∈ pollCalls env callBack w, c.deadService = false := by
  constructor
  · intro h c hc
    by_contra hd
    obtain ⟨rv, e⟩ := pollCalls_of_none (h ⟨c, hc, by simpa using hd⟩)
    rw [e, List.mem_singleton] at hc
    exact hd (hc ▸ rfl)
  · rintro h ⟨c, hc, hd⟩
    rw [h c hc] at hd
    cases hd

/-- pcscd dies after the first poll. -/
def died : Env :=
  { plain [acr0] fun _ _ => none with
    SCardListReaders := fun log =>
      if enumerations log < 3 then (SCARD_S_SUCCESS, [acr0]) else (SCARD_E_NO_SERVICE, []) }

/-- The second poll finds the service dead, and keeps the context. -/
theorem context_kept_died :
    (∃ c ∈ pollCalls died true (polls died true READER_BIT_AUTO 1), c.deadService = true) ∧
      (polls died true READER_BIT_AUTO 2).readerManager.hContext ≠ none := by
  decide +kernel

end TagEventor
