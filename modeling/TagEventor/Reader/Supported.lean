import TagEventor.Reader.Exchange
import TagEventor.Reader.Runs

/-!
# The readers the driver accepts

`acr122UReaderCheck` compares the name and the firmware of a reader with the entries of two arrays,
but only `sizeof` of a pointer less one characters of them. That is all of a firmware entry, and the
first seven characters of a name: a reader with another name that begins like a supported one is
accepted (`supported_iff`).
-/

namespace TagEventor
open Interact

/-- The string begins with one of the complete strings of the array. -/
def Begins (s : CString) (array : List CString) : Prop := ∃ t ∈ array, t <+: s

instance {s array} : Decidable (Begins s array) :=
  inferInstanceAs (Decidable (∃ t ∈ array, t <+: s))

/-- What the driver compares of the strings of an array. -/
def compared (array : List CString) : List CString := array.map (List.take (SIZEOF_POINTER - 1))

/-- The comparison of the first `n` characters. -/
lemma strncmpEq_iff {s t : CString} {n} (long : n ≤ t.length) :
    strncmpEq s t n = true ↔ t.take n <+: s := by
  rw [strncmpEq, decide_eq_true_iff, List.prefix_iff_eq_take, List.length_take,
    Nat.min_eq_left long]
  exact eq_comm

/-- The loop over an array looks for the compared parts of its strings. -/
lemma any_strncmpEq {s : CString} {array : List CString}
    (long : ∀ t ∈ array, SIZEOF_POINTER - 1 ≤ t.length) :
    array.any (strncmpEq s · (SIZEOF_POINTER - 1)) = true ↔ Begins s (compared array) := by
  rw [List.any_eq_true]
  constructor
  · rintro ⟨t, ht, e⟩
    exact ⟨_, List.mem_map_of_mem ht, (strncmpEq_iff (long t ht)).1 e⟩
  · rintro ⟨_, mem, e⟩
    obtain ⟨t, ht, rfl⟩ := List.mem_map.1 mem
    exact ⟨t, ht, (strncmpEq_iff (long t ht)).2 e⟩

/-- A string without `p`-failing characters is a prefix of the part up to the first such one. -/
lemma prefix_takeWhile_iff {α} {p : α → Bool} {s t : List α} (h : ∀ c ∈ t, p c = true) :
    t <+: s.takeWhile p ↔ t <+: s := by
  constructor
  · intro before
    exact before.trans (List.takeWhile_prefix p)
  · rintro ⟨rest, rfl⟩
    rw [List.takeWhile_append_of_pos h]
    exact List.prefix_append t _

/-- The text of a reply to the request for the firmware. -/
def firmwareText (reply : List BYTE) : CString := reply.map fun b => Char.ofNat b.toNat

/-- The string the driver compares: the reply up to its first NUL. -/
lemma bufferString_fill {stack : Buffer} {reply : List BYTE} :
    bufferString (Function.update (stack.fill reply) reply.length 0) reply.length =
      (firmwareText reply).takeWhile (· ≠ '\x00') := by
  unfold bufferString firmwareText
  congr 1
  refine List.ext_getElem (by simp) fun i hi _ => ?_
  have lt : i < reply.length := by simpa using hi
  simp [Buffer.fill, Function.update_of_ne (Nat.ne_of_lt lt), lt]

/-- The text in the buffer begins like the text of the reply. -/
lemma begins_bufferString {stack : Buffer} {reply : List BYTE} :
    Begins (bufferString (Function.update (stack.fill reply) reply.length 0) reply.length)
        SUPPORTED_READER_FIRMWARE_ARRAY ↔
      Begins (firmwareText reply) SUPPORTED_READER_FIRMWARE_ARRAY := by
  rw [bufferString_fill]
  have clean : SUPPORTED_READER_FIRMWARE_ARRAY.all (List.all · (· ≠ '\x00')) = true := by decide
  have clean := List.all_eq_true.1 clean
  exact exists_congr fun t => and_congr_right fun ht =>
    prefix_takeWhile_iff (List.all_eq_true.1 (clean t ht))

section
variable {pReader : tReader} {name : CString} {stack : Buffer}
  {answers : Nat → LONG × List BYTE}

/-- The check of a reader by the answers it gets, the first of them to the request for the
firmware. -/
def checkWith (pReader : tReader) (name : CString) (stack : Buffer)
    (answers : Nat → LONG × List BYTE) : LONG × Bool × tReader :=
  ((acr122UReaderCheck pReader name stack).run (inOrder answers) []).1

/-- The name is compared by as many characters as a pointer has bytes, less one. -/
lemma any_supportedName :
    SUPPORTED_READER_NAME_ARRAY.any (strncmpEq name · (SIZEOF_POINTER - 1)) = true ↔
      Begins name (compared SUPPORTED_READER_NAME_ARRAY) :=
  any_strncmpEq (by decide)

/-- The compared part of a firmware entry is all of it. -/
lemma any_supportedFirmware {reply : List BYTE} :
    SUPPORTED_READER_FIRMWARE_ARRAY.any (strncmpEq (bufferString
        (Function.update (stack.fill reply) reply.length 0) reply.length) ·
        (SIZEOF_POINTER - 1)) = true ↔
      Begins (firmwareText reply) SUPPORTED_READER_FIRMWARE_ARRAY := by
  have all : compared SUPPORTED_READER_FIRMWARE_ARRAY = SUPPORTED_READER_FIRMWARE_ARRAY := by
    decide
  rw [any_strncmpEq (by decide), all, begins_bufferString]

/-- A reader with another name is not supported, and nothing fails. -/
lemma checkWith_unnamed (other : ¬ Begins name (compared SUPPORTED_READER_NAME_ARRAY)) :
    checkWith pReader name stack answers = (SCARD_S_SUCCESS, false, pReader) := by
  rw [checkWith, acr122UReaderCheck, if_pos (mt any_supportedName.1 other)]
  rfl

/-- A reader with a name of which the compared part is supported is asked for its firmware. -/
lemma checkWith_named (named : Begins name (compared SUPPORTED_READER_NAME_ARRAY)) :
    ((answers 0).1 ≠ SCARD_S_SUCCESS → (checkWith pReader name stack answers).1 = (answers 0).1) ∧
    ((answers 0).1 = SCARD_S_SUCCESS → ((checkWith pReader name stack answers).2.1 = true ↔
      Begins (firmwareText (answers 0).2) SUPPORTED_READER_FIRMWARE_ARRAY)) := by
  rw [checkWith, acr122UReaderCheck, if_neg (not_not.2 (any_supportedName.2 named)),
    Prog.run_bind, apduSend_plain (by decide)]
  dsimp only [inOrder, List.length_nil]
  constructor
  · intro error
    rw [if_pos error]
    rfl
  · intro ok
    rw [if_neg (not_not.2 ok)]
    by_cases h : Begins (firmwareText (answers 0).2) SUPPORTED_READER_FIRMWARE_ARRAY
    · rw [if_neg (not_not.2 (any_supportedFirmware.2 h))]
      refine iff_of_true ?_ h
      refine Prog.Ensures.run (P := fun x : LONG × Bool × tReader => x.2.1 = true) ?_ _ _
      refine Prog.ensures_true.bind fun ⟨_, atr⟩ _ =>
        Prog.ensures_true.bind fun ⟨rv, buf, len⟩ _ => ?_
      dsimp only
      split
      · rfl
      split
      · refine Prog.ensures_true.bind fun ⟨rv, buf, len⟩ _ => ?_
        dsimp only
        split
        · rfl
        refine Prog.ensures_true.bind fun ⟨rv, buf, len⟩ _ => ?_
        dsimp only
        split
        · rfl
        exact Prog.ensures_true.bind fun _ _ => rfl
      · exact Prog.ensures_true.bind fun _ _ => rfl
    · rw [if_pos (mt any_supportedFirmware.1 h)]
      exact iff_of_false Bool.false_ne_true h

/-- Later exchanges that succeed: there is no SAM in the reader, and no reply to fetch. -/
def succeeding (reply : List BYTE) : Nat → LONG × List BYTE
  | 0 => (SCARD_S_SUCCESS, reply)
  | 1 => (SCARD_S_SUCCESS, [0x3B, 0x00])
  | _ + 2 => (SCARD_S_SUCCESS, [SW1_SUCCESS, 0x00])

/-- A reader with a supported name and firmware is checked with success. -/
lemma checkWith_succeeding {reply : List BYTE}
    (named : Begins name (compared SUPPORTED_READER_NAME_ARRAY))
    (firmware : Begins (firmwareText reply) SUPPORTED_READER_FIRMWARE_ARRAY) :
    (checkWith pReader name stack (succeeding reply)).1 = SCARD_S_SUCCESS := by
  rw [checkWith, acr122UReaderCheck, if_neg (not_not.2 (any_supportedName.2 named)),
    Prog.run_bind, apduSend_plain (by decide)]
  dsimp only [inOrder, List.length_nil, succeeding]
  rw [if_neg (by decide), if_neg (not_not.2 (any_supportedFirmware.2 firmware))]
  rw [Prog.run_bind, Prog.run_bind,
    @apduSend_empty _ _ APDU_SET_RETRY _ _ _ _ [SW1_SUCCESS, 0x00] rfl rfl rfl rfl]
  dsimp only
  rw [if_neg (by decide)]
  rw [if_neg]
  · rfl
  -- the ATR is that of a reader without a SAM
  · exact not_or.2 ⟨not_not.2 rfl, not_not.2 rfl⟩

end

/-- A supported reader with firmware that the driver was tested with. -/
def Supported (name : CString) (reply : List BYTE) : Prop :=
  Begins name SUPPORTED_READER_NAME_ARRAY ∧
    Begins (firmwareText reply) SUPPORTED_READER_FIRMWARE_ARRAY

/-- The name begins like the one of a supported reader as far as the driver compares it, but is
another one. -/
def Mistaken (name : CString) : Prop :=
  Begins name (compared SUPPORTED_READER_NAME_ARRAY) ∧ ¬ Begins name SUPPORTED_READER_NAME_ARRAY

/-- A text that begins with one of the array begins with the part that is compared. -/
lemma Begins.compared {name : CString} {array} (h : Begins name array) :
    Begins name (compared array) := by
  obtain ⟨t, ht, before⟩ := h
  exact ⟨_, List.mem_map_of_mem ht, (List.take_prefix _ t).trans before⟩

/-- Whatever the later exchanges bring, a check that succeeds accepts exactly the supported readers,
unless the firmware is supported and the name is mistaken for a supported one. -/
theorem supported_iff {pReader : tReader} {name : CString} {stack : Buffer} {reply : List BYTE} :
    (∀ answers : Nat → LONG × List BYTE, (answers 0).2 = reply →
        (checkWith pReader name stack answers).1 = SCARD_S_SUCCESS →
        ((checkWith pReader name stack answers).2.1 = true ↔ Supported name reply)) ↔
      ¬ (Mistaken name ∧ Begins (firmwareText reply) SUPPORTED_READER_FIRMWARE_ARRAY) := by
  constructor
  · rintro exact ⟨⟨named, other⟩, firmware⟩
    have accepted := (@checkWith_named pReader name stack (succeeding reply) named).2 rfl
    have h := exact (succeeding reply) rfl (checkWith_succeeding named firmware)
    exact other (h.1 (accepted.2 firmware)).1
  · intro clear answers first success
    by_cases named : Begins name (compared SUPPORTED_READER_NAME_ARRAY)
    · obtain ⟨error, accepted⟩ := @checkWith_named pReader name stack answers named
      have ok : (answers 0).1 = SCARD_S_SUCCESS := by
        by_contra failed
        exact failed ((error failed).symm.trans success)
      rw [accepted ok, first]
      constructor
      · intro firmware
        refine ⟨?_, firmware⟩
        by_contra other
        exact clear ⟨⟨named, other⟩, firmware⟩
      · exact And.right
    · rw [checkWith_unnamed named]
      exact iff_of_false Bool.false_ne_true fun supported => named supported.1.compared

/-- A reader with another name that begins with `ACS ACR`. -/
def piccInterface : CString := "ACS ACR122U PICC Interface 00 00".toList

/-- It is accepted. -/
theorem accepted_piccInterface :
    (checkWith .reset piccInterface (fun _ => 0) (succeeding acr122Firmware)).1 =
        SCARD_S_SUCCESS ∧
      (checkWith .reset piccInterface (fun _ => 0) (succeeding acr122Firmware)).2.1 = true ∧
      ¬ Supported piccInterface acr122Firmware := by
  have other : ¬ Begins piccInterface SUPPORTED_READER_NAME_ARRAY := by decide
  have named : Begins piccInterface (compared SUPPORTED_READER_NAME_ARRAY) := by decide
  have firmware : Begins (firmwareText acr122Firmware) SUPPORTED_READER_FIRMWARE_ARRAY := by decide
  exact ⟨checkWith_succeeding named firmware, ((checkWith_named named).2 rfl).2 firmware,
    fun supported => other supported.1⟩

end TagEventor
