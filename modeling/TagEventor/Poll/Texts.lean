import Mathlib.Algebra.Order.Ring.Nat
import TagEventor.Lib.Memory
import TagEventor.Poll.TagEvents
import TagEventor.Reader.Bounds

/-!
# Texts in fixed buffers

Two texts are written piece by piece: the hexadecimal view of the contents of a tag, at a fixed
stride of five characters, and the list of the tags in the message for the callback, each line at
the end of the ones before. The view is never right (`hexView_never`): its terminator lies behind
the block, and a byte from 80 on is printed with its sign extended. The message fits as long as the
lines together do (`message_fits_iff`).
-/

namespace TagEventor
open Memory

/-- A C string is found at an address. -/
def StringAt (mem : Nat → Char) (start : Nat) (text : CString) : Prop :=
  '\x00' ∉ text ∧ Holds mem start (text ++ ['\x00'])

/-- `sprintf` at an address: the text and its terminator. -/
def sprintfAt (start : Nat) (text : CString) : Write Char := ⟨start, text ++ ['\x00']⟩

/-- `%02X` of an `unsigned int`. -/
def sprintfHex (n : BitVec 32) : CString :=
  let digits := (Nat.toDigits 16 n.toNat).map Char.toUpper
  .replicate (2 - digits.length) '0' ++ digits

/-- `"0x%02X "` of a byte; it is a `char`, which is signed, and becomes an `int`. -/
def hexItem (b : BYTE) : CString := "0x".toList ++ sprintfHex (b.toBitVec.signExtend 32) ++ [' ']

namespace tagEventor

/-- `sPrintBufferHex` of `tagEventor.c`, as what it writes from `asciiDest` on. -/
def sPrintBufferHex (asciiDest : Nat) : List BYTE → List (Write Char)
  | [] => [⟨asciiDest, ['\x00']⟩]
  | b :: byteSource =>
    sprintfAt asciiDest (hexItem b) :: sPrintBufferHex (asciiDest + 5) byteSource

end tagEventor

/-- The size of the block that `tagAttachData` allocates for the view of `dataSize` bytes. -/
def hookSize (dataSize : Nat) : Nat := 5 * dataSize

/-- `0x`, two upper-case digits and a space. -/
def hexEntry (b : BYTE) : CString := "0x".toList ++ (hexByte b).map Char.toUpper ++ [' ']

/-- The view of the contents of a tag is written into its block, and is that of all its bytes. -/
structure HexViewRight (bytes : List BYTE) (mem : Nat → Char) : Prop where
  inBounds : ∀ w ∈ tagEventor.sPrintBufferHex 0 bytes, w.InBounds (hookSize bytes.length)
  text : StringAt ((tagEventor.sPrintBufferHex 0 bytes).foldl store mem) 0 (bytes.flatMap hexEntry)

/-- The last thing written is the terminator. -/
lemma terminator_written {start bytes} :
    ⟨start + 5 * bytes.length, ['\x00']⟩ ∈ tagEventor.sPrintBufferHex start bytes := by
  induction bytes generalizing start with
  | nil => exact List.mem_singleton_self _
  | cons b bytes ih =>
    have e : start + 5 * (b :: bytes).length = start + 5 + 5 * bytes.length := by
      rw [List.length_cons]
      omega
    rw [e]
    exact List.mem_cons_of_mem _ ih

/-- The terminator lies behind the block. -/
theorem hexView_never {bytes : List BYTE} {mem : Nat → Char} : ¬ HexViewRight bytes mem := by
  intro right
  have inside := right.inBounds _ terminator_written
  exact absurd inside (by simp [Write.InBounds, hookSize])

/-- An item begins with five characters, the right ones exactly if its byte is below 80. -/
lemma hexItem_take {b : BYTE} :
    ((hexItem b).take 5).length = 5 ∧ '\x00' ∉ (hexItem b).take 5 ∧
      ((hexItem b).take 5 = hexEntry b ↔ b < 128) := by
  have bytes : ∀ n < 256, ((hexItem (UInt8.ofNat n)).take 5).length = 5 ∧
      '\x00' ∉ (hexItem (UInt8.ofNat n)).take 5 ∧
      ((hexItem (UInt8.ofNat n)).take 5 = hexEntry (UInt8.ofNat n) ↔ UInt8.ofNat n < 128) := by
    decide +kernel
  have h := bytes b.toNat b.toNat_lt
  rwa [UInt8.ofNat_toNat] at h

/-- The string that is left: the first five characters of each item. -/
lemma hexView_string {bytes : List BYTE} {mem : Nat → Char} {start before}
    (h : Holds mem 0 before) (length : before.length = start) :
    Holds ((tagEventor.sPrintBufferHex start bytes).foldl store mem) 0
      (before ++ bytes.flatMap (fun b => (hexItem b).take 5) ++ ['\x00']) := by
  induction bytes generalizing mem start before with
  | nil =>
    subst length
    rw [List.flatMap_nil, List.append_nil]
    have e := @Holds.append _ _ 0 before ['\x00'] h
    rwa [Nat.zero_add] at e
  | cons b bytes ih =>
    subst length
    have item := @Holds.append _ _ 0 before (hexItem b ++ ['\x00']) h
    rw [Nat.zero_add] at item
    have kept : Holds (store mem (sprintfAt before.length (hexItem b))) 0
        (before ++ (hexItem b).take 5) := by
      have long : 5 ≤ (hexItem b).length := by
        have h := (@hexItem_take b).1
        rw [List.length_take] at h
        omega
      have first := item.take (n := before.length + 5)
      rwa [List.take_length_add_append, List.take_append_of_le_length long] at first
    have next := ih kept (by rw [List.length_append, hexItem_take.1])
    rw [List.flatMap_cons, ← List.append_assoc]
    exact next

/-- Two texts made of pieces of five characters are equal piece by piece. -/
lemma flatMap_inj {f g : BYTE → CString} (five : ∀ b, (f b).length = 5 ∧ (g b).length = 5)
    {bytes : List BYTE} : bytes.flatMap f = bytes.flatMap g ↔ ∀ b ∈ bytes, f b = g b := by
  induction bytes with
  | nil => exact iff_of_true rfl nofun
  | cons b bytes ih =>
    rw [List.flatMap_cons, List.flatMap_cons, List.forall_mem_cons, ← ih]
    constructor
    · intro e
      exact List.append_inj e ((five b).1.trans (five b).2.symm)
    · rintro ⟨hb, ht⟩
      rw [hb, ht]

/-- Five characters for each byte. -/
lemma flatMap_length {f : BYTE → CString} (five : ∀ b, (f b).length = 5) {bytes : List BYTE} :
    (bytes.flatMap f).length = 5 * bytes.length := by
  induction bytes with
  | nil => rfl
  | cons b bytes ih =>
    rw [List.flatMap_cons, List.length_append, five, ih, List.length_cons]
    omega

/-- The string is the right one exactly if no byte is printed with its sign. -/
theorem hexView_string_iff {bytes : List BYTE} {mem : Nat → Char} :
    StringAt ((tagEventor.sPrintBufferHex 0 bytes).foldl store mem) 0 (bytes.flatMap hexEntry) ↔
      ∀ b ∈ bytes, b < 128 := by
  have held : Holds ((tagEventor.sPrintBufferHex 0 bytes).foldl store mem) 0
      (bytes.flatMap (fun b => (hexItem b).take 5) ++ ['\x00']) :=
    @hexView_string bytes mem 0 [] holds_nil rfl
  have five : ∀ b, ((hexItem b).take 5).length = 5 ∧ (hexEntry b).length = 5 :=
    fun b => ⟨hexItem_take.1, rfl⟩
  have same : bytes.flatMap (fun b => (hexItem b).take 5) = bytes.flatMap hexEntry ↔
      ∀ b ∈ bytes, b < 128 :=
    (flatMap_inj five).trans (forall₂_congr fun b _ => hexItem_take.2.2)
  rw [← same]
  constructor
  · intro right
    refine List.append_cancel_right (held.unique right.2 ?_)
    rw [List.length_append, List.length_append, flatMap_length fun b => (five b).1,
      flatMap_length fun b => (five b).2]
  · intro e
    rw [← e]
    refine ⟨fun nul => ?_, held⟩
    obtain ⟨b, _, hb⟩ := List.mem_flatMap.1 nul
    exact hexItem_take.2.1 hb

/-- The data of `testTag`. -/
def testData : List BYTE := [0x54, 0x65, 0x73, 0x74, 0x20, 0x44, 0x61, 0x74, 0x61]

/-- The view of the nine bytes of the test data takes 46 characters. -/
theorem hexView_overruns_testData : ¬ HexViewRight testData fun _ => ' ' := by
  intro right
  have last : (⟨45, ['\x00']⟩ : Write Char) ∈ tagEventor.sPrintBufferHex 0 testData := by
    decide +kernel
  exact absurd (right.inBounds _ last) (by decide)

/-- The size of the buffers for messages. -/
def MAX_LOG_MESSAGE : Nat := 200

/-- The size of `tagLine`: room for a UID, for the format and for ten characters more. -/
def TAG_LINE_SIZE : Nat := MAX_TAG_UID_SIZE + "Tag UID: %s  ".length + 10

/-- What the loop over the current tags does: `sprintf` to `tagLine`, and `strcat` to `tagMessage`,
which holds `message` so far. -/
def tagMessageLoop (message : CString) : List CString → List (Write Char × Write Char)
  | [] => []
  | uid :: uids =>
    let tagLine := TAGEVENTOR_STRING_TAG_LINE uid
    (sprintfAt 0 tagLine, sprintfAt message.length tagLine) ::
      tagMessageLoop (message ++ tagLine) uids

/-- What is written to `tagMessage`, first of all the terminator of the empty string. -/
def tagMessageWrites (uids : List CString) : List (Write Char) :=
  ⟨0, ['\x00']⟩ :: (tagMessageLoop [] uids).map Prod.snd

/-- All that is written for the message stays inside of its two arrays. -/
structure MessageFits (uids : List CString) : Prop where
  message : ∀ w ∈ tagMessageWrites uids, w.InBounds MAX_LOG_MESSAGE
  lines : ∀ w ∈ (tagMessageLoop [] uids).map Prod.fst, w.InBounds TAG_LINE_SIZE

/-- The UIDs in lists of tags as the readers produce them, one list for each reader. -/
structure Produced (readers : List (List CString)) : Prop where
  count : readers.length ≤ MAX_NUM_READERS
  tags : ∀ tags ∈ readers, tags.length ≤ ACR122U_MAX_NUM_TAGS
  uids : ∀ uid ∈ readers.flatten, uid.length + 1 ≤ MAX_TAG_UID_SIZE

/-- The characters of the message. -/
def messageLength (uids : List CString) : Nat := (uids.map fun uid => 11 + uid.length).sum

/-- The line of a tag has eleven characters beside the UID. -/
lemma tagLine_length {uid : CString} :
    (TAGEVENTOR_STRING_TAG_LINE uid).length = 11 + uid.length := by
  have before : "Tag UID: ".toList.length = 9 := rfl
  have after : "  ".toList.length = 2 := rfl
  have e : (TAGEVENTOR_STRING_TAG_LINE uid).length =
    ("Tag UID: ".toList ++ uid ++ "  ".toList).length := rfl
  rw [e, List.length_append, List.length_append, before, after]
  omega

/-- The loop leaves the lines, one after the other. -/
lemma tagMessageLoop_string {message : CString} {uids : List CString} {mem : Nat → Char}
    (h : Holds mem 0 (message ++ ['\x00'])) :
    Holds (((tagMessageLoop message uids).map Prod.snd).foldl store mem) 0
      (message ++ uids.flatMap TAGEVENTOR_STRING_TAG_LINE ++ ['\x00']) := by
  induction uids generalizing message mem with
  | nil =>
    rw [List.flatMap_nil, List.append_nil]
    exact h
  | cons uid uids ih =>
    have line := @Holds.append _ _ 0 message (TAGEVENTOR_STRING_TAG_LINE uid ++ ['\x00'])
      (holds_append.1 h).1
    rw [Nat.zero_add, ← List.append_assoc] at line
    rw [List.flatMap_cons, ← List.append_assoc]
    exact ih line

/-- The string that is left is the message that the callback gets. -/
theorem tagMessage_string {uids : List CString} {mem : Nat → Char} :
    Holds ((tagMessageWrites uids).foldl store mem) 0
      (uids.flatMap TAGEVENTOR_STRING_TAG_LINE ++ ['\x00']) :=
  tagMessageLoop_string holds_store

/-- A line is appended inside of a block exactly if the text with all lines fits into it. -/
lemma tagMessageLoop_inBounds {message : CString} {uids size} (room : message.length + 1 ≤ size) :
    (∀ w ∈ (tagMessageLoop message uids).map Prod.snd, w.InBounds size) ↔
      message.length + messageLength uids + 1 ≤ size := by
  induction uids generalizing message with
  | nil =>
    exact iff_of_true nofun room
  | cons uid uids ih =>
    have line : (sprintfAt message.length (TAGEVENTOR_STRING_TAG_LINE uid)).InBounds size ↔
        (message ++ TAGEVENTOR_STRING_TAG_LINE uid).length + 1 ≤ size := by
      rw [Write.InBounds, sprintfAt, List.length_append, List.length_append, Nat.add_assoc]
      rfl
    have sum : (message ++ TAGEVENTOR_STRING_TAG_LINE uid).length + messageLength uids =
        message.length + messageLength (uid :: uids) := by
      rw [List.length_append, tagLine_length, messageLength, messageLength, List.map_cons,
        List.sum_cons, Nat.add_assoc]
    show (∀ w ∈ sprintfAt _ _ :: (tagMessageLoop _ uids).map Prod.snd, w.InBounds size) ↔ _
    rw [List.forall_mem_cons, line, ← sum]
    constructor
    · rintro ⟨room, rest⟩
      exact (ih room).1 rest
    · intro fits
      have room : (message ++ TAGEVENTOR_STRING_TAG_LINE uid).length + 1 ≤ size := by omega
      exact ⟨room, (ih room).2 fits⟩

/-- Each line fits into its array. -/
lemma tagLines_inBounds {message : CString} {uids : List CString}
    (short : ∀ uid ∈ uids, uid.length + 1 ≤ MAX_TAG_UID_SIZE) :
    ∀ w ∈ (tagMessageLoop message uids).map Prod.fst, w.InBounds TAG_LINE_SIZE := by
  induction uids generalizing message with
  | nil =>
    exact nofun
  | cons uid uids ih =>
    intro w mem
    cases mem with
    | head =>
      have fits : uid.length + 1 ≤ 20 := short uid List.mem_cons_self
      have size : TAG_LINE_SIZE = 43 := rfl
      rw [Write.InBounds, sprintfAt, List.length_append, tagLine_length, size,
        List.length_singleton, Nat.zero_add]
      omega
    | tail _ mem => exact ih (fun uid h => short uid (List.mem_cons_of_mem _ h)) w mem

/-- The message for the tags of the readers fits exactly if its lines and a terminator do. -/
theorem message_fits_iff {readers : List (List CString)} (produced : Produced readers) :
    MessageFits readers.flatten ↔ messageLength readers.flatten + 1 ≤ MAX_LOG_MESSAGE := by
  have lines : ∀ w ∈ (tagMessageLoop [] readers.flatten).map Prod.fst, w.InBounds TAG_LINE_SIZE :=
    tagLines_inBounds produced.uids
  have room := @tagMessageLoop_inBounds [] readers.flatten MAX_LOG_MESSAGE (by decide)
  rw [List.length_nil, Nat.zero_add] at room
  rw [← room]
  constructor
  · intro fits w mem
    exact fits.message w (List.mem_cons_of_mem _ mem)
  · intro fits
    refine ⟨List.forall_mem_cons.2 ⟨?_, fits⟩, lines⟩
    decide

/-- Up to six tags, those of three readers say, always fit. -/
theorem message_fits_of_few {uids : List CString} (few : uids.length ≤ 6)
    (short : ∀ uid ∈ uids, uid.length + 1 ≤ MAX_TAG_UID_SIZE) :
    messageLength uids + 1 ≤ MAX_LOG_MESSAGE := by
  have bound : messageLength uids ≤ 30 * uids.length := by
    clear few
    induction uids with
    | nil => exact Nat.le_refl 0
    | cons uid uids ih =>
      have first : uid.length + 1 ≤ 20 := short uid List.mem_cons_self
      have rest := ih fun uid h => short uid (List.mem_cons_of_mem _ h)
      have sum : messageLength (uid :: uids) = 11 + uid.length + messageLength uids :=
        List.sum_cons
      rw [sum, List.length_cons]
      omega
  have size : MAX_LOG_MESSAGE = 200 := rfl
  omega

/-- Four readers with two tags each, whose UIDs have seven bytes. -/
def eightTags : List (List CString) := .replicate 4 (.replicate 2 "04a1b2c3d4e5f6".toList)

/-- The lines for eight such tags take 200 characters. -/
theorem message_overruns_eightTags : Produced eightTags ∧ ¬ MessageFits eightTags.flatten := by
  refine ⟨⟨by decide, by decide, by decide +kernel⟩, fun fits => ?_⟩
  have overrun : (tagMessageWrites eightTags.flatten).all (·.InBounds MAX_LOG_MESSAGE) = false := by
    decide +kernel
  rw [List.all_eq_true.2 fun w mem => decide_eq_true (fits.message w mem)] at overrun
  cases overrun

/-- What decides about them. -/
theorem message_fits_iff_eightTags :
    MessageFits eightTags.flatten ↔ messageLength eightTags.flatten + 1 ≤ MAX_LOG_MESSAGE :=
  message_fits_iff ⟨by decide, by decide, by decide +kernel⟩

end TagEventor
