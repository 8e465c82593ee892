import TagEventor.Jpcsc.Command
import TagEventor.Jpcsc.Parsing

/-!
# Commands that are built step by step

After `set(cla, ins, p1, p2)` a payload is added to an `Apdu` by `addByte`, `addString` and `addLe`,
and the length byte is counted up. What is thrown may be caught, and the `Apdu` used again:
`additions_transmitted` says what the card gets after any calls.

* The length of the `Apdu` does not overflow.
-/

namespace TagEventor.Jpcsc

/-- A call that adds something. -/
inductive Addition where
  | addByte (b : Int)
  | addString (s : JString)
  | addLe (le : Int)

namespace Apdu

/-- `set(cla, ins, p1, p2)`. -/
def setHeader (cla ins p1 p2 : Int) (a : Apdu) : Option Thrown × Apdu :=
  let written := do
    let buf ← assign a.buf 0 (UInt8.ofInt cla)
    let buf ← assign buf 1 (UInt8.ofInt ins)
    let buf ← assign buf 2 (UInt8.ofInt p1)
    let buf ← assign buf 3 (UInt8.ofInt p2)
    assign buf 4 0
  match written with
  | .error (thrown, buf) => (some thrown, { a with buf })
  | .ok buf => (none, ⟨buf, 5⟩)

/-- `this.buf[this.len++] = b`: the length is incremented before the access. -/
def push (b : BYTE) (a : Apdu) : Option Thrown × Apdu :=
  match assign a.buf a.len b with
  | .error (thrown, buf) => (some thrown, ⟨buf, a.len + 1⟩)
  | .ok buf => (none, ⟨buf, a.len + 1⟩)

/-- `this.buf[4] += n`. -/
def count (n : Nat) (a : Apdu) : Option Apdu :=
  a.buf[4]?.map fun lc => { a with buf := a.buf.set 4 (lc + UInt8.ofNat n) }

/-- `addByte`. -/
def addByte (b : BYTE) (a : Apdu) : Option Thrown × Apdu :=
  match a.count 1 with
  | none => (some outOfBounds, a)
  | some a => a.push b

section
variable (unicodeDigit : Char → Option Nat)

/-- `addString`. -/
def addString (s : JString) (a : Apdu) : Option Thrown × Apdu :=
  match s2ba unicodeDigit s a.buf a.len with
  | .error (thrown, buf) => (some thrown, { a with buf })
  | .ok (len, buf) =>
    match Apdu.count len { a with buf } with
    | none => (some outOfBounds, { a with buf })
    | some a => (none, { a with len := a.len + len })

/-- `addLe`. -/
def addLe (le : Int) (a : Apdu) : Option Thrown × Apdu :=
  if le < 0 then (none, a) else a.push (UInt8.ofInt le)

/-- One of the calls. -/
def add (a : Apdu) : Addition → Option Thrown × Apdu
  | .addByte b => a.addByte (UInt8.ofInt b)
  | .addString s => a.addString unicodeDigit s
  | .addLe le => a.addLe le

/-- Some calls after each other; what they throw is caught. -/
def addAll (calls : List Addition) (a : Apdu) : Apdu :=
  calls.foldl (fun a call => (a.add unicodeDigit call).2) a

end

end Apdu

/-- The bytes that were added, and how many of them are counted. -/
structure Payload where
  counted : Nat
  bytes : List BYTE

namespace Payload

/-- Some bytes are added, if they fit behind the others. -/
def append (room : Nat) (p : Payload) (counted : Nat) (bytes : List BYTE) : Option Payload :=
  if p.bytes.length + bytes.length ≤ room then some ⟨p.counted + counted, p.bytes ++ bytes⟩
  else none

section
variable (unicodeDigit : Char → Option Nat) (room : Nat)

/-- What a call adds: all bytes of a text or nothing. A single byte that does not fit is lost, and
with it the payload. -/
def add (p : Payload) : Addition → Option Payload
  | .addByte b => p.append room 1 [UInt8.ofInt b]
  | .addString s =>
    match s2baArray unicodeDigit s with
    | .error _ => some p
    | .ok bytes => some ((p.append room bytes.length bytes).getD p)
  | .addLe le => if le < 0 then some p else p.append room 0 [UInt8.ofInt le]

/-- What some calls add. -/
def addAll (calls : List Addition) : Option Payload := calls.foldlM (add unicodeDigit room) ⟨0, []⟩

end

end Payload

/-- What is passed to the card for a payload. -/
def sent (header : List BYTE) : Option Payload → Except Thrown (List BYTE)
  | none => .error outOfBounds
  | some p => .ok (header ++ UInt8.ofNat p.counted :: p.bytes)

section
variable {unicodeDigit : Char → Option Nat} {s text text' : JString} {ba ba' : List BYTE}
  {off n : Nat} {v v' : Conversion} {thrown : Thrown}

/-- The conversion has changed nothing before the offset. -/
structure Conversion.Behind (ba : List BYTE) (off : Nat) (v : Conversion) : Prop where
  length : v.ba.length = ba.length
  before : v.ba.take off = ba.take off
  bpos : off ≤ v.bpos
  brackets : ∀ start ∈ v.braceTab, off ≤ start

/-- What is written stays behind the offset. -/
lemma Conversion.Behind.wrote {bytes} (h : v.Behind ba off) : (v.wrote bytes).Behind ba off where
  length := length_writeAt.trans h.length
  before := (take_writeAt_behind h.bpos).trans h.before
  bpos := Nat.le_add_right_of_le h.bpos
  brackets := h.brackets

/-- A round writes behind the offset only. -/
lemma Converts.behind (h : Converts unicodeDigit v text v' text') (behind : v.Behind ba off) :
    v'.Behind ba off := by
  cases h with
  | colon => exact behind
  | space => exact behind
  | bar => exact ⟨behind.length, behind.before, behind.bpos, behind.brackets⟩
  | opened =>
    refine ⟨behind.length, behind.before, Nat.le_succ_of_le behind.bpos, ?_⟩
    intro start mem
    rcases List.mem_cons.1 mem with rfl | mem
    · exact behind.bpos
    · exact behind.brackets start mem
  | closed _ entry =>
    have inner := behind.brackets
    rw [entry] at inner
    refine ⟨List.length_set.trans behind.length, ?_, behind.bpos, ?_⟩
    · dsimp only
      rw [List.take_set_of_le (inner _ List.mem_cons_self), behind.before]
    · exact fun start mem => inner start (List.mem_cons_of_mem _ mem)
  | char => exact behind.wrote
  | number => exact behind.wrote

/-- A round that throws has changed nothing itself. -/
lemma round_throws {c rest} (h : v.round unicodeDigit s c rest = .error (thrown, ba)) :
    ba = v.ba := by
  unfold Conversion.round at h
  split at h
  · cases h
  split at h
  · change (if (rest.takeWhile (· = ' ')).length < rest.length then _ else _) = _ at h
    split at h
    · cases h
    · cases h
      rfl
  repeat' split at h
  all_goals cases h <;> rfl

/-- Whatever a text is, nothing changes before the offset. -/
lemma loop_throws {skip} (h : s2baLoop unicodeDigit s text skip v = .error (thrown, ba'))
    (behind : v.Behind ba off) : ba'.length = ba.length ∧ ba'.take off = ba.take off := by
  induction text generalizing skip v with
  | nil => cases h
  | cons c text ih =>
    cases skip with
    | succ skip => exact ih h behind
    | zero =>
      rw [s2baLoop] at h
      split at h
      next round =>
        cases h
        obtain rfl := round_throws round
        exact ⟨behind.length, behind.before⟩
      next round => exact ih h ((round_converts round).2.behind behind)

/-- The loop writes behind the offset only. -/
lemma loop_behind (h : s2baLoop unicodeDigit s text n v = .ok v')
    (behind : v.Behind ba off) : v'.Behind ba off := by
  induction text generalizing n v with
  | nil =>
    cases h
    exact behind
  | cons c text ih =>
    cases n with
    | succ n => exact ih h behind
    | zero =>
      rw [s2baLoop] at h
      split at h
      next => cases h
      next round => exact ih h ((round_converts round).2.behind behind)

/-- A text that is refused leaves everything before the offset as it was. -/
lemma s2ba_throws (h : s2ba unicodeDigit s ba off = .error (thrown, ba')) :
    ba'.length = ba.length ∧ ba'.take off = ba.take off := by
  have behind : Conversion.Behind ba off ⟨ba, [], false, off⟩ :=
    ⟨rfl, rfl, Nat.le_refl _, nofun⟩
  unfold s2ba at h
  split at h
  next loop =>
    cases h
    exact loop_throws loop behind
  next v loop =>
    have behind := loop_behind loop behind
    split at h
    · cases h
      exact ⟨behind.length, behind.before⟩
    · cases h

/-- Behind an offset a text is converted as it is into an array of its own. -/
lemma s2ba_iff_array : s2ba unicodeDigit s ba off = .ok (n, ba') ↔
    ∃ bytes, s2baArray unicodeDigit s = .ok bytes ∧ Room ba off bytes.length ∧
      n = bytes.length ∧ ba' = writeAt ba off bytes := by
  rw [s2ba_iff]
  constructor
  · rintro ⟨spec, reads, few, written⟩
    exact ⟨spec.bytes, reads.array few, written⟩
  · rintro ⟨bytes, array, written⟩
    obtain ⟨spec, reads, few, rfl⟩ := reads_of_array array
    exact ⟨spec, reads, few, written⟩

end

/-- What is in an `Apdu` with room for a payload; it is lost when the length is past the end. -/
inductive Holds (header : List BYTE) (room : Nat) : Option Payload → Apdu → Prop where
  | payload {p : Payload} {a : Apdu} :
    a.buf.length = 5 + room →
    a.len = 5 + p.bytes.length →
    p.bytes.length ≤ room →
    a.buf.take a.len = header ++ UInt8.ofNat p.counted :: p.bytes →
    Holds header room (some p) a
  | lost {a : Apdu} :
    a.buf.length = 5 + room →
    5 + room < a.len →
    Holds header room none a

section
variable {unicodeDigit : Char → Option Nat} {a : Apdu} {header bytes : List BYTE} {b : BYTE}
  {s : JString} {room n : Nat} {p : Payload} {payload : Option Payload} {le : Int}
  {call : Addition} {calls : List Addition}

/-- The bytes are passed to the card, or nothing. -/
lemma Holds.transmitted (h : Holds header room payload a) :
    a.transmitted = sent header payload := by
  unfold Apdu.transmitted
  cases h with
  | payload capacity length fits taken =>
    rw [if_neg (by omega), taken]
    rfl
  | lost capacity past =>
    rw [if_pos (by omega)]
    rfl

/-- A byte is added, with room for it or not. -/
lemma Holds.push (h : Holds header room (some p) a) :
    Holds header room (p.append room 0 [b]) (a.push b).2 := by
  cases h with
  | payload capacity length fits taken =>
    unfold Payload.append Apdu.push assign store
    rw [List.length_singleton]
    by_cases inside : p.bytes.length + 1 ≤ room
    · rw [if_pos inside, if_pos (by omega)]
      refine .payload (List.length_set.trans capacity) ?_ ?_ ?_
      · show a.len + 1 = 5 + (_ ++ [b]).length
        rw [List.length_append, List.length_singleton, length, Nat.add_assoc]
      · rwa [List.length_append, List.length_singleton]
      · show (writeAt a.buf a.len [b]).take (a.len + [b].length) = _
        rw [take_written (by rw [List.length_singleton]; omega), taken, List.append_assoc]
        rfl
    · rw [if_neg inside, if_neg (by omega)]
      refine .lost capacity ?_
      show _ < a.len + 1
      omega

/-- The length byte is counted up. -/
lemma Holds.count (header4 : header.length = 4) (h : Holds header room (some p) a) :
    ∃ lc, a.buf[4]? = some lc ∧
      Holds header room (some ⟨p.counted + n, p.bytes⟩)
        { a with buf := a.buf.set 4 (lc + UInt8.ofNat n) } := by
  cases h with
  | payload capacity length fits taken =>
    have lc : a.buf[4]? = some (UInt8.ofNat p.counted) := by
      rw [← List.getElem?_take_of_lt (by omega : 4 < a.len), taken,
        List.getElem?_append_right (by omega), header4]
      rfl
    refine ⟨_, lc, .payload (List.length_set.trans capacity) length fits ?_⟩
    show (a.buf.set 4 _).take a.len = _
    rw [List.take_set, taken, List.set_append_right _ _ (by omega), header4, ← UInt8.ofNat_add]
    rfl

/-- A byte that is added is the last one of the payload, if there is room. -/
lemma Holds.addByte (header4 : header.length = 4) (h : Holds header room (some p) a) :
    Holds header room (p.append room 1 [b]) (a.addByte b).2 := by
  obtain ⟨lc, some, counted⟩ := h.count (n := 1) header4
  unfold Apdu.addByte Apdu.count
  rw [some]
  exact counted.push

/-- A text that is refused adds nothing. -/
lemma Payload.add_refused {thrown} (array : s2baArray unicodeDigit s = .error thrown) :
    p.add unicodeDigit room (.addString s) = some p := by
  unfold Payload.add
  dsimp only
  rw [array]

/-- A text that is accepted adds its bytes, if there is room. -/
lemma Payload.add_text (array : s2baArray unicodeDigit s = .ok bytes) :
    p.add unicodeDigit room (.addString s) =
      some ((p.append room bytes.length bytes).getD p) := by
  unfold Payload.add
  dsimp only
  rw [array]

/-- A text is added as a whole or not at all. -/
lemma Holds.addString (header4 : header.length = 4) (h : Holds header room (some p) a) :
    Holds header room (p.add unicodeDigit room (.addString s)) (a.addString unicodeDigit s).2 := by
  unfold Apdu.addString
  cases h with
  | payload capacity length fits taken =>
    cases converted : s2ba unicodeDigit s a.buf a.len with
    | error thrown =>
      obtain ⟨kept, before⟩ := s2ba_throws converted
      have same : Holds header room (some p) { a with buf := thrown.2 } :=
        .payload (kept.trans capacity) length fits (before.trans taken)
      cases array : s2baArray unicodeDigit s with
      | error =>
        rw [Payload.add_refused array]
        exact same
      | ok bytes =>
        have tooLong : ¬ p.bytes.length + bytes.length ≤ room := by
          intro short
          have room : Room a.buf a.len bytes.length := .inr (by omega)
          have ok := s2ba_iff_array.2 ⟨bytes, array, room, rfl, rfl⟩
          cases converted.symm.trans ok
        rw [Payload.add_text array, Payload.append, if_neg tooLong]
        exact same
    | ok result =>
      obtain ⟨bytes, array, place, n, buf⟩ := s2ba_iff_array.1 converted
      have short : a.len + bytes.length ≤ a.buf.length := by
        unfold Room at place
        omega
      have written : Holds header room (some ⟨p.counted, p.bytes ++ bytes⟩)
          ⟨result.2, a.len + result.1⟩ := by
        rw [n, buf]
        refine .payload (length_writeAt.trans capacity) ?_ ?_ ?_
        · show a.len + _ = 5 + (_ ++ _ : List BYTE).length
          rw [List.length_append, length, Nat.add_assoc]
        · rw [List.length_append]
          omega
        · show (writeAt a.buf a.len bytes).take _ = _
          rw [take_written short, taken, List.append_assoc]
          rfl
      obtain ⟨lc, some, counted⟩ := written.count (n := result.1) header4
      unfold Apdu.count
      dsimp only at some ⊢
      rw [some, Payload.add_text array, Payload.append, if_pos (by omega), ← n]
      exact counted

/-- The length that is expected is the last byte of the payload. -/
lemma Holds.addLe (h : Holds header room (some p) a) :
    Holds header room (p.add unicodeDigit room (.addLe le)) (a.addLe le).2 := by
  unfold Apdu.addLe Payload.add
  dsimp only
  split
  · exact h
  · exact h.push

/-- What is past the end stays there. -/
lemma Holds.lost_add (h : Holds header room none a) :
    Holds header room none (a.add unicodeDigit call).2 := by
  cases h with
  | lost capacity past =>
  have push {a : Apdu} {b} (capacity : a.buf.length = 5 + room) (past : 5 + room < a.len) :
      Holds header room none (a.push b).2 := by
    unfold Apdu.push assign store
    rw [if_neg (by omega)]
    exact .lost capacity (Nat.lt_succ_of_lt past)
  cases call with
  | addByte b =>
    show Holds header room none (a.addByte _).2
    unfold Apdu.addByte Apdu.count
    cases a.buf[4]? with
    | none => exact .lost capacity past
    | some lc => exact push (List.length_set.trans capacity) past
  | addString s =>
    show Holds header room none (a.addString unicodeDigit s).2
    unfold Apdu.addString Apdu.count
    cases converted : s2ba unicodeDigit s a.buf a.len with
    | error thrown => exact .lost ((s2ba_throws converted).1.trans capacity) past
    | ok result =>
      obtain ⟨bytes, _, _, _, buf⟩ := s2ba_iff_array.1 converted
      have kept : result.2.length = 5 + room := by rw [buf, length_writeAt, capacity]
      dsimp only
      cases result.2[4]? with
      | none => exact .lost kept past
      | some lc => exact .lost (List.length_set.trans kept) (Nat.lt_add_right _ past)
  | addLe le =>
    show Holds header room none (a.addLe le).2
    unfold Apdu.addLe
    split
    · exact .lost capacity past
    · exact push capacity past

/-- One call does to the `Apdu` what it does to the payload. -/
lemma Holds.add (header4 : header.length = 4) (h : Holds header room (some p) a) :
    Holds header room (p.add unicodeDigit room call) (a.add unicodeDigit call).2 := by
  cases call with
  | addByte b => exact h.addByte header4
  | addString s => exact h.addString header4
  | addLe le => exact h.addLe

/-- All additions are held. -/
lemma Holds.addAll (header4 : header.length = 4) (h : Holds header room payload a) :
    Holds header room (payload.bind (calls.foldlM (Payload.add unicodeDigit room)))
      (a.addAll unicodeDigit calls) := by
  induction calls generalizing payload a with
  | nil =>
    cases payload with
    | none => exact h
    | some p => exact h
  | cons call calls ih =>
    cases payload with
    | none => exact ih h.lost_add
    | some p => exact ih (h.add header4)

/-- After any calls, with whatever was in the buffer before, the card gets the header, the number of
bytes that are counted and everything that was added; nothing once a single byte did not fit. -/
theorem additions_transmitted {cla ins p1 p2} (capacity : a.buf.length = 5 + room) :
    ((a.setHeader cla ins p1 p2).2.addAll unicodeDigit calls).transmitted =
      sent [UInt8.ofInt cla, UInt8.ofInt ins, UInt8.ofInt p1, UInt8.ofInt p2]
        (Payload.addAll unicodeDigit room calls) := by
  have start : a.setHeader cla ins p1 p2 = (none, ⟨writeAt a.buf 0 [UInt8.ofInt cla,
      UInt8.ofInt ins, UInt8.ofInt p1, UInt8.ofInt p2, 0], 5⟩) := by
    unfold Apdu.setHeader
    have written := @assign_header ⟨cla, ins, p1, p2, 0, none, 0, 0⟩ a.buf _ (assign · 4 0)
      (by omega)
    dsimp only at written ⊢
    rw [written, assign_fifth (by omega)]
    rfl
  rw [start]
  refine (@Holds.addAll unicodeDigit _ _ _ (some ⟨0, []⟩) _ rfl ?_).transmitted
  refine .payload (length_writeAt.trans capacity) rfl (Nat.zero_le _) ?_
  have taken {bytes : List BYTE} (five : bytes.length = 5) :
      (writeAt a.buf 0 bytes).take 5 = bytes := by
    rw [← five]
    exact take_writeAt (by omega)
  exact taken rfl

/-- An application is selected by its name; a name that does not fit is not added. -/
theorem additions_transmitted_select :
    ((Apdu.setHeader 0x00 0xa4 0x04 0x00 ⟨List.replicate 12 0xff, 12⟩).2.addAll (fun _ => none)
      [.addString "|hello|".toList, .addString "|world|".toList, .addByte 0x2a,
        .addLe 0x00]).transmitted =
      .ok [0x00, 0xa4, 0x04, 0x00, 6, 0x68, 0x65, 0x6c, 0x6c, 0x6f, 0x2a, 0x00] :=
  have capacity : (List.replicate 12 (0xff : BYTE)).length = 5 + 7 := rfl
  (additions_transmitted capacity).trans (by decide)

end

end TagEventor.Jpcsc
