import TagEventor.Jpcsc.Notation

/-!
# Three ways to send a command

A command can be written by `Apdu.construct`, by `Apdu.set` into the buffer of an `Apdu`, which is
used again and again, or by `Card.Transmit` into an array of its own. `sent_alike_iff` says for
which commands the card gets the same bytes.

* `p3` is not below -6, where the length of the `Apdu` would be negative.
-/

namespace TagEventor.Jpcsc

/-- The arguments of `construct`, `set` and `Transmit`. -/
structure Command where
  cla : Int
  ins : Int
  p1 : Int
  p2 : Int
  p3 : Int
  input : Option (List BYTE)
  off : Int
  le : Int

/-- An `Apdu`. -/
structure Apdu where
  buf : List BYTE
  len : Nat

/-- What is thrown by an access to an array. -/
def outOfBounds : Thrown := .ArrayIndexOutOfBoundsException none

/-- `ba[i] = b`; what is thrown comes with the array. -/
def assign (ba : List BYTE) (i : Nat) (b : BYTE) : Except (Thrown × List BYTE) (List BYTE) :=
  match store ba i b with
  | some ba => .ok ba
  | none => .error (outOfBounds, ba)

/-- `System.arraycopy`. -/
def arraycopy (src : List BYTE) (srcPos : Int) (dest : List BYTE) (destPos : Nat) (length : Int) :
    Except (Thrown × List BYTE) (List BYTE) :=
  if srcPos < 0 ∨ length < 0 ∨ srcPos + length > src.length ∨ destPos + length > dest.length then
    .error (outOfBounds, dest)
  else .ok (writeAt dest destPos ((src.drop srcPos.toNat).take length.toNat))

/-- `construct`. -/
def Command.construct (c : Command) : Except Thrown (List BYTE) := Except.mapError Prod.fst <| do
  let withPayload : Bool := c.input ≠ none ∧ c.p3 ≥ 0
  let size := 4 + (if withPayload then 1 + c.p3 else 0) + if c.le ≥ 0 then 1 else 0
  let apdu := List.replicate size.toNat 0
  let apdu ← assign apdu 0 (UInt8.ofInt c.cla)
  let apdu ← assign apdu 1 (UInt8.ofInt c.ins)
  let apdu ← assign apdu 2 (UInt8.ofInt c.p1)
  let apdu ← assign apdu 3 (UInt8.ofInt c.p2)
  let (apdu, off) ←
    if withPayload then do
      let apdu ← assign apdu 4 (UInt8.ofInt c.p3)
      let apdu ← arraycopy (c.input.getD []) c.off apdu 5 c.p3
      pure (apdu, 5 + c.p3.toNat)
    else pure (apdu, 4)
  if c.le ≥ 0 then assign apdu off (UInt8.ofInt c.le)
  else pure apdu

/-- The size of the array that `set` and `Transmit` ask for. -/
def Command.size (c : Command) : Int := 6 + if c.input = none then 0 else c.p3

/-- What `set` and `Transmit` write into an array, and the offset behind it. -/
def Command.write (c : Command) (apdu : List BYTE) :
    Except (Thrown × List BYTE) (List BYTE × Nat) := do
  let apdu ← assign apdu 0 (UInt8.ofInt c.cla)
  let apdu ← assign apdu 1 (UInt8.ofInt c.ins)
  let apdu ← assign apdu 2 (UInt8.ofInt c.p1)
  let apdu ← assign apdu 3 (UInt8.ofInt c.p2)
  let (apdu, off) ←
    if c.p3 ≥ 0 then do
      let apdu ← assign apdu 4 (UInt8.ofInt c.p3)
      match c.input with
      | some input => do
        let apdu ← arraycopy input c.off apdu 5 c.p3
        pure (apdu, c.p3.toNat + 5)
      | none => pure (apdu, 5)
    else pure (apdu, 5)
  if c.le ≥ 0 then do
    let apdu ← assign apdu off (UInt8.ofInt c.le)
    pure (apdu, off + 1)
  else pure (apdu, off)

/-- `set(cla, ins, p1, p2, p3, in, off, le)`. -/
def Apdu.set (c : Command) (a : Apdu) : Option Thrown × Apdu :=
  if c.size > a.buf.length then
    (some (.ArrayIndexOutOfBoundsException
      (some ("APDU buffer too small: requested size ".toList ++ (toString c.size).toList))), a)
  else
    match c.write a.buf with
    | .error (thrown, buf) => (some thrown, ⟨buf, c.size.toNat⟩)
    | .ok (buf, _) => (none, ⟨buf, c.size.toNat⟩)

/-- What `Transmit(apdu)` passes to the card. -/
def Apdu.transmitted (a : Apdu) : Except Thrown (List BYTE) :=
  if a.len > a.buf.length then .error outOfBounds else .ok (a.buf.take a.len)

/-- What `Transmit(cla, ins, p1, p2, p3, in, off, le)` passes to the card. -/
def Command.transmitted (c : Command) : Except Thrown (List BYTE) :=
  if c.size < 0 then .error .NegativeArraySizeException
  else
    match c.write (List.replicate c.size.toNat 0) with
    | .error (thrown, _) => .error thrown
    | .ok (apdu, off) => .ok (apdu.take off)

/-- What `set` and then `Transmit(apdu)` pass to the card, with a buffer that was used before. -/
def Command.transmittedFrom (c : Command) (buf : List BYTE) (len : Nat) :
    Except Thrown (List BYTE) :=
  match Apdu.set c ⟨buf, len⟩ with
  | (some thrown, _) => .error thrown
  | (none, a) => a.transmitted

namespace Command

/-- The four bytes at the beginning. -/
def header (c : Command) : List BYTE :=
  [UInt8.ofInt c.cla, UInt8.ofInt c.ins, UInt8.ofInt c.p1, UInt8.ofInt c.p2]

/-- The byte at the end, if there is one. -/
def expected (c : Command) : List BYTE := if c.le ≥ 0 then [UInt8.ofInt c.le] else []

/-- The range of the payload. -/
def payload (c : Command) (input : List BYTE) : List BYTE :=
  (input.drop c.off.toNat).take c.p3.toNat

/-- What is between them with a payload. -/
def body (c : Command) : List BYTE :=
  match c.input with
  | some input => if 0 ≤ c.p3 then UInt8.ofInt c.p3 :: c.payload input else []
  | none => []

/-- The arguments are as they are documented. -/
structure Valid (c : Command) : Prop where
  p3 : -1 ≤ c.p3
  le : -1 ≤ c.le
  range : ∀ input, c.input = some input → 0 ≤ c.p3 → 0 ≤ c.off ∧ c.off + c.p3 ≤ input.length

end Command

variable {c : Command} {ba apdu input bytes : List BYTE} {i : Nat} {b : BYTE}

/-- A byte is stored inside of an array. -/
lemma assign_ok (inside : i < ba.length) : assign ba i b = .ok (writeAt ba i [b]) := by
  unfold assign store
  rw [if_pos inside]
  rfl

/-- The four bytes of the header are stored one by one. -/
lemma assign_header {α : Type} {f : List BYTE → Except (Thrown × List BYTE) α}
    (room : 4 ≤ ba.length) :
    (do
      let apdu ← assign ba 0 (UInt8.ofInt c.cla)
      let apdu ← assign apdu 1 (UInt8.ofInt c.ins)
      let apdu ← assign apdu 2 (UInt8.ofInt c.p1)
      let apdu ← assign apdu 3 (UInt8.ofInt c.p2)
      f apdu) = f (writeAt ba 0 c.header) := by
  rw [assign_ok (by omega)]
  show (assign (writeAt ba 0 [_]) 1 _ >>= _) = _
  rw [assign_ok (by rw [length_writeAt]; omega)]
  show (assign (writeAt ba 0 [_, _]) 2 _ >>= _) = _
  rw [assign_ok (by rw [length_writeAt]; omega)]
  show (assign (writeAt ba 0 [_, _, _]) 3 _ >>= _) = _
  rw [assign_ok (by rw [length_writeAt]; omega)]
  rfl

/-- What was written from the beginning on is found there. -/
lemma take_writeAt (room : bytes.length ≤ ba.length) :
    (writeAt ba 0 bytes).take bytes.length = bytes := by
  rw [writeAt_eq (by omega), List.take_zero, List.nil_append, List.take_left' rfl]

/-- Something is assigned behind what was written. -/
lemma assign_behind (room : bytes.length < ba.length) :
    assign (writeAt ba 0 bytes) bytes.length b = .ok (writeAt ba 0 (bytes ++ [b])) := by
  rw [assign_ok (by rwa [length_writeAt]), writeAt_append, Nat.zero_add]

/-- The fifth byte is stored behind the header. -/
lemma assign_fifth (room : 4 < ba.length) :
    assign (writeAt ba 0 c.header) 4 b = .ok (writeAt ba 0 (c.header ++ [b])) :=
  have room : c.header.length < ba.length := room
  assign_behind room

/-- The expected length is stored behind the other bytes, if there is one. -/
lemma expected_written (room : (bytes ++ c.expected).length ≤ ba.length) :
    (if c.le ≥ 0 then do
        let apdu ← assign (writeAt ba 0 bytes) bytes.length (UInt8.ofInt c.le)
        pure (apdu, bytes.length + 1)
      else pure (writeAt ba 0 bytes, bytes.length)) =
      .ok (writeAt ba 0 (bytes ++ c.expected), (bytes ++ c.expected).length) := by
  unfold Command.expected at room ⊢
  split
  next le =>
    rw [if_pos le, List.length_append, List.length_singleton] at room
    rw [assign_behind (by omega), List.length_append, List.length_singleton]
    rfl
  next =>
    rw [List.append_nil]
    rfl

/-- The bytes up to the end of the payload. -/
lemma length_payload (valid : c.Valid) (some : c.input = some input) (p3 : 0 ≤ c.p3) :
    (c.header ++ UInt8.ofInt c.p3 :: c.payload input).length = c.p3.toNat + 5 := by
  obtain ⟨off, inside⟩ := valid.range input some p3
  rw [List.length_append, List.length_cons, Command.payload, List.length_take, List.length_drop]
  show 4 + (_ + 1) = _
  omega

/-- The payload is copied behind the fifth byte. -/
lemma copy_payload (valid : c.Valid) (some : c.input = some input) (p3 : 0 ≤ c.p3)
    (room : c.p3.toNat + 5 ≤ ba.length) :
    arraycopy input c.off (writeAt ba 0 (c.header ++ [UInt8.ofInt c.p3])) 5 c.p3 =
      .ok (writeAt ba 0 (c.header ++ UInt8.ofInt c.p3 :: c.payload input)) := by
  obtain ⟨off, inside⟩ := valid.range input some p3
  have fits : ¬ (c.off < 0 ∨ c.p3 < 0 ∨ c.off + c.p3 > input.length ∨
      ((5 : Nat) : Int) + c.p3 > (writeAt ba 0 (c.header ++ [UInt8.ofInt c.p3])).length) := by
    rw [length_writeAt]
    omega
  have behind := @writeAt_append ba 0 (c.header ++ [UInt8.ofInt c.p3]) (c.payload input)
  unfold arraycopy
  rw [if_neg fits]
  rw [List.append_assoc] at behind
  exact congrArg Except.ok behind.symm

/-- What is written with a payload. -/
lemma write_payload (valid : c.Valid) (some : c.input = some input) (p3 : 0 ≤ c.p3)
    (room : (c.header ++ UInt8.ofInt c.p3 :: c.payload input ++ c.expected).length ≤ ba.length) :
    c.write ba = .ok (writeAt ba 0 (c.header ++ UInt8.ofInt c.p3 :: c.payload input ++ c.expected),
      (c.header ++ UInt8.ofInt c.p3 :: c.payload input ++ c.expected).length) := by
  have length := length_payload valid some p3
  have sizes : c.p3.toNat + 5 ≤ ba.length := by
    rw [List.length_append, length] at room
    omega
  have last := expected_written room
  rw [length] at last
  unfold Command.write
  rw [assign_header (by omega)]
  dsimp only
  rw [if_pos p3, some, assign_fifth (by omega)]
  show (arraycopy _ _ _ _ _ >>= _) = _
  rw [copy_payload valid some p3 sizes]
  exact last

/-- What is written without a payload. -/
lemma write_noPayload (none : c.input = none) (p3 : 0 ≤ c.p3)
    (room : (c.header ++ [UInt8.ofInt c.p3] ++ c.expected).length ≤ ba.length) :
    c.write ba = .ok (writeAt ba 0 (c.header ++ [UInt8.ofInt c.p3] ++ c.expected),
      (c.header ++ [UInt8.ofInt c.p3] ++ c.expected).length) := by
  have sizes : 4 < ba.length := by
    rw [List.length_append] at room
    exact Nat.le_trans (Nat.le_add_right 5 _) room
  unfold Command.write
  rw [assign_header (by omega)]
  dsimp only
  rw [if_pos p3, none]
  rw [assign_fifth sizes]
  exact expected_written room

/-- Without `p3` the fifth byte is left as it is. -/
lemma write_noP3 (p3 : c.p3 < 0) (room : 5 ≤ ba.length) :
    c.write ba =
      if c.le ≥ 0 then do
        let apdu ← assign (writeAt ba 0 c.header) 5 (UInt8.ofInt c.le)
        pure (apdu, 6)
      else .ok (writeAt ba 0 c.header, 5) := by
  unfold Command.write
  rw [assign_header (by omega)]
  dsimp only
  rw [if_neg (Int.not_le.2 p3)]
  rfl

/-- With a payload and its length both are sent. -/
lemma body_payload (some : c.input = some input) (p3 : 0 ≤ c.p3) :
    c.body = UInt8.ofInt c.p3 :: c.payload input := by
  unfold Command.body
  rw [some]
  exact if_pos p3

/-- Without a payload or its length there is no body. -/
lemma body_noPayload (other : ¬ (c.input ≠ none ∧ 0 ≤ c.p3)) : c.body = [] := by
  unfold Command.body
  cases input : c.input with
  | none => rfl
  | some input' => exact if_neg fun p3 => other ⟨by rw [input]; nofun, p3⟩

/-- The expected length takes one byte, if there is one. -/
lemma length_expected : c.expected.length = if c.le ≥ 0 then 1 else 0 := by
  unfold Command.expected
  split <;> rfl

/-- All bytes of an array are overwritten. -/
lemma writeAt_all (length : bytes.length = ba.length) : writeAt ba 0 bytes = bytes := by
  rw [writeAt_eq (by omega), List.take_zero, List.nil_append, List.drop_eq_nil_iff.2 (by omega),
    List.append_nil]

/-- The expected length is the last byte of the array, if there is one. -/
lemma expected_assigned (length : (bytes ++ c.expected).length = ba.length) :
    (if c.le ≥ 0 then assign (writeAt ba 0 bytes) bytes.length (UInt8.ofInt c.le)
      else pure (writeAt ba 0 bytes)) = .ok (bytes ++ c.expected) := by
  have all := writeAt_all length
  unfold Command.expected at length all ⊢
  split
  next le =>
    rw [if_pos le] at all
    rw [if_pos le, List.length_append, List.length_singleton] at length
    rw [assign_behind (by omega), all]
  next le =>
    rw [if_neg le, List.append_nil] at all
    rw [all, List.append_nil]
    rfl

/-- The bytes of `construct`. -/
lemma construct_eq (valid : c.Valid) : c.construct = .ok (c.header ++ c.body ++ c.expected) := by
  have last := @length_expected c
  unfold Command.construct
  by_cases payload : c.input ≠ none ∧ c.p3 ≥ 0
  · obtain ⟨input, some⟩ := Option.ne_none_iff_exists'.1 payload.1
    have length := length_payload valid some payload.2
    have size : (c.header ++ UInt8.ofInt c.p3 :: c.payload input ++ c.expected).length =
        (List.replicate (4 + (1 + c.p3) + if c.le ≥ 0 then 1 else 0).toNat (0 : BYTE)).length := by
      rw [List.length_append, length, last, List.length_replicate]
      have p3 := payload.2
      split <;> omega
    rw [decide_eq_true payload, some, body_payload some payload.2]
    dsimp only
    rw [if_pos rfl]
    generalize List.replicate _ (0 : BYTE) = ba at size ⊢
    have sizes : c.p3.toNat + 5 ≤ ba.length := by
      rw [← size, List.length_append, length]
      omega
    have whole := expected_assigned size
    rw [length, Nat.add_comm] at whole
    rw [assign_header (by omega), if_pos rfl, assign_fifth (by omega)]
    show Except.mapError _ (arraycopy input _ _ _ _ >>= _) = _
    rw [copy_payload valid some payload.2 sizes]
    exact congrArg (Except.mapError Prod.fst) whole
  · have size : (c.header ++ c.expected).length =
        (List.replicate (4 + 0 + if c.le ≥ 0 then 1 else 0 : Int).toNat (0 : BYTE)).length := by
      rw [List.length_append, last, List.length_replicate]
      show 4 + _ = _
      split <;> omega
    rw [decide_eq_false payload, body_noPayload payload, List.append_nil]
    dsimp only
    rw [if_neg Bool.false_ne_true]
    generalize List.replicate _ (0 : BYTE) = ba at size ⊢
    have sizes : 4 ≤ ba.length := by
      rw [← size, List.length_append]
      exact Nat.le_add_right 4 _
    rw [assign_header sizes, if_neg Bool.false_ne_true]
    exact congrArg (Except.mapError Prod.fst) (expected_assigned size)

/-- The size of a command without a payload. -/
lemma size_none (none : c.input = none) : c.size = 6 := by
  unfold Command.size
  rw [none]
  rfl

/-- The size of a command with a payload. -/
lemma size_some (some : c.input = some input) : c.size = 6 + c.p3 := by
  unfold Command.size
  rw [some]
  rfl

/-- The card gets as many bytes as `set` was asked to reserve. -/
lemma length_transmittedFrom {buf : List BYTE} {len : Nat}
    (sent : c.transmittedFrom buf len = .ok bytes) : bytes.length = c.size.toNat := by
  unfold Command.transmittedFrom Apdu.set at sent
  split at sent
  · cases sent
  next a done =>
    split at done
    · cases done
    split at done
    · cases done
    next buf' _ _ =>
      cases done
      unfold Apdu.transmitted at sent
      dsimp only at sent
      split at sent
      · cases sent
      next inside =>
        cases sent
        rw [List.length_take]
        omega

/-- With `p3` and a payload the card gets what `construct` makes, up to the last byte. -/
lemma transmittedFrom_payload {buf : List BYTE} {len : Nat} (valid : c.Valid)
    (some : c.input = some input) (p3 : 0 ≤ c.p3) (le : 0 ≤ c.le)
    (room : c.size ≤ buf.length) : c.transmittedFrom buf len = c.construct := by
  have length := length_payload valid some p3
  have last : c.expected.length = 1 := length_expected.trans (if_pos le)
  have size := size_some some
  have sizes : (c.header ++ UInt8.ofInt c.p3 :: c.payload input ++ c.expected).length =
      c.size.toNat := by
    rw [List.length_append, length, last]
    omega
  have inside : ¬ c.size.toNat > buf.length := by omega
  rw [construct_eq valid, body_payload some p3]
  unfold Command.transmittedFrom Apdu.set
  dsimp only
  rw [if_neg (by omega), write_payload valid some p3 (by omega)]
  dsimp only
  unfold Apdu.transmitted
  dsimp only
  rw [length_writeAt, if_neg inside, ← sizes, take_writeAt (by omega)]

/-- The length of what `construct` makes. -/
lemma length_constructed (valid : c.Valid) (sent : c.construct = .ok bytes) :
    bytes.length = 4 + c.body.length + c.expected.length := by
  rw [construct_eq valid] at sent
  cases sent
  rw [List.length_append, List.length_append]
  rfl

/-- Without `p3` the card gets the fifth byte that was in the buffer before. -/
lemma transmittedFrom_noP3 {buf : List BYTE} {len : Nat} (some : c.input = some input)
    (p3 : c.p3 = -1) (le : 0 ≤ c.le) (room : 6 ≤ buf.length) :
    c.transmittedFrom buf len = .ok ((writeAt buf 0 c.header).take 5) := by
  have size : c.size = 5 := by
    rw [size_some some, p3]
    rfl
  have written : c.write buf = .ok (writeAt (writeAt buf 0 c.header) 5 [UInt8.ofInt c.le], 6) := by
    rw [write_noP3 (by omega) (by omega), if_pos le, assign_ok (by rw [length_writeAt]; omega)]
    rfl
  unfold Command.transmittedFrom Apdu.set
  dsimp only
  rw [size, if_neg (by omega), written]
  dsimp only
  unfold Apdu.transmitted
  dsimp only
  rw [length_writeAt, length_writeAt, if_neg (by omega)]
  exact congrArg Except.ok (List.take_set_of_le (Nat.le_refl 5))

/-- Without a payload or its length `Transmit` sends one byte more than `construct` makes. -/
lemma length_transmitted (other : ¬ (c.input ≠ none ∧ 0 ≤ c.p3)) (valid : c.Valid)
    (sent : c.transmitted = .ok bytes) : bytes.length = 5 + c.expected.length := by
  have zeros : (List.replicate c.size.toNat (0 : BYTE)).length = c.size.toNat :=
    List.length_replicate
  have size : 5 ≤ c.size ∧ (0 ≤ c.p3 → c.size = 6) := by
    have low := valid.p3
    unfold Command.size
    cases input : c.input with
    | none => exact ⟨show (5 : Int) ≤ 6 by decide, fun _ => rfl⟩
    | some input' =>
      rw [if_neg nofun]
      exact ⟨by omega, fun p3 => absurd ⟨by rw [input]; nofun, p3⟩ other⟩
  have last := @length_expected c
  unfold Command.transmitted at sent
  rw [if_neg (by omega)] at sent
  by_cases p3 : 0 ≤ c.p3
  · have none : c.input = none := by
      by_contra some
      exact other ⟨some, p3⟩
    have room : (c.header ++ [UInt8.ofInt c.p3] ++ c.expected).length ≤ c.size.toNat := by
      rw [List.length_append, size.2 p3, last]
      show 5 + _ ≤ 6
      split <;> omega
    rw [write_noPayload none p3 (by rw [zeros]; exact room)] at sent
    cases sent
    rw [take_writeAt (by rw [zeros]; exact room), List.length_append]
    rfl
  · rw [write_noP3 (by omega) (by omega)] at sent
    by_cases le : c.le ≥ 0
    · rw [if_pos le] at sent last
      unfold assign store at sent
      rw [length_writeAt, zeros] at sent
      by_cases inside : 5 < c.size.toNat
      · rw [if_pos inside] at sent
        cases sent
        rw [List.length_take, List.length_set, length_writeAt, zeros, last]
        omega
      · rw [if_neg inside] at sent
        cases sent
    · rw [if_neg le] at sent last
      cases sent
      rw [List.length_take, length_writeAt, zeros, last]
      omega

/-- With a payload and its length `Transmit` sends what `construct` makes. -/
lemma transmitted_payload (valid : c.Valid) (some : c.input = some input) (p3 : 0 ≤ c.p3) :
    c.transmitted = c.construct := by
  have size := size_some some
  have room : (c.header ++ UInt8.ofInt c.p3 :: c.payload input ++ c.expected).length ≤
      (List.replicate c.size.toNat (0 : BYTE)).length := by
    rw [List.length_append, length_payload valid some p3, length_expected, List.length_replicate]
    split <;> omega
  rw [construct_eq valid, body_payload some p3]
  unfold Command.transmitted
  rw [if_neg (by omega), write_payload valid some p3 room]
  dsimp only
  rw [take_writeAt room]

/-- If `set` always sends what `construct` makes, nothing is missing in the command. -/
lemma complete_of_alike (valid : c.Valid)
    (alike : ∀ buf len, c.size ≤ buf.length → c.transmittedFrom buf len = c.construct) :
    c.input ≠ none ∧ 0 ≤ c.p3 ∧ 0 ≤ c.le := by
  have low := valid.p3
  have constructed := construct_eq valid
  have used := alike (List.replicate c.size.toNat 0) 0 (by rw [List.length_replicate]; omega)
  rw [constructed] at used
  have length := length_transmittedFrom used
  rw [length_constructed valid constructed, length_expected] at length
  by_cases payload : c.input ≠ none ∧ 0 ≤ c.p3
  · obtain ⟨input, some⟩ := Option.ne_none_iff_exists'.1 payload.1
    have five := length_payload valid some payload.2
    rw [List.length_append] at five
    change 4 + _ = _ at five
    rw [body_payload some payload.2, five, size_some some] at length
    refine ⟨payload.1, payload.2, ?_⟩
    by_contra le
    rw [if_neg le] at length
    omega
  · exfalso
    rw [body_noPayload payload, List.length_nil] at length
    cases input : c.input with
    | none =>
      rw [size_none input] at length
      change _ = 6 at length
      split at length <;> omega
    | some data =>
      have p3 : c.p3 = -1 := by
        by_contra other
        exact payload ⟨by rw [input]; nofun, by omega⟩
      have size : c.size = 5 := by
        rw [size_some input, p3]
        rfl
      have le : 0 ≤ c.le := by
        by_contra le
        rw [if_neg le, size] at length
        cases length
      -- the byte that is left over is another one
      have stale := alike (List.replicate 6 (UInt8.ofInt c.le + 1)) 0 (by
        rw [size, List.length_replicate]
        decide)
      have last : c.expected = [UInt8.ofInt c.le] := if_pos le
      rw [transmittedFrom_noP3 input p3 le (Nat.le_of_eq List.length_replicate.symm), constructed,
        body_noPayload payload, last] at stale
      have same : [UInt8.ofInt c.le + 1] = [UInt8.ofInt c.le] :=
        congrArg (List.drop 4) (Except.ok.inj stale)
      have zero : UInt8.ofInt c.le + 1 = UInt8.ofInt c.le := List.head_eq_of_cons_eq same
      rw [UInt8.add_eq_left] at zero
      cases zero

/-- The card gets the same bytes from `set` and `Transmit` as from `construct` exactly if there are
a payload, its length and a last byte; from the other `Transmit` the last byte is not needed. -/
theorem sent_alike_iff (valid : c.Valid) :
    ((∀ buf len, c.size ≤ buf.length → c.transmittedFrom buf len = c.construct) ↔
      c.input ≠ none ∧ 0 ≤ c.p3 ∧ 0 ≤ c.le) ∧
    (c.transmitted = c.construct ↔ c.input ≠ none ∧ 0 ≤ c.p3) := by
  constructor
  · constructor
    · exact complete_of_alike valid
    · rintro ⟨some, p3, le⟩ buf len room
      obtain ⟨input, some⟩ := Option.ne_none_iff_exists'.1 some
      exact transmittedFrom_payload valid some p3 le room
  · constructor
    · intro alike
      by_contra other
      have constructed := construct_eq valid
      rw [constructed] at alike
      have length := length_transmitted other valid alike
      rw [length_constructed valid constructed, body_noPayload other, List.length_nil] at length
      omega
    · rintro ⟨some, p3⟩
      obtain ⟨input, some⟩ := Option.ne_none_iff_exists'.1 some
      exact transmitted_payload valid some p3

/-- A file is selected; an answer of any length is expected. -/
theorem sent_alike_select :
    let c : Command := ⟨0x00, 0xa4, 0x02, 0x00, 2, some [0x3f, 0x00], 0, 0⟩
    (∀ buf len, c.size ≤ buf.length → c.transmittedFrom buf len = c.construct) ∧
      c.transmitted = c.construct := by
  intro c
  have valid : c.Valid := by
    refine ⟨by decide, by decide, ?_⟩
    rintro input ⟨⟩ _
    decide
  have alike := sent_alike_iff valid
  exact ⟨alike.1.2 (by decide), alike.2.2 (by decide)⟩

end TagEventor.Jpcsc
