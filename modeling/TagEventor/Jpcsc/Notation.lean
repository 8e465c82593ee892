import TagEventor.Jpcsc.Apdu

/-!
# The notation for APDUs

`Reads` is the grammar of the texts that `s2ba` is documented for: bytes in hexadecimal with colons
and spaces between them, characters between bars, and brackets `#( )` that stand for their contents
with the length before it. The numbers of the grammar are those that `hexToken` finds
(`hexToken_reads`, `Hex.token`).
-/

namespace TagEventor.Jpcsc

/-- What a text of the notation stands for. -/
inductive Spec where
  | nil
  | byte (b : BYTE) (next : Spec)
  | brace (inner next : Spec)
deriving DecidableEq

/-- The bytes of some characters. -/
def charBytes (text : JString) : List BYTE := text.map fun c => UInt8.ofNat c.toNat

namespace Spec

/-- The bytes; a bracket begins with the length of its contents. -/
def bytes : Spec → List BYTE
  | nil => []
  | byte b next => b :: next.bytes
  | brace inner next => UInt8.ofNat inner.bytes.length :: inner.bytes ++ next.bytes

/-- The greatest number of brackets around a place. -/
def nesting : Spec → Nat
  | nil => 0
  | byte _ next => next.nesting
  | brace inner next => max (inner.nesting + 1) next.nesting

/-- Characters as they are, before something else. -/
def chars (text : JString) (next : Spec) : Spec :=
  text.foldr (fun c => .byte (UInt8.ofNat c.toNat)) next

/-- The bytes of characters come before the others. -/
lemma bytes_chars {text next} : (chars text next).bytes = charBytes text ++ next.bytes := by
  induction text with
  | nil => rfl
  | cons c text ih => exact congrArg _ ih

/-- A bracket has one byte for its length, and its contents. -/
lemma length_brace {inner next} :
    (brace inner next).bytes.length = 1 + (inner.bytes.length + next.bytes.length) := by
  show (_ :: inner.bytes ++ next.bytes).length = _
  rw [List.cons_append, List.length_cons, List.length_append, Nat.add_comm]

/-- Characters open no bracket. -/
lemma nesting_chars {text next} : (chars text next).nesting = next.nesting := by
  induction text with
  | nil => rfl
  | cons c text ih => exact ih

end Spec

section
variable (unicodeDigit : Char → Option Nat)

/-- A number in hexadecimal, and what follows it; one digit is enough only after an `x`. -/
inductive Hex : JString → BYTE → JString → Prop where
  | two {c d value rest} :
    isX c = false →
    ¬ (c = '0' ∧ isX d = true) →
    parseInt unicodeDigit [c, d] = some value →
    Hex (c :: d :: rest) (UInt8.ofInt value) rest
  | xTwo {zero x c d value rest} :
    zero = [] ∨ zero = ['0'] →
    isX x = true →
    d ≠ ':' ∧ d ≠ ' ' →
    parseInt unicodeDigit [c, d] = some value →
    Hex (zero ++ x :: c :: d :: rest) (UInt8.ofInt value) rest
  | xOne {zero x c value rest} :
    zero = [] ∨ zero = ['0'] →
    isX x = true →
    rest.head? = none ∨ rest.head? = some ':' ∨ rest.head? = some ' ' →
    parseInt unicodeDigit [c] = some value →
    Hex (zero ++ x :: c :: rest) (UInt8.ofInt value) rest

/-- The text begins with something of the notation, up to a rest. -/
inductive Reads : JString → Spec → JString → Prop where
  | nil {rest} :
    Reads rest .nil rest
  | colon {text spec rest} :
    Reads text spec rest →
    Reads (':' :: text) spec rest
  | space {text spec rest} :
    text ≠ [] →
    Reads text spec rest →
    Reads (' ' :: text) spec rest
  | hex {token b text spec rest} :
    Hex unicodeDigit token b text →
    Reads text spec rest →
    Reads token (.byte b spec) rest
  | chars {quoted text spec rest} :
    (∀ c ∈ quoted, c ≠ '|' ∧ c.toNat < 256) →
    Reads text spec rest →
    Reads ('|' :: quoted ++ '|' :: text) (.chars quoted spec) rest
  | lastChars {quoted} :
    (∀ c ∈ quoted, c ≠ '|' ∧ c.toNat < 256) →
    Reads ('|' :: quoted) (.chars quoted .nil) []
  | brace {text inner text' spec rest} :
    Reads text inner (')' :: text') →
    Reads text' spec rest →
    Reads ('#' :: '(' :: text) (.brace inner spec) rest

end

/-- The array after some bytes were written one after the other. -/
def writeAt (ba : List BYTE) : Nat → List BYTE → List BYTE
  | _, [] => ba
  | i, b :: bytes => writeAt (ba.set i b) (i + 1) bytes

/-- There is room for some bytes; for none there always is. -/
def Room (ba : List BYTE) (i n : Nat) : Prop := n = 0 ∨ i + n ≤ ba.length

section
variable {ba : List BYTE} {i j : Nat} {b : BYTE} {bytes bytes' : List BYTE}

/-- An array keeps its length. -/
lemma length_writeAt : (writeAt ba i bytes).length = ba.length := by
  induction bytes generalizing ba i with
  | nil => rfl
  | cons b bytes ih => exact ih.trans List.length_set

/-- Bytes are written one part behind the other. -/
lemma writeAt_append :
    writeAt ba i (bytes ++ bytes') = writeAt (writeAt ba i bytes) (i + bytes.length) bytes' := by
  induction bytes generalizing ba i with
  | nil => rfl
  | cons b bytes ih =>
    refine ih.trans ?_
    rw [List.length_cons, Nat.add_assoc, Nat.add_comm 1]
    rfl

/-- A byte before the others can be written after them. -/
lemma writeAt_set (before : j < i) :
    writeAt (ba.set j b) i bytes = (writeAt ba i bytes).set j b := by
  induction bytes generalizing ba i with
  | nil => rfl
  | cons b' bytes ih =>
    unfold writeAt
    rw [List.set_comm _ _ (Nat.ne_of_lt before), ih (Nat.lt_succ_of_lt before)]

/-- What was written, between what was there. -/
lemma writeAt_eq (room : i + bytes.length ≤ ba.length) :
    writeAt ba i bytes = ba.take i ++ bytes ++ ba.drop (i + bytes.length) := by
  induction bytes generalizing ba i with
  | nil =>
    show ba = _
    simp
  | cons b bytes ih =>
    rw [List.length_cons] at room
    have inside : i < ba.length := by omega
    have first : (ba.set i b).take (i + 1) = ba.take i ++ [b] := by
      rw [List.take_add_one, List.take_set_of_le (Nat.le_refl i), List.getElem?_set_self inside]
      rfl
    refine (ih (by rw [List.length_set]; omega)).trans ?_
    rw [first, List.drop_set_of_lt (by omega), List.length_cons, Nat.add_assoc i 1,
      Nat.add_comm 1, List.append_assoc (ba.take i)]
    rfl

/-- What is written behind an offset changes nothing before it. -/
lemma take_writeAt_behind (behind : j ≤ i) : (writeAt ba i bytes).take j = ba.take j := by
  induction bytes generalizing ba i with
  | nil => rfl
  | cons b bytes ih =>
    refine (ih (Nat.le_succ_of_le behind)).trans ?_
    rw [List.take_set_of_le behind]

/-- What is written ends what is there so far. -/
lemma take_written (room : i + bytes.length ≤ ba.length) :
    (writeAt ba i bytes).take (i + bytes.length) = ba.take i ++ bytes := by
  rw [writeAt_eq room, List.take_left']
  rw [List.length_append, List.length_take]
  omega

/-- There is room for two parts, one behind the other. -/
lemma room_add {m n : Nat} : Room ba i (m + n) ↔ Room ba i m ∧ Room ba (i + m) n := by
  unfold Room
  omega

/-- A byte is stored iff there is room for it. -/
lemma store_some {ba'} : store ba i b = some ba' ↔ Room ba i 1 ∧ ba' = ba.set i b := by
  unfold store Room
  split
  next inside => simp [Nat.succ_le_of_lt inside, eq_comm]
  next outside =>
    refine iff_of_false nofun fun room => outside ?_
    omega

end

namespace Conversion

/-- The variables after some bytes were converted. -/
def wrote (v : Conversion) (bytes : List BYTE) : Conversion :=
  { v with ba := writeAt v.ba v.bpos bytes, bpos := v.bpos + bytes.length }

/-- The variables after the beginning of a bracket. -/
def opened (v : Conversion) : Conversion :=
  { v with braceTab := v.bpos :: v.braceTab, bpos := v.bpos + 1 }

/-- The variables in one of the two modes. -/
def inMode (v : Conversion) (asciiMode : Bool) : Conversion := { v with asciiMode }

variable {v : Conversion} {bytes bytes' : List BYTE}

/-- Bytes are written one part behind the other. -/
lemma wrote_wrote : (v.wrote bytes).wrote bytes' = v.wrote (bytes ++ bytes') := by
  unfold wrote
  rw [writeAt_append, List.length_append, Nat.add_assoc]

/-- What is written takes no room away. -/
lemma room_wrote {i n} : Room (v.wrote bytes).ba i n ↔ Room v.ba i n := by
  unfold Room wrote
  rw [length_writeAt]

/-- The length that is written last comes first. -/
lemma wrote_length : v.wrote (UInt8.ofNat bytes.length :: bytes) =
    { v.opened.wrote bytes with
      ba := (v.opened.wrote bytes).ba.set v.bpos
        (UInt8.ofNat ((v.opened.wrote bytes).bpos - v.bpos - 1))
      braceTab := v.braceTab } := by
  have length : (v.opened.wrote bytes).bpos - v.bpos - 1 = bytes.length := by
    show v.bpos + 1 + bytes.length - v.bpos - 1 = _
    omega
  rw [length]
  unfold wrote opened
  dsimp only
  rw [← writeAt_set (Nat.lt_succ_self _), List.length_cons, Nat.add_assoc, Nat.add_comm 1]
  rfl

end Conversion
section
variable {unicodeDigit : Char → Option Nat} {s text rest : JString} {c : Char} {b : BYTE}

/-- Signs and digits are not those characters that mean something else. -/
def Plain (c : Char) : Prop := c ≠ ':' ∧ c ≠ ' ' ∧ c ≠ '#' ∧ c ≠ ')' ∧ c ≠ '|'

/-- A number begins with a character that means nothing else. -/
lemma parseInt_plain {n : JString} {value} (h : parseInt unicodeDigit (c :: n) = some value) :
    Plain c := by
  have special {c'} (no : characterDigit unicodeDigit c' = none) (sign : c' ≠ '-' ∧ c' ≠ '+') :
      c ≠ c' := by
    rintro rfl
    have digits : digitsValue unicodeDigit (c :: n) = none := by
      unfold digitsValue
      rw [List.foldlM_cons, no]
      rfl
    unfold parseInt at h
    simp [sign.1, sign.2, digits] at h
  exact ⟨special rfl (by decide), special rfl (by decide), special rfl (by decide),
    special rfl (by decide), special rfl (by decide)⟩

/-- The letter of a prefix means nothing else. -/
lemma isX_plain (h : isX c = true) : Plain c := by
  unfold isX at h
  rw [Bool.or_eq_true, decide_eq_true_eq, decide_eq_true_eq] at h
  rcases h with rfl | rfl
  · unfold Plain
    decide
  · unfold Plain
    decide

/-- A number in a text begins with a character that means nothing else. -/
lemma Hex.plain (h : Hex unicodeDigit text b rest) : ∃ c text', text = c :: text' ∧ Plain c := by
  have zero_plain : Plain '0' := by
    unfold Plain
    decide
  cases h with
  | two _ _ value => exact ⟨_, _, rfl, parseInt_plain value⟩
  | xTwo zero x =>
    rcases zero with rfl | rfl
    · exact ⟨_, _, rfl, isX_plain x⟩
    · exact ⟨_, _, rfl, zero_plain⟩
  | xOne zero x =>
    rcases zero with rfl | rfl
    · exact ⟨_, _, rfl, isX_plain x⟩
    · exact ⟨_, _, rfl, zero_plain⟩

/-- A number takes at least one character. -/
lemma Hex.shorter (h : Hex unicodeDigit text b rest) : rest.length < text.length := by
  cases h with
  | two => exact Nat.lt_succ_of_lt (Nat.lt_succ_self _)
  | xTwo =>
    rw [List.length_append, List.length_cons, List.length_cons, List.length_cons]
    omega
  | xOne =>
    rw [List.length_append, List.length_cons, List.length_cons]
    omega

/-- The digits after an `x` are read as the grammar says. -/
lemma digitsAfterX_reads {zero x n used value} (isZero : zero = [] ∨ zero = ['0'])
    (x_isX : isX x = true) (h : digitsAfterX text = some (n, used))
    (number : parseInt unicodeDigit n = some value) :
    Hex unicodeDigit (zero ++ x :: text) (UInt8.ofInt value) (text.drop used) := by
  cases text with
  | nil => cases h
  | cons c text =>
    cases text with
    | nil =>
      cases h
      exact .xOne isZero x_isX (.inl rfl) number
    | cons d text =>
      change (if d = ':' ∨ d = ' ' then some ([c], 1) else some ([c, d], 2)) = _ at h
      split at h
      next separator =>
        cases h
        refine .xOne isZero x_isX (.inr ?_) number
        rcases separator with rfl | rfl
        · exact .inl rfl
        · exact .inr rfl
      next other =>
        cases h
        exact .xTwo isZero x_isX (not_or.1 other) number

/-- What is taken for a number is one of the notation. -/
lemma hexToken_reads {n used value} (h : hexToken text = some (n, used))
    (number : parseInt unicodeDigit n = some value) :
    0 < used ∧ Hex unicodeDigit text (UInt8.ofInt value) (text.drop used) := by
  cases text with
  | nil => cases h
  | cons c text =>
    cases text with
    | nil => cases h
    | cons c' text =>
      change (if c = '0' ∧ isX c' = true then _ else if isX c = true then _ else _) = _ at h
      split at h
      next zero =>
        obtain ⟨⟨n', used'⟩, digits, e⟩ := Option.map_eq_some_iff.1 h
        cases e
        obtain ⟨rfl, x⟩ := zero
        exact ⟨Nat.succ_pos _, digitsAfterX_reads (.inr rfl) x digits number⟩
      next noZero =>
        split at h
        next x =>
          obtain ⟨⟨n', used'⟩, digits, e⟩ := Option.map_eq_some_iff.1 h
          cases e
          exact ⟨Nat.succ_pos _, digitsAfterX_reads (.inl rfl) x digits number⟩
        next noX =>
          cases h
          exact ⟨Nat.succ_pos _, .two (Bool.eq_false_iff.2 noX) noZero number⟩

/-- A number of the grammar is found. -/
lemma Hex.token (h : Hex unicodeDigit text b rest) :
    ∃ n used value, hexToken text = some (n, used) ∧ parseInt unicodeDigit n = some value ∧
      b = UInt8.ofInt value ∧ 0 < used ∧ rest = text.drop used := by
  have afterX {zero x text' n used} (isZero : zero = [] ∨ zero = ['0']) (x_isX : isX x = true)
      (digits : digitsAfterX text' = some (n, used)) :
      hexToken (zero ++ x :: text') = some (n, zero.length + 1 + used) := by
    have notZero : x ≠ '0' := by
      rintro rfl
      cases x_isX
    rcases isZero with rfl | rfl
    · cases text' with
      | nil => cases digits
      | cons c' text' =>
        show (if x = '0' ∧ isX c' = true then _ else if isX x = true then _ else _) = _
        rw [if_neg fun zero => notZero zero.1, if_pos x_isX, digits]
        show some (n, used + 1) = some (n, 1 + used)
        rw [Nat.add_comm]
    · show (if '0' = '0' ∧ isX x = true then _ else _) = _
      rw [if_pos ⟨rfl, x_isX⟩, digits]
      show some (n, used + 2) = some (n, 2 + used)
      rw [Nat.add_comm]
  have dropped {zero : JString} {x : Char} {text' : JString} {used} :
      text'.drop used = (zero ++ x :: text').drop (zero.length + 1 + used) := by
    rw [Nat.add_assoc, List.drop_append, Nat.add_comm 1]
    simp
  cases h with
  | @two c d value rest noX noZero number =>
    refine ⟨[c, d], 2, value, ?_, number, rfl, Nat.succ_pos _, rfl⟩
    show (if c = '0' ∧ isX d = true then _ else if isX c = true then _ else _) = _
    rw [if_neg noZero, if_neg (Bool.eq_false_iff.1 noX)]
  | @xTwo zero x c d value rest isZero x_isX other number =>
    have digits : digitsAfterX (c :: d :: rest) = some ([c, d], 2) := if_neg (not_or.2 other)
    exact ⟨[c, d], _, value, afterX isZero x_isX digits, number, rfl, by omega,
      @dropped zero x (c :: d :: rest) 2⟩
  | @xOne zero x c value rest isZero x_isX next number =>
    have digits : digitsAfterX (c :: rest) = some ([c], 1) := by
      cases rest with
      | nil => rfl
      | cons d rest =>
        refine if_pos ?_
        rcases next with none | colon | space
        · cases none
        · exact .inl (Option.some.inj colon)
        · exact .inr (Option.some.inj space)
    exact ⟨[c], _, value, afterX isZero x_isX digits, number, rfl, by omega,
      @dropped zero x (c :: rest) 1⟩

end

end TagEventor.Jpcsc
