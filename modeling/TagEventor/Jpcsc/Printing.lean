import Mathlib.Data.List.Induction
import Mathlib.Tactic.IntervalCases
import TagEventor.Jpcsc.Parsing

/-!
# Printing and reading

What `s2ba` makes of the texts that `ba2s` prints (`s2ba_ba2s`). With colons or nothing between the
bytes the bytes are read back. With spaces the text ends in a space, behind which `s2ba` looks for
another character. A length that is printed before the bytes is read as more bytes, if it has an
even number of digits, and is refused otherwise.
-/

namespace TagEventor.Jpcsc

section
variable {unicodeDigit : Char → Option Nat} {s rest : JString} {v : Conversion} {b : BYTE}

/-- A character is the digit of a value. -/
structure IsDigit (unicodeDigit : Char → Option Nat) (c : Char) (value : Nat) : Prop where
  value : characterDigit unicodeDigit c = some value
  noX : isX c = false
  noSign : c ≠ '-' ∧ c ≠ '+'

/-- The printed digits are digits for `parseInt`, too. -/
lemma digits_isDigit {h} (less : h < 16) : IsDigit unicodeDigit (digits.getD h ' ') h := by
  interval_cases h <;> exact ⟨rfl, rfl, by decide⟩

/-- A decimal digit. -/
lemma IsDigit.decimal {c : Char} (digit : c.isDigit = true) :
    IsDigit unicodeDigit c (c.toNat - '0'.toNat) := by
  obtain ⟨low, high⟩ := Bool.and_eq_true_iff.1 digit
  rw [decide_eq_true_eq] at low high
  have other {c' : Char} (no : c'.isDigit = false) : c ≠ c' := by
    rintro rfl
    cases digit.symm.trans no
  refine ⟨if_pos ⟨low, high⟩, ?_, other rfl, other rfl⟩
  unfold isX
  rw [Bool.or_eq_false_iff, decide_eq_false_iff_not, decide_eq_false_iff_not]
  exact ⟨other rfl, other rfl⟩

/-- Two digits are read as a number. -/
lemma IsDigit.parseInt {c d : Char} {h l} (high : IsDigit unicodeDigit c h)
    (low : IsDigit unicodeDigit d l) :
    Jpcsc.parseInt unicodeDigit [c, d] = some (Int.ofNat (16 * h + l)) := by
  have value : digitsValue unicodeDigit [c, d] = some (16 * h + l) := by
    unfold digitsValue
    rw [List.foldlM_cons, high.value]
    show (characterDigit unicodeDigit d).map (16 * (16 * 0 + h) + ·) >>= pure = _
    rw [low.value, Nat.mul_zero, Nat.zero_add]
    rfl
  unfold Jpcsc.parseInt
  have minus : [c, d].head? ≠ some '-' := fun e => high.noSign.1 (Option.some.inj e)
  have plus : [c, d].head? ≠ some '+' := fun e => high.noSign.2 (Option.some.inj e)
  rw [if_neg (by simp), if_neg minus, if_neg plus, value]
  rfl

/-- A colon is no digit. -/
lemma IsDigit.parseInt_colon {c : Char} {h} (digit : IsDigit unicodeDigit c h) :
    Jpcsc.parseInt unicodeDigit [c, ':'] = none := by
  have value : digitsValue unicodeDigit [c, ':'] = none := by
    unfold digitsValue
    rw [List.foldlM_cons, digit.value]
    rfl
  have minus : [c, ':'].head? ≠ some '-' := fun e => digit.noSign.1 (Option.some.inj e)
  have plus : [c, ':'].head? ≠ some '+' := fun e => digit.noSign.2 (Option.some.inj e)
  unfold Jpcsc.parseInt
  rw [if_neg (by simp), if_neg minus, if_neg plus, value]
  rfl

/-- Two digits are a byte. -/
lemma IsDigit.hex {c d : Char} {h l} (high : IsDigit unicodeDigit c h)
    (low : IsDigit unicodeDigit d l) :
    Hex unicodeDigit (c :: d :: rest) (UInt8.ofNat (16 * h + l)) rest := by
  have hex := @Hex.two unicodeDigit c d _ rest high.noX (fun zero => by
    rw [low.noX] at zero
    cases zero.2) (high.parseInt low)
  have nat : UInt8.ofInt (Int.ofNat (16 * h + l)) = UInt8.ofNat (16 * h + l) := by
    have small : (Int.ofNat (16 * h + l) % 2 ^ 8).toNat = (16 * h + l) % 2 ^ 8 := by
      rw [Int.ofNat_eq_natCast]
      omega
    rw [UInt8.ofInt, small, UInt8.ofNat_mod_size]
  rwa [nat] at hex

/-- A printed byte is a number of the notation. -/
lemma byteDigits_hex : Hex unicodeDigit (byteDigits b ++ rest) b rest := by
  have small : b.toNat < 256 := b.toNat_lt
  have hex := @IsDigit.hex unicodeDigit rest _ _ _ _
    (@digits_isDigit unicodeDigit (b.toNat / 16) (by omega))
    (@digits_isDigit unicodeDigit (b.toNat % 16) (by omega))
  rw [Nat.div_add_mod, UInt8.ofNat_toNat] at hex
  exact hex

/-- A printed byte is read back. -/
lemma loop_byte (mode : v.asciiMode = false) (room : Room v.ba v.bpos 1) :
    s2baLoop unicodeDigit s (byteDigits b ++ rest) 0 v =
      s2baLoop unicodeDigit s rest 0 (v.wrote [b]) :=
  (Converts.number mode byteDigits_hex room).loop

/-- A separator is skipped, as long as something follows a space. -/
lemma loop_separator {f : DataFormat} (mode : v.asciiMode = false)
    (more : f = .HEX_SPACE_HEX_FORMAT → rest ≠ []) :
    s2baLoop unicodeDigit s (f.separator ++ rest) 0 v = s2baLoop unicodeDigit s rest 0 v := by
  cases f with
  | HEX_SPACE_HEX_FORMAT => exact loop_space mode (more rfl)
  | HEX_COLON_HEX_FORMAT => exact (Converts.colon mode).loop
  | HEX_VOID_HEX_FORMAT => rfl

/-- The bytes, each with what is printed after it. -/
def printedBytes (f : DataFormat) (ba : List BYTE) : JString :=
  ba.flatMap fun b => byteDigits b ++ f.separator

/-- Printed bytes are read back, if something follows a last space. -/
lemma loop_bytes {f : DataFormat} {ba : List BYTE} (mode : v.asciiMode = false)
    (room : Room v.ba v.bpos ba.length) (more : f = .HEX_SPACE_HEX_FORMAT → rest ≠ []) :
    s2baLoop unicodeDigit s (printedBytes f ba ++ rest) 0 v =
      s2baLoop unicodeDigit s rest 0 (v.wrote ba) := by
  induction ba generalizing v with
  | nil => rfl
  | cons b ba ih =>
    rw [List.length_cons, Nat.add_comm, room_add] at room
    have more' : f = .HEX_SPACE_HEX_FORMAT → printedBytes f ba ++ rest ≠ [] :=
      fun space => List.append_ne_nil_of_right_ne_nil _ (more space)
    have others := @ih (v.wrote [b]) mode (Conversion.room_wrote.2 room.2)
    have text : printedBytes f (b :: ba) ++ rest =
        byteDigits b ++ (f.separator ++ (printedBytes f ba ++ rest)) := by
      unfold printedBytes
      rw [List.flatMap_cons, List.append_assoc, List.append_assoc]
    have separator := @loop_separator unicodeDigit s _ (v.wrote [b]) f mode more'
    rw [text, loop_byte mode room.1, separator, others, Conversion.wrote_wrote]
    rfl

/-- Behind the last space nothing follows. -/
lemma loop_bytes_spaces {ba : List BYTE} (mode : v.asciiMode = false)
    (room : Room v.ba v.bpos ba.length) (some : ba ≠ []) :
    s2baLoop unicodeDigit s (printedBytes .HEX_SPACE_HEX_FORMAT ba) 0 v =
      .error (.StringIndexOutOfBoundsException, (v.wrote ba).ba) := by
  cases ba using List.reverseRecOn with
  | nil => exact absurd rfl some
  | append_singleton ba b =>
    rw [List.length_append, room_add] at room
    have text : printedBytes .HEX_SPACE_HEX_FORMAT (ba ++ [b]) =
        printedBytes .HEX_SPACE_HEX_FORMAT ba ++ (byteDigits b ++ [' ']) := by
      unfold printedBytes
      rw [List.flatMap_append]
      rfl
    have first := @loop_bytes unicodeDigit s (byteDigits b ++ [' ']) v .HEX_SPACE_HEX_FORMAT ba mode
      room.1 fun _ => List.cons_ne_nil _ _
    have last := @loop_byte unicodeDigit s [' '] (v.wrote ba) b mode
      (Conversion.room_wrote.2 room.2)
    rw [text, first, last, Conversion.wrote_wrote]
    exact loop_spaces_last (n := 0) mode

/-- Two decimal digits, read in hexadecimal. -/
def pairByte (c d : Char) : BYTE :=
  UInt8.ofNat (16 * (c.toNat - '0'.toNat) + (d.toNat - '0'.toNat))

/-- Decimal digits, read in pairs. -/
def pairs : JString → List BYTE
  | c :: d :: rest => pairByte c d :: pairs rest
  | _ => []

/-- An even number of decimal digits is read as bytes; the last one of an odd number is refused. -/
lemma loop_decimal {decimal : JString} (all : ∀ c ∈ decimal, c.isDigit = true)
    (mode : v.asciiMode = false) (room : Room v.ba v.bpos (pairs decimal).length) :
    s2baLoop unicodeDigit s (decimal ++ ':' :: rest) 0 v =
      if decimal.length % 2 = 0 then
        s2baLoop unicodeDigit s (':' :: rest) 0 (v.wrote (pairs decimal))
      else .error (.RuntimeException ("invalid hexadecimal string ".toList ++ s),
        (v.wrote (pairs decimal)).ba) := by
  induction decimal using pairs.induct generalizing v with
  | case1 c d decimal ih =>
    have high := @IsDigit.decimal unicodeDigit c (all c List.mem_cons_self)
    have low := @IsDigit.decimal unicodeDigit d (all d (List.mem_cons_of_mem _ List.mem_cons_self))
    rw [pairs, List.length_cons, Nat.add_comm, room_add] at room
    have others := @ih (v.wrote [pairByte c d])
      (fun c' mem => all c' (List.mem_cons_of_mem _ (List.mem_cons_of_mem _ mem))) mode
      (Conversion.room_wrote.2 room.2)
    have even : (c :: d :: decimal).length % 2 = decimal.length % 2 := by
      rw [List.length_cons, List.length_cons]
      omega
    have number : Converts unicodeDigit v (c :: d :: (decimal ++ ':' :: rest))
        (v.wrote [pairByte c d]) (decimal ++ ':' :: rest) := .number mode (high.hex low) room.1
    rw [even, List.cons_append, List.cons_append, number.loop, others, Conversion.wrote_wrote]
    rfl
  | case2 decimal short =>
    cases decimal with
    | nil => rfl
    | cons c decimal =>
      cases decimal with
      | cons d decimal => exact (short c d decimal rfl).elim
      | nil =>
        have digit := @IsDigit.decimal unicodeDigit c (all c List.mem_cons_self)
        have refused : v.number unicodeDigit (c :: ':' :: rest) = none := by
          have token : hexToken (c :: ':' :: rest) = some ([c, ':'], 2) := by
            show (if c = '0' ∧ isX ':' = true then _ else if isX c = true then _ else _) = _
            rw [if_neg (fun zero => absurd zero.2 (by decide)), digit.noX]
            rfl
          unfold Conversion.number
          rw [token]
          show (parseInt unicodeDigit [c, ':']).bind _ = _
          rw [digit.parseInt_colon]
          rfl
        have plain : Plain c := parseInt_plain (digit.parseInt digit)
        show s2baLoop unicodeDigit s (c :: ':' :: rest) 0 v = _
        rw [s2baLoop, plain.round mode, refused]
        rfl

/-- What the length that is printed first is read as. -/
def printedLength (printLength : Bool) (ba : List BYTE) : List BYTE :=
  if printLength then pairs (Nat.toDigits 10 ba.length) else []

/-- The variables when `s2baArray` begins. -/
def Conversion.first (s : JString) : Conversion := ⟨List.replicate (s.length * 2) 0, [], false, 0⟩

/-- There is room for as many bytes as the text has characters, twice. -/
lemma room_first {bytes : List BYTE} (few : bytes.length ≤ s.length * 2) :
    Room (Conversion.first s).ba 0 bytes.length := by
  refine .inr ?_
  rw [Nat.zero_add, Conversion.first, List.length_replicate]
  exact few

/-- What the loop writes is returned. -/
lemma s2baArray_wrote {bytes} (few : bytes.length ≤ s.length * 2)
    (loop : s2baLoop unicodeDigit s s 0 (.first s) = .ok ((Conversion.first s).wrote bytes)) :
    s2baArray unicodeDigit s = .ok bytes := by
  have length : 0 + bytes.length ≤ (Conversion.first s).ba.length := by
    rw [Nat.zero_add, Conversion.first, List.length_replicate]
    exact few
  unfold s2baArray s2ba
  change s2baLoop unicodeDigit s s 0 ⟨List.replicate (s.length * 2) 0, [], false, 0⟩ = _ at loop
  rw [loop]
  show Except.ok ((writeAt (Conversion.first s).ba 0 bytes).take (0 + bytes.length - 0)) = _
  rw [writeAt_eq length, Nat.zero_add, Nat.sub_zero, List.take_zero, List.nil_append,
    List.take_left' rfl]

/-- What the loop throws is thrown. -/
lemma s2baArray_error {thrown ba}
    (loop : s2baLoop unicodeDigit s s 0 (.first s) = .error (thrown, ba)) :
    s2baArray unicodeDigit s = .error thrown := by
  unfold s2baArray s2ba
  change s2baLoop unicodeDigit s s 0 ⟨List.replicate (s.length * 2) 0, [], false, 0⟩ = _ at loop
  rw [loop]

/-- There are fewer pairs than digits. -/
lemma length_pairs {decimal} : (pairs decimal).length ≤ decimal.length := by
  induction decimal using pairs.induct with
  | case1 c d decimal ih => exact Nat.succ_le_succ (Nat.le_succ_of_le ih)
  | case2 decimal short =>
    unfold pairs
    split
    next c d rest => exact (short c d rest rfl).elim
    next => exact Nat.zero_le _

/-- Every byte takes at least one character. -/
lemma length_printedBytes {f : DataFormat} {ba : List BYTE} :
    ba.length ≤ (printedBytes f ba).length := by
  induction ba with
  | nil => exact Nat.le_refl _
  | cons b ba ih =>
    unfold printedBytes at ih ⊢
    rw [List.flatMap_cons, List.length_append, List.length_append, List.length_cons]
    show _ ≤ 2 + _ + _
    omega

/-- Printed bytes are read back, but for the space behind the last one. -/
lemma loop_printed {f : DataFormat} {ba : List BYTE} (mode : v.asciiMode = false)
    (room : Room v.ba v.bpos ba.length) :
    s2baLoop unicodeDigit s (printedBytes f ba) 0 v =
      if f = .HEX_SPACE_HEX_FORMAT ∧ ba ≠ [] then
        .error (.StringIndexOutOfBoundsException, (v.wrote ba).ba)
      else .ok (v.wrote ba) := by
  split
  next space =>
    obtain ⟨rfl, some⟩ := space
    exact loop_bytes_spaces mode room some
  next other =>
    by_cases none : ba = []
    · rw [none]
      rfl
    · have bytes := @loop_bytes unicodeDigit s [] v f ba mode room
        fun space => absurd ⟨space, none⟩ other
      rwa [List.append_nil] at bytes

/-- The result of reading what was printed. A length of an even number of digits is read as bytes,
and one of an odd number is refused; behind the space after the last byte `s2ba` looks for another
character. -/
theorem s2ba_ba2s {isLetterOrDigit f printLength} {ba : List BYTE} :
    let s := ba2s isLetterOrDigit ⟨f, printLength, false⟩ ba
    s2baArray unicodeDigit s =
      if printLength ∧ (Nat.toDigits 10 ba.length).length % 2 = 1 then
        .error (.RuntimeException ("invalid hexadecimal string ".toList ++ s))
      else if f = .HEX_SPACE_HEX_FORMAT ∧ ba ≠ [] then .error .StringIndexOutOfBoundsException
      else .ok (printedLength printLength ba ++ ba) := by
  intro s
  cases printLength with
  | false =>
    have text : s = printedBytes f ba := List.append_nil _
    have few : ba.length ≤ s.length * 2 := by
      have length := @length_printedBytes f ba
      rw [text]
      omega
    have loop := @loop_printed unicodeDigit s (.first s) f ba rfl (room_first few)
    rw [← text] at loop
    rw [if_neg (fun h => Bool.noConfusion h.1)]
    split at loop
    next space =>
      rw [if_pos space]
      exact s2baArray_error loop
    next other =>
      rw [if_neg other]
      exact s2baArray_wrote few loop
  | true =>
    have text : s = Nat.toDigits 10 ba.length ++ ':' :: ' ' :: printedBytes f ba := by
      show (_ ++ [':', ' '] ++ printedBytes f ba) ++ [] = _
      rw [List.append_nil, List.append_assoc]
      rfl
    have few : (pairs (Nat.toDigits 10 ba.length)).length + ba.length ≤ s.length * 2 := by
      have length := @length_printedBytes f ba
      have digits := @length_pairs (Nat.toDigits 10 ba.length)
      rw [text, List.length_append, List.length_cons, List.length_cons]
      omega
    have room : Room (Conversion.first s).ba 0 (pairs (Nat.toDigits 10 ba.length) ++ ba).length :=
      room_first (by rwa [List.length_append])
    rw [List.length_append, room_add] at room
    have loop := @loop_decimal unicodeDigit s (' ' :: printedBytes f ba) (.first s)
      (Nat.toDigits 10 ba.length)
      (fun c mem => Nat.isDigit_of_mem_toDigits (by decide) (by decide) mem) rfl room.1
    rw [← text] at loop
    by_cases odd : (Nat.toDigits 10 ba.length).length % 2 = 1
    · rw [if_neg (by omega)] at loop
      rw [if_pos ⟨rfl, odd⟩]
      exact s2baArray_error loop
    · rw [if_pos (by omega)] at loop
      rw [if_neg (fun h => odd h.2)]
      have some : ba ≠ [] := by
        rintro rfl
        exact odd rfl
      have more : printedBytes f ba ≠ [] :=
        List.ne_nil_of_length_pos
          (Nat.lt_of_lt_of_le (List.length_pos_iff.2 some) length_printedBytes)
      have printed := @loop_printed unicodeDigit s ((Conversion.first s).wrote _) f ba rfl
        (Conversion.room_wrote.2 room.2)
      rw [(Converts.colon rfl).loop, loop_space rfl more, printed, Conversion.wrote_wrote] at loop
      split at loop
      next space =>
        rw [if_pos space]
        exact s2baArray_error loop
      next other =>
        rw [if_neg other]
        exact s2baArray_wrote (by rwa [List.length_append]) loop

end

-- what is printed by default cannot be read back
example : s2baArray (fun _ => none) (ba2s (fun _ => false) defaultFormat [0xab]) =
    .error (.RuntimeException "invalid hexadecimal string 1: AB".toList) := by
  decide

end TagEventor.Jpcsc
