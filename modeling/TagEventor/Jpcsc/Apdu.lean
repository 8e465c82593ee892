import Mathlib.Logic.Function.Basic
import TagEventor.Reader.Types

/-!
# Texts of APDUs

`Apdu.java` of the library `jpcsc`: `s2ba` converts a text to bytes, and `ba2s` prints bytes. `s2ba`
writes into an array in one pass. The position of the length byte of a bracket is kept on a stack
until the bracket is closed.

* A Java string is the list of its characters.
* `Character.digit` and `Character.isLetterOrDigit` are parameters for the characters beyond ASCII.
* What is thrown comes with the array at that time, which the caller may keep.
-/

namespace TagEventor.Jpcsc

/-- A Java string. -/
abbrev JString := List Char

/-- What is thrown; there is no message for what the Java machine throws by itself. -/
inductive Thrown where
  | RuntimeException (message : JString)
  | StringIndexOutOfBoundsException
  | ArrayIndexOutOfBoundsException (message : Option JString)
  | NegativeArraySizeException
deriving DecidableEq

/-- `ba[i] = b`. -/
def store (ba : List BYTE) (i : Nat) (b : BYTE) : Option (List BYTE) :=
  if i < ba.length then some (ba.set i b) else none

section
variable (unicodeDigit : Char → Option Nat)

/-- `Character.digit(c, 16)`. -/
def characterDigit (c : Char) : Option Nat :=
  if '0' ≤ c ∧ c ≤ '9' then some (c.toNat - '0'.toNat)
  else if 'A' ≤ c ∧ c ≤ 'F' then some (c.toNat - 'A'.toNat + 10)
  else if 'a' ≤ c ∧ c ≤ 'f' then some (c.toNat - 'a'.toNat + 10)
  else if c.toNat < 128 then none
  else unicodeDigit c

/-- The value of some digits. -/
def digitsValue (n : JString) : Option Nat :=
  n.foldlM (fun value c => (characterDigit unicodeDigit c).map (16 * value + ·)) 0

/-- `Integer.parseInt(n, 16)`: there may be a sign before the digits. -/
def parseInt (n : JString) : Option Int :=
  if n = [] ∨ n = ['-'] ∨ n = ['+'] then none
  else if n.head? = some '-' then (digitsValue unicodeDigit n.tail).map (-Int.ofNat ·)
  else if n.head? = some '+' then (digitsValue unicodeDigit n.tail).map Int.ofNat
  else (digitsValue unicodeDigit n).map Int.ofNat

/-- So many brackets may be open. -/
def MAX_BRACE_CNT : Nat := 10

/-- `(c == 'x') || (c == 'X')`. -/
def isX (c : Char) : Bool := c = 'x' || c = 'X'

/-- The digits after an `x` and their number, if neither `charAt` nor `substring` throws. -/
def digitsAfterX : JString → Option (JString × Nat)
  | [] => none
  | [d] => some ([d], 1)
  | d :: d' :: _ => if d' = ':' ∨ d' = ' ' then some ([d], 1) else some ([d, d'], 2)

/-- The digits of the number at the beginning of a text, and how many characters it takes. -/
def hexToken : JString → Option (JString × Nat)
  | [] => none
  -- a single `0` or `x` is followed by a call of `charAt`, any other character by `substring`
  | [_] => none
  | c :: c' :: rest =>
    if c = '0' ∧ isX c' = true then
      (digitsAfterX rest).map fun (n, used) => (n, used + 2)
    else if isX c = true then (digitsAfterX (c' :: rest)).map fun (n, used) => (n, used + 1)
    else some ([c, c'], 2)

/-- The variables of `s2ba`; of `braceTab` the entries up to `bracePos`, the last one first. -/
structure Conversion where
  ba : List BYTE
  braceTab : List Nat
  asciiMode : Bool
  bpos : Nat
deriving DecidableEq

/-- The number at the beginning of a text is converted; whatever is thrown here is caught. -/
def Conversion.number (v : Conversion) (text : JString) : Option (Conversion × Nat) := do
  let (n, used) ← hexToken text
  let value ← parseInt unicodeDigit n
  let ba ← store v.ba v.bpos (UInt8.ofInt value)
  return ({ v with ba, bpos := v.bpos + 1 }, used)

/-- A round of the loop of `s2ba` at the character `c`, and how many characters are taken. -/
def Conversion.round (v : Conversion) (s : JString) (c : Char) (rest : JString) :
    Except (Thrown × List BYTE) (Conversion × Nat) :=
  if v.asciiMode = false ∧ c = ':' then .ok (v, 1)
  else if v.asciiMode = false ∧ c = ' ' then
    -- the character after the spaces is looked at
    let spaces := (rest.takeWhile (· = ' ')).length
    if spaces < rest.length then .ok (v, spaces + 1)
    else .error (.StringIndexOutOfBoundsException, v.ba)
  else if v.asciiMode = false ∧ c = '#' then
    if rest = [] then .error (.StringIndexOutOfBoundsException, v.ba)
    else if rest.head? ≠ some '(' then
      .error (.RuntimeException ("miss ( after # in ".toList ++ s), v.ba)
    else if v.braceTab.length ≥ MAX_BRACE_CNT then
      .error (.RuntimeException ("too many ( in APDU spec ".toList ++ s), v.ba)
    else .ok ({ v with braceTab := v.bpos :: v.braceTab, bpos := v.bpos + 1 }, 2)
  else if v.asciiMode = false ∧ c = ')' then
    match v.braceTab with
    | [] => .error (.RuntimeException ("invalid ) in APDU spec ".toList ++ s), v.ba)
    | start :: braceTab =>
      match store v.ba start (UInt8.ofNat (v.bpos - start - 1)) with
      | none => .error (.ArrayIndexOutOfBoundsException none, v.ba)
      | some ba => .ok ({ v with ba, braceTab }, 1)
  else if c = '|' then .ok ({ v with asciiMode := !v.asciiMode }, 1)
  else if v.asciiMode = true then
    if c.toNat ≥ 256 then
      .error (.RuntimeException ("invalid character in hex-string ".toList ++ s), v.ba)
    else
      match store v.ba v.bpos (UInt8.ofNat c.toNat) with
      | none => .error (.ArrayIndexOutOfBoundsException none, v.ba)
      | some ba => .ok ({ v with ba, bpos := v.bpos + 1 }, 1)
  else
    match v.number unicodeDigit (c :: rest) with
    | none => .error (.RuntimeException ("invalid hexadecimal string ".toList ++ s), v.ba)
    | some next => .ok next

/-- The loop of `s2ba`; the characters that a round has taken are skipped. -/
def s2baLoop (s : JString) : JString → Nat → Conversion → Except (Thrown × List BYTE) Conversion
  | [], _, v => .ok v
  | _ :: rest, skip + 1, v => s2baLoop s rest skip v
  | c :: rest, 0, v =>
    match v.round unicodeDigit s c rest with
    | .error thrown => .error thrown
    | .ok (v, used) => s2baLoop s rest (used - 1) v

/-- `s2ba(s, ba, off)`: the number of bytes, and the array. -/
def s2ba (s : JString) (ba : List BYTE) (off : Nat) :
    Except (Thrown × List BYTE) (Nat × List BYTE) :=
  match s2baLoop unicodeDigit s s 0 ⟨ba, [], false, off⟩ with
  | .error thrown => .error thrown
  | .ok v =>
    if v.braceTab ≠ [] then .error (.RuntimeException "mismatched parentheses".toList, v.ba)
    else .ok (v.bpos - off, v.ba)

/-- `s2ba(s)`. -/
def s2baArray (s : JString) : Except Thrown (List BYTE) :=
  match s2ba unicodeDigit s (List.replicate (s.length * 2) 0) 0 with
  | .error (thrown, _) => .error thrown
  | .ok (len, ba) => .ok (ba.take len)

end

/-- What stands between the bytes. -/
inductive DataFormat where
  | HEX_SPACE_HEX_FORMAT
  | HEX_COLON_HEX_FORMAT
  | HEX_VOID_HEX_FORMAT
deriving DecidableEq

/-- How `ba2s` prints. -/
structure Format where
  dataFormat : DataFormat
  printLength : Bool
  printAscii : Bool
deriving DecidableEq

/-- The format without other words. -/
def defaultFormat : Format := ⟨.HEX_VOID_HEX_FORMAT, true, false⟩

/-- The digits that are printed. -/
def digits : JString := "0123456789ABCDEF".toList

/-- The two digits of a byte. -/
def byteDigits (b : BYTE) : JString :=
  [digits.getD (b.toNat / 16) ' ', digits.getD (b.toNat % 16) ' ']

/-- What follows each byte. -/
def DataFormat.separator : DataFormat → JString
  | .HEX_SPACE_HEX_FORMAT => [' ']
  | .HEX_COLON_HEX_FORMAT => [':']
  | .HEX_VOID_HEX_FORMAT => []

/-- `(char) ba[i]`: the sign is extended. -/
def byteChar (b : BYTE) : Char := Char.ofNat (if b < 128 then b.toNat else 0xff00 + b.toNat)

/-- `ba2s` of a range of an array, which is given as the list of its bytes. -/
def ba2s (isLetterOrDigit : Char → Bool) (f : Format) (ba : List BYTE) : JString :=
  (if f.printLength then Nat.toDigits 10 ba.length ++ ": ".toList else []) ++
    ba.flatMap (fun b => byteDigits b ++ f.dataFormat.separator) ++
    if f.printAscii then
      ' ' :: ba.map fun b => if isLetterOrDigit (byteChar b) then byteChar b else 'X'
    else []

end TagEventor.Jpcsc
