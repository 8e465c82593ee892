import Mathlib.Algebra.Order.Ring.Nat
import Mathlib.Data.List.TakeWhile
import TagEventor.Daemon.Program

/-!
# Numbers in texts

What `sscanf` with `"%d"` makes of a text that begins with digits: it reads all of them, also those
that follow where the writer of the text has stopped.
-/

namespace TagEventor

/-- A text of digits, at least one. -/
def Digits (text : CString) : Prop := text ≠ [] ∧ ∀ c ∈ text, c.isDigit = true

instance (text : CString) : Decidable (Digits text) := inferInstanceAs (Decidable (_ ∧ _))

/-- The number that a text of digits stands for. -/
abbrev value (digits : CString) : Nat := Nat.ofDigitChars 10 digits 0

/-- The codes of the digits. -/
lemma isDigit_toNat {c : Char} (h : c.isDigit = true) : 48 ≤ c.toNat ∧ c.toNat ≤ 57 := by
  simp only [Char.isDigit, Bool.and_eq_true, decide_eq_true_eq, UInt32.le_iff_toNat_le] at h
  exact h

/-- A digit is neither white space nor a sign. -/
lemma isDigit_start {c : Char} (h : c.isDigit = true) : isspace c = false ∧ c ≠ '-' ∧ c ≠ '+' := by
  obtain ⟨low, high⟩ := isDigit_toNat h
  have ne : ∀ {d : Char}, d.toNat < 48 → c ≠ d := by
    rintro d hd rfl
    omega
  refine ⟨?_, ne (by decide), ne (by decide)⟩
  simp [isspace, ne (show ' '.toNat < 48 by decide)]
  omega

/-- The value of digits behind a number. -/
lemma foldl_value {digits : CString} (all : ∀ c ∈ digits, c.isDigit = true) {n : Nat} :
    digits.foldl (fun (n : Int) c => 10 * n + (c.toNat - '0'.toNat)) n =
      (Nat.ofDigitChars 10 digits n : Nat) := by
  induction digits generalizing n with
  | nil => rfl
  | cons c digits ih =>
    have low := (isDigit_toNat (all c List.mem_cons_self)).1
    have e : 10 * (n : Int) + ((c.toNat : Int) - ('0'.toNat : Int)) =
        ((10 * n + (c.toNat - '0'.toNat) : Nat) : Int) := by
      have zero : '0'.toNat = 48 := rfl
      omega
    rw [List.foldl_cons, Nat.ofDigitChars_cons, e]
    exact ih fun c hc => all c (List.mem_cons_of_mem _ hc)

/-- All the digits that a text begins with are read. -/
lemma sscanfInt_digits {digits rest : CString} (h : Digits digits) :
    sscanfInt (digits ++ rest) = some (value (digits ++ rest.takeWhile Char.isDigit) : Int) := by
  obtain ⟨ne, all⟩ := h
  have scan : scanDigits (digits ++ rest) =
      some (value (digits ++ rest.takeWhile Char.isDigit) : Int) := by
    unfold scanDigits
    rw [List.takeWhile_append_of_pos all, if_neg fun nil => ne (List.append_eq_nil_iff.1 nil).1]
    congr 1
    refine foldl_value (n := 0) fun c hc => ?_
    rcases List.mem_append.1 hc with hc | hc
    · exact all c hc
    · exact List.mem_takeWhile_imp hc
  cases digits with
  | nil => exact absurd rfl ne
  | cons c digits =>
    obtain ⟨space, minus, plus⟩ := isDigit_start (all c List.mem_cons_self)
    rw [← scan, sscanfInt, List.cons_append, List.dropWhile_cons_of_neg (by rw [space]; decide)]
    split
    next e => cases e; exact absurd rfl minus
    next e => cases e; exact absurd rfl plus
    next => rfl

/-- The value of digits behind others. -/
lemma value_append {digits more : CString} :
    value (digits ++ more) = 10 ^ more.length * value digits + value more :=
  (Nat.ofDigitChars_append 0).trans Nat.ofDigitChars_eq_ofDigitChars_zero

/-- So many digits have no greater value. -/
lemma value_lt {digits : CString} (all : ∀ c ∈ digits, c.isDigit = true) :
    value digits < 10 ^ digits.length := by
  induction digits with
  | nil => exact Nat.one_pos
  | cons c digits ih =>
    have digit := isDigit_toNat (all c List.mem_cons_self)
    have rest := ih fun d hd => all d (List.mem_cons_of_mem _ hd)
    have first : value [c] ≤ 9 := by
      show 10 * 0 + (c.toNat - 48) ≤ 9
      omega
    have e : value (c :: digits) = 10 ^ digits.length * value [c] + value digits :=
      @value_append [c] digits
    rw [e, List.length_cons, Nat.pow_succ]
    calc 10 ^ digits.length * value [c] + value digits
      _ ≤ 10 ^ digits.length * 9 + value digits :=
        Nat.add_le_add_right (Nat.mul_le_mul_left _ first) _
      _ < 10 ^ digits.length * 10 := by omega

/-- Further digits make a number greater. -/
lemma value_append_lt {digits more : CString} (pos : 0 < value digits) (ne : more ≠ []) :
    value digits < value (digits ++ more) := by
  cases more with
  | nil => exact absurd rfl ne
  | cons c more =>
    have ten : 10 ≤ 10 ^ (c :: more).length := by
      rw [List.length_cons, Nat.pow_succ]
      exact Nat.le_mul_of_pos_left 10 (Nat.pow_pos (by decide))
    rw [value_append]
    calc value digits < 10 * value digits := by omega
      _ ≤ 10 ^ (c :: more).length * value digits := Nat.mul_le_mul_right _ ten
      _ ≤ _ := Nat.le_add_right _ _

/-- No number but zero is written with a leading zero. -/
lemma value_pos {n : Nat} {digits rest : CString} (pos : 0 < n) (ne : digits ≠ [])
    (e : digits ++ rest = Nat.toDigits 10 n) : 0 < value digits := by
  have all : ∀ c ∈ rest, c.isDigit = true := fun c hc =>
    Nat.isDigit_of_mem_toDigits (b := 10) (n := n) (by decide) (by decide)
      (e ▸ List.mem_append_right digits hc)
  have number : 10 ^ rest.length * value digits + value rest = n := by
    rw [← value_append, e]
    exact Nat.ofDigitChars_ten_toDigits
  apply Nat.pos_of_ne_zero
  intro zero
  rw [zero, Nat.mul_zero, Nat.zero_add] at number
  have small := value_lt all
  rw [number] at small
  have length : (Nat.toDigits 10 n).length = digits.length + rest.length := by
    rw [← e, List.length_append]
  have first := List.length_pos_of_ne_nil ne
  cases rest with
  | nil =>
    exact absurd small (by simp; omega)
  | cons c rest =>
    have short : (Nat.toDigits 10 n).length ≤ (c :: rest).length :=
      (Nat.length_toDigits_le_iff (by decide) (Nat.succ_pos _)).2 small
    omega

end TagEventor
