import Mathlib.Tactic.Basic

/-!
# Computations that fail in one way only

`Barring e P x` says of a computation that may fail that it fails with the error `e`, or succeeds
with a result that satisfies `P`. It is kept up by sequencing (`Barring.bind`) and by loops
(`Barring.foldlM_range`, for an assertion about the number of rounds).
-/

variable {ε α β : Type}

/-- Unless it fails with `e`, the computation succeeds with a result that satisfies `P`. -/
inductive Barring (e : ε) (P : α → Prop) : Except ε α → Prop where
  | error :
    Barring e P (.error e)
  | ok {a} :
    P a →
    Barring e P (.ok a)

namespace Barring
variable {e : ε} {P Q : α → Prop} {R : β → Prop}

/-- The second computation is begun in a state that the first one leaves. -/
lemma bind {x : Except ε α} {f : α → Except ε β} (h : Barring e P x)
    (step : ∀ a, P a → Barring e R (f a)) : Barring e R (x >>= f) := by
  cases h with
  | error => exact .error
  | ok ha => exact step _ ha

/-- A weaker postcondition. -/
lemma mono {x : Except ε α} (h : Barring e P x) (weaken : ∀ a, P a → Q a) : Barring e Q x := by
  cases h with
  | error => exact .error
  | ok ha => exact .ok (weaken _ ha)

/-- Where the result is known, the postcondition is to be shown of it only. -/
lemma of_eq {x : Except ε α} {a} (eq : x = .ok a) (h : P a) : Barring e P x := by
  rw [eq]
  exact .ok h

/-- The other errors do not occur. -/
lemma success {x : Except ε α} (h : Barring e P x) (ne : x ≠ .error e) : ∃ a, x = .ok a ∧ P a := by
  cases h with
  | error => exact absurd rfl ne
  | ok ha => exact ⟨_, rfl, ha⟩

/-- An assertion about the number of rounds that every round advances holds after all of them. -/
lemma foldlM_range {I : Nat → α → Prop} {f : α → Nat → Except ε α} {n : Nat} {a : α}
    (start : I 0 a) (step : ∀ i < n, ∀ a, I i a → Barring e (I (i + 1)) (f a i)) :
    Barring e (I n) ((List.range n).foldlM f a) := by
  induction n with
  | zero => exact .ok start
  | succ n ih =>
    rw [List.range_succ, List.foldlM_append]
    apply (ih fun i hi => step i (Nat.lt_succ_of_lt hi)).bind
    intro b hb
    rw [List.foldlM_cons]
    exact (step n (Nat.lt_succ_self n) b hb).bind fun c hc => .ok hc

end Barring
