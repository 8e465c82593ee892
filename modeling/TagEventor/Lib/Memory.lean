import Mathlib.Data.List.GetD

/-!
# Texts written into memory

A memory is a function on addresses, and a `Write` puts a list of values at an address. `Holds` says
that a list is found at an address: it holds what was written last (`holds_store`), and what lies
before a write stays (`Holds.store`). A string that is extended by writes at its end is the
concatenation of what was written (`Holds.append`).
-/

namespace Memory
variable {α : Type} {mem : Nat → α}

/-- The values `content`, written from the address `start` on. -/
structure Write (α : Type) where
  start : Nat
  content : List α
deriving DecidableEq

/-- The memory after a write. -/
def store (mem : Nat → α) (w : Write α) : Nat → α :=
  fun i => if w.start ≤ i then w.content.getD (i - w.start) (mem i) else mem i

/-- The write stays inside of a block of some size. -/
def Write.InBounds (size : Nat) (w : Write α) : Prop := w.start + w.content.length ≤ size

instance {size : Nat} {w : Write α} : Decidable (w.InBounds size) :=
  inferInstanceAs (Decidable (_ ≤ _))

/-- The list is found at an address. -/
def Holds (mem : Nat → α) (start : Nat) (l : List α) : Prop :=
  ∀ i (h : i < l.length), mem (start + i) = l[i]

/-- No element is held anywhere. -/
lemma holds_nil {start} : Holds mem start [] := nofun

/-- What was written is found. -/
lemma holds_store {w : Write α} : Holds (store mem w) w.start w.content := by
  intro i h
  rw [store, if_pos (Nat.le_add_right _ _), Nat.add_sub_cancel_left, List.getD_eq_getElem _ _ h]

/-- What lies before a write is left alone. -/
lemma Holds.store {start} {l : List α} {w : Write α} (h : Holds mem start l)
    (before : start + l.length ≤ w.start) : Holds (store mem w) start l := by
  intro i hi
  rw [Memory.store, if_neg (by omega)]
  exact h i hi

/-- Two lists are held one after the other. -/
lemma holds_append {start} {l m : List α} :
    Holds mem start (l ++ m) ↔ Holds mem start l ∧ Holds mem (start + l.length) m := by
  constructor
  · intro h
    constructor
    · intro i hi
      rw [h i (by rw [List.length_append]; omega), List.getElem_append_left hi]
    · intro i hi
      rw [Nat.add_assoc, h _ (by rw [List.length_append]; omega)]
      simp
  · rintro ⟨hl, hm⟩ i hi
    rw [List.length_append] at hi
    by_cases left : i < l.length
    · rw [hl i left, List.getElem_append_left left]
    · have right := hm (i - l.length) (by omega)
      rw [List.getElem_append_right (by omega), ← right]
      congr 1
      omega

/-- Lists of one length found at one address are equal. -/
lemma Holds.unique {start} {l m : List α} (h : Holds mem start l) (h' : Holds mem start m)
    (length : l.length = m.length) : l = m := by
  apply List.ext_getElem length
  intro i hl hm
  rw [← h i hl, ← h' i hm]

/-- A write at the end of a list extends it. -/
lemma Holds.append {start} {l content : List α} (h : Holds mem start l) :
    Holds (Memory.store mem ⟨start + l.length, content⟩) start (l ++ content) :=
  holds_append.2 ⟨h.store (Nat.le_refl _), holds_store⟩

/-- The beginning of a list is held where the list is. -/
lemma Holds.take {start n} {l : List α} (h : Holds mem start l) : Holds mem start (l.take n) := by
  rw [← List.take_append_drop n l] at h
  exact (holds_append.1 h).1

end Memory
