import Mathlib.Data.List.Basic

/-!
# Blocks of memory

The blocks that were allocated so far, in the order of their allocation, each with its content or
freed. A block is designated by its number. An allocation keeps all blocks (`get_append`), a write
and a release all others (`get_set_ne`, `get_free_ne`).
-/

/-- The blocks that were allocated, `none` where one is freed. -/
abbrev Blocks (β : Type) := List (Option β)

namespace Blocks
variable {β : Type} {s u : Blocks β} {p q : Nat} {b c : β}

/-- The content of a block that is not freed. -/
def get (s : Blocks β) (p : Nat) : Option β := s[p]?.join

/-- The blocks after one is allocated; its number is `s.length`. -/
def alloc (s : Blocks β) (b : β) : Blocks β := s ++ [some b]

/-- The blocks after something is written to one. -/
def put (s : Blocks β) (p : Nat) (b : β) : Blocks β := s.set p (some b)

/-- The block is released. -/
def free (s : Blocks β) (p : Nat) : Blocks β := s.set p none

/-- A block in use lies in the arena. -/
lemma lt_of_get (h : s.get p = some b) : p < s.length := by
  rw [← Nat.not_le]
  intro out
  rw [get, List.getElem?_eq_none out] at h
  cases h

/-- What is allocated later does not matter. -/
lemma get_append (h : s.get p = some b) : get (s ++ u) p = some b := by
  rw [get, List.getElem?_append_left (lt_of_get h)]
  exact h

/-- A new block holds what it was made with. -/
lemma get_alloc : (s.alloc b).get s.length = some b := by
  rw [get, alloc, List.getElem?_concat_length]
  rfl

/-- A block holds what was stored last. -/
lemma get_put (h : s.get p = some c) : (s.put p b).get p = some b := by
  rw [get, put, List.getElem?_set_self (lt_of_get h)]
  rfl

/-- A store leaves the other blocks alone. -/
lemma get_put_ne (ne : p ≠ q) : (s.put p b).get q = s.get q := by
  rw [get, put, List.getElem?_set_ne ne]
  rfl

/-- The release of a block leaves the others alone. -/
lemma get_free_ne (ne : p ≠ q) : (s.free p).get q = s.get q := by
  rw [get, free, List.getElem?_set_ne ne]
  rfl

/-- Nothing changes if what a block holds is written to it. -/
lemma put_self (h : s.get p = some b) : s.put p b = s := by
  have lt := lt_of_get h
  rw [get, List.getElem?_eq_getElem lt] at h
  have h : s[p] = some b := h
  rw [put, ← h, List.set_getElem_self]

/-- Only the last one of two writes to a block counts. -/
lemma put_put : (s.put p b).put p c = s.put p c := List.set_set ..

end Blocks
