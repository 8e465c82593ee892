import Mathlib.Data.List.Basic

/-!
# Sources of a main loop

A main loop calls its sources again and again. A source that is added gets a number of its own,
which is never zero, and it is live until the source of that number is removed. A program that
removes the source it remembers before it adds the next one has `Only` one (`Only.replace`).
-/

/-- A main loop: how many sources were added to it, and those that are live. -/
structure MainLoop (α : Type) where
  added : Nat
  live : List (Nat × α)
deriving DecidableEq

namespace MainLoop
variable {α : Type} {s : MainLoop α} {id : Nat} {a b : α}

/-- The main loop before anything is added to it. -/
def init : MainLoop α := ⟨0, []⟩

/-- A new source, and its number. -/
def add (s : MainLoop α) (a : α) : Nat × MainLoop α :=
  (s.added + 1, ⟨s.added + 1, s.live ++ [(s.added + 1, a)]⟩)

/-- The source with this id is removed. -/
def remove (s : MainLoop α) (id : Nat) : MainLoop α :=
  { s with live := s.live.filter fun source => source.1 ≠ id }

/-- There is one live source, of that number. -/
structure Only (s : MainLoop α) (id : Nat) (a : α) : Prop where
  live : s.live = [(id, a)]
  positive : 0 < id

/-- Nothing but the only source is called. -/
lemma Only.mem_iff (h : Only s id a) {source} : source ∈ s.live ↔ source = (id, a) := by
  rw [h.live, List.mem_singleton]

/-- The first source. -/
lemma only_add (empty : s.live = []) : Only (s.add a).2 (s.add a).1 a where
  live := by
    rw [add, empty]
    rfl
  positive := Nat.succ_pos _

/-- A source that takes the place of the only one. -/
lemma Only.replace (h : Only s id a) : Only ((s.remove id).add b).2 ((s.remove id).add b).1 b :=
  only_add (by simp [remove, h.live])

end MainLoop
