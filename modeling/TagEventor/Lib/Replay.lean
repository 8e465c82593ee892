import Mathlib.Data.Finset.Basic
import Mathlib.Data.Finset.Insert
import Mathlib.Data.List.Basic

/-!
# Replaying announced changes of a set

A set that changes over time is announced by its changes: an element enters it or leaves it.
`replay` applies announcements to a set. `leaving l l'` and `entering l l'` are the announcements
for the change from the elements of `l` to those of `l'`, in the order of the lists and once for
each entry; replaying them does what they announce (`replay_diff`).
-/

namespace Replay
variable {ι : Type} [DecidableEq ι]

/-- One announced change. -/
inductive Change (ι : Type) where
  | enter (a : ι)
  | leave (a : ι)
deriving DecidableEq

/-- The set after a change. -/
def apply (s : Finset ι) : Change ι → Finset ι
  | .enter a => insert a s
  | .leave a => s.erase a

/-- The set after a list of changes. -/
def replay (s : Finset ι) (l : List (Change ι)) : Finset ι := l.foldl apply s

/-- Everything in `l` but not in `l'` leaves. -/
def leaving (l l' : List ι) : List (Change ι) := (l.filter (· ∉ l')).map .leave

/-- Everything in `l'` but not in `l` enters. -/
def entering (l l' : List ι) : List (Change ι) := (l'.filter (· ∉ l)).map .enter

/-- Changes are replayed one part after the other. -/
lemma replay_append {s : Finset ι} {l l'} : replay s (l ++ l') = replay (replay s l) l' :=
  List.foldl_append

/-- What is left after some have gone. -/
lemma mem_replay_leave {s : Finset ι} {l : List ι} {a} :
    a ∈ replay s (l.map .leave) ↔ a ∈ s ∧ a ∉ l := by
  induction l generalizing s with
  | nil => simp [replay]
  | cons b l ih =>
    have h := @ih (s.erase b)
    rw [Finset.mem_erase] at h
    simp only [List.mem_cons, not_or]
    exact h.trans (by tauto)

/-- What is there after some have come. -/
lemma mem_replay_enter {s : Finset ι} {l : List ι} {a} :
    a ∈ replay s (l.map .enter) ↔ a ∈ s ∨ a ∈ l := by
  induction l generalizing s with
  | nil => simp [replay]
  | cons b l ih =>
    have h := @ih (insert b s)
    rw [Finset.mem_insert] at h
    simp only [List.mem_cons]
    exact h.trans (by tauto)

/-- Changes among which nothing enters leave a part of the set. -/
lemma replay_subset {s : Finset ι} {l : List (Change ι)} (h : ∀ a, .enter a ∉ l) :
    replay s l ⊆ s := by
  induction l generalizing s with
  | nil => exact Finset.Subset.refl s
  | cons c l ih =>
    have tail : ∀ a, .enter a ∉ l := fun a ha => h a (List.mem_cons_of_mem c ha)
    cases c with
    | enter a => exact absurd List.mem_cons_self (h a)
    | leave a => exact (ih tail).trans (Finset.erase_subset a s)

/-- Replaying the difference of two lists gets from the elements of the one to the other's. -/
theorem replay_diff {l l' : List ι} :
    replay l.toFinset (leaving l l' ++ entering l l') = l'.toFinset := by
  ext a
  rw [replay_append, entering, mem_replay_enter, leaving, mem_replay_leave]
  simp only [List.mem_filter, List.mem_toFinset, decide_eq_true_eq]
  by_cases h : a ∈ l' <;> simp [h, em]

/-- Nothing changes iff the lists have the same elements. -/
lemma diff_eq_nil_iff {l l' : List ι} :
    leaving l l' ++ entering l l' = [] ↔ l.toFinset = l'.toFinset := by
  simp only [leaving, entering, List.append_eq_nil_iff, List.map_eq_nil_iff,
    List.filter_eq_nil_iff, decide_not, Bool.not_eq_true', decide_eq_false_iff_not, not_not,
    Finset.ext_iff, List.mem_toFinset]
  exact ⟨fun h a => ⟨h.1 a, h.2 a⟩, fun h => ⟨fun a => (h a).1, fun a => (h a).2⟩⟩

end Replay
