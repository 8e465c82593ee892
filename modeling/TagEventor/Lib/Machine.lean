import Mathlib.Logic.Relation
import Mathlib.Tactic.Basic

/-!
# Machines and their runs

A deterministic machine `next : σ → α → σ` reads a log of inputs. `Meets next P s l` says that
every input of `l` satisfies `P` in the state it is read in, when the machine starts in `s`. The
induction over runs is made once, in `Meets.inv`: an invariant that every step satisfying `P`
preserves holds at the end of every run that meets `P`. `steps_inv` is the same for a step relation,
whose runs are its reflexive transitive closure.
-/

namespace Machine
variable {σ α : Type} {next : σ → α → σ} {P P' : σ → α → Prop}

/-- Every input of the log satisfies `P` in the state in which the machine reads it. -/
def Meets (next : σ → α → σ) (P : σ → α → Prop) : σ → List α → Prop
  | _, [] => True
  | s, a :: l => P s a ∧ Meets next P (next s a) l

/-- An empty log meets every condition. -/
@[simp] lemma meets_nil {s} : Meets next P s [] := trivial

/-- The first input satisfies the condition, and the others from the next state on. -/
@[simp] lemma meets_cons {s a l} : Meets next P s (a :: l) ↔ P s a ∧ Meets next P (next s a) l :=
  .rfl

instance [∀ s a, Decidable (P s a)] : ∀ s l, Decidable (Meets next P s l)
  | _, [] => .isTrue trivial
  | s, a :: l =>
    have := instDecidableMeets (next s a) l
    inferInstanceAs (Decidable (P s a ∧ Meets next P (next s a) l))

/-- A concatenation meets `P` iff both parts do, the second from where the first ends. -/
lemma meets_append {s l m} :
    Meets next P s (l ++ m) ↔ Meets next P s l ∧ Meets next P (l.foldl next s) m := by
  induction l generalizing s with
  | nil => simp
  | cons a l ih => simp [ih, and_assoc]

/-- A log all of whose inputs satisfy the condition in every state meets it. -/
lemma Meets.of_forall {l} (h : ∀ a ∈ l, ∀ s, P s a) {s} : Meets next P s l := by
  induction l generalizing s with
  | nil => trivial
  | cons a l ih =>
    exact ⟨h a List.mem_cons_self s, ih fun b hb => h b (List.mem_cons_of_mem _ hb)⟩

/-- A weaker condition is met, too. -/
lemma Meets.imp (weaker : ∀ s a, P s a → P' s a) {s l} (h : Meets next P s l) :
    Meets next P' s l := by
  induction l generalizing s with
  | nil => trivial
  | cons a l ih => exact ⟨weaker s a h.1, ih h.2⟩

/-- Two conditions are met together. -/
lemma Meets.and {s l} (h : Meets next P s l) (h' : Meets next P' s l) :
    Meets next (fun s a => P s a ∧ P' s a) s l := by
  induction l generalizing s with
  | nil => trivial
  | cons a l ih => exact ⟨⟨h.1, h'.1⟩, ih h.2 h'.2⟩

/-- An invariant of the steps that satisfy `P` holds at the end of a log that meets `P`. -/
theorem Meets.inv {I : σ → Prop} (step : ∀ s a, I s → P s a → I (next s a))
    {s l} (h : Meets next P s l) (hs : I s) : I (l.foldl next s) := by
  induction l generalizing s with
  | nil => exact hs
  | cons a l ih => exact ih h.2 (step s a hs h.1)

/-- What every step of a relation preserves, every run preserves. -/
theorem steps_inv {step : σ → σ → Prop} {I : σ → Prop} (pres : ∀ s t, I s → step s t → I t) {s t}
    (run : Relation.ReflTransGen step s t) (hs : I s) : I t := by
  induction run with
  | refl => exact hs
  | tail _ st ih => exact pres _ _ ih st

end Machine
