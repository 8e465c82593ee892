import Mathlib.Tactic.Basic

/-!
# Interactive programs

A program that asks questions of an environment and continues with the answers, as a finitely
branching tree (`Prog`). `Prog.run` executes it against a stateful answerer. Three rules carry all
reasoning about runs:

* `Prog.Ensures`: a postcondition on every leaf, whatever the answers are; it composes over `bind`
  (`Ensures.bind`) and holds of the result of every run (`Ensures.run`);
* `Prog.run_path`: a preorder that every single answer respects is respected by the whole run;
* `Prog.run_sim`: two answerers that give equal answers in related states return equal results and
  end in related states.

Two answerers keep the questions they are asked: `inOrder` answers from a sequence, whatever is
asked, and `recorded` answers like another one. `Prog.transcript` is what a run asks and is told,
and `Prog.Asks` bounds what a program can ask, whatever the answers are (`Asks.transcript`).
`Prog.hits` says whether a question of a run is a bad one.
-/

namespace Interact

/-- A program that asks questions in `Q`, is answered in `A` and returns an `α`. -/
inductive Prog (Q A α : Type) where
  | ret (a : α) : Prog Q A α
  | ask (q : Q) (k : A → Prog Q A α) : Prog Q A α

namespace Prog
variable {Q A α β σ τ : Type}

/-- Sequencing: continue with `f` at every leaf. -/
def bind : Prog Q A α → (α → Prog Q A β) → Prog Q A β
  | ret a, f => f a
  | ask q k, f => ask q (fun a => bind (k a) f)

instance : Monad (Prog Q A) where
  pure := ret
  bind := bind

/-- The run of a program against an answerer with a state. -/
def run (answer : Q → σ → A × σ) : Prog Q A α → σ → α × σ
  | ret a, s => (a, s)
  | ask q k, s => run answer (k (answer q s).1) (answer q s).2

/-- The run of a sequence: the second program goes on where the first one ends. -/
lemma run_bind {answer : Q → σ → A × σ} {p : Prog Q A α} {f : α → Prog Q A β} {s} :
    (p >>= f).run answer s = (f (p.run answer s).1).run answer (p.run answer s).2 := by
  induction p generalizing s with
  | ret a => rfl
  | ask q k ih => exact ih _

/-- Every leaf satisfies `P`, whatever the answers are. -/
def Ensures (P : α → Prop) : Prog Q A α → Prop
  | ret a => P a
  | ask _ k => ∀ a, Ensures P (k a)

/-- Nothing is claimed of the leaves. -/
lemma ensures_true {p : Prog Q A α} : Ensures (fun _ => True) p := by
  induction p with
  | ret a => trivial
  | ask q k ih => exact ih

/-- Postconditions compose over sequencing. -/
lemma Ensures.bind {P : α → Prop} {R : β → Prop} {p : Prog Q A α} {f : α → Prog Q A β}
    (hp : Ensures P p) (hf : ∀ a, P a → Ensures R (f a)) : Ensures R (p >>= f) := by
  induction p with
  | ret a => exact hf a hp
  | ask q k ih => exact fun a => ih a (hp a)

/-- A postcondition holds of the result of every run. -/
lemma Ensures.run {P : α → Prop} {p : Prog Q A α} (hp : Ensures P p)
    (answer : Q → σ → A × σ) (s : σ) : P (p.run answer s).1 := by
  induction p generalizing s with
  | ret a => exact hp
  | ask q k ih => exact ih _ (hp _) _

/-- A preorder respected by every answer is respected by the run. -/
lemma run_path {R : σ → σ → Prop} {answer : Q → σ → A × σ}
    (refl : ∀ s, R s s) (trans : ∀ {s t u}, R s t → R t u → R s u)
    (step : ∀ q s, R s (answer q s).2) (p : Prog Q A α) (s : σ) : R s (p.run answer s).2 := by
  induction p generalizing s with
  | ret a => exact refl s
  | ask q k ih => exact trans (step q s) (ih _ _)

/-- Answerers that agree in related states return equal results and end in related states. -/
lemma run_sim {R : σ → τ → Prop} {answer : Q → σ → A × σ} {answer' : Q → τ → A × τ}
    (step : ∀ q s t, R s t → (answer q s).1 = (answer' q t).1 ∧ R (answer q s).2 (answer' q t).2)
    (p : Prog Q A α) {s : σ} {t : τ} (h : R s t) :
    (p.run answer s).1 = (p.run answer' t).1 ∧ R (p.run answer s).2 (p.run answer' t).2 := by
  induction p generalizing s t with
  | ret a => exact ⟨rfl, h⟩
  | ask q k ih =>
    obtain ⟨e, h'⟩ := step q s t h
    simp only [run]
    rw [e]
    exact ih _ h'

/-- The questions of a run, each with its answer. -/
def transcript (answer : Q → σ → A × σ) : Prog Q A α → σ → List (Q × A)
  | ret _, _ => []
  | ask q k, s => (q, (answer q s).1) :: transcript answer (k (answer q s).1) (answer q s).2

/-- The transcript of a sequence: the second program asks on where the first one ends. -/
lemma transcript_bind {answer : Q → σ → A × σ} {p : Prog Q A α} {f : α → Prog Q A β} {s} :
    (p >>= f).transcript answer s =
      p.transcript answer s ++ (f (p.run answer s).1).transcript answer (p.run answer s).2 := by
  induction p generalizing s with
  | ret a => rfl
  | ask q k ih => exact congrArg _ (ih _)

/-- The result of a run and its transcript, which continues an earlier one, satisfy `P`. -/
def Yields (answer : Q → σ → A × σ) (P : α → List (Q × A) → Prop) (before : List (Q × A))
    (p : Prog Q A α) (s : σ) : Prop :=
  P (p.run answer s).1 (before ++ p.transcript answer s)

/-- A program that has returned has asked what was asked before. -/
lemma yields_ret {answer : Q → σ → A × σ} {P : α → List (Q × A) → Prop} {before a s} :
    Yields answer P before (ret a) s ↔ P a before := by
  rw [Yields, transcript, List.append_nil]
  rfl

/-- A sequence is gone through step by step. -/
lemma yields_bind {answer : Q → σ → A × σ} {P : β → List (Q × A) → Prop} {before}
    {p : Prog Q A α} {f : α → Prog Q A β} {s} :
    Yields answer P before (p >>= f) s ↔
      Yields answer P (before ++ p.transcript answer s) (f (p.run answer s).1)
        (p.run answer s).2 := by
  rw [Yields, Yields, run_bind, transcript_bind, List.append_assoc]

/-- Both branches of a test. -/
lemma Yields.ite {answer : Q → σ → A × σ} {P : α → List (Q × A) → Prop} {before} {c : Prop}
    [Decidable c] {p p' : Prog Q A α} {s} (pos : c → Yields answer P before p s)
    (neg : ¬ c → Yields answer P before p' s) :
    Yields answer P before (if c then p else p') s := by
  split
  next h => exact pos h
  next h => exact neg h

/-- Every question satisfies `P`, whatever the answers are. -/
def Asks (P : Q → Prop) : Prog Q A α → Prop
  | ret _ => True
  | ask q k => P q ∧ ∀ a, Asks P (k a)

/-- A run asks nothing but what the program can ask. -/
lemma Asks.transcript {P : Q → Prop} {p : Prog Q A α} (h : Asks P p) (answer : Q → σ → A × σ)
    (s : σ) : ∀ e ∈ p.transcript answer s, P e.1 := by
  induction p generalizing s with
  | ret a => exact nofun
  | ask q k ih =>
    intro e he
    cases he with
    | head => exact h.1
    | tail _ he => exact ih _ (h.2 _) _ e he

/-- Some question of a run is bad in the state in which it is asked. -/
def hits (bad : Q → σ → Bool) (answer : Q → σ → A × σ) : Prog Q A α → σ → Bool
  | ret _, _ => false
  | ask q k, s => bad q s || hits bad answer (k (answer q s).1) (answer q s).2

/-- A question of a sequence is one of the first program, or of the second one. -/
lemma hits_bind {bad : Q → σ → Bool} {answer : Q → σ → A × σ} {p : Prog Q A α}
    {f : α → Prog Q A β} {s} :
    (p >>= f).hits bad answer s =
      (p.hits bad answer s || (f (p.run answer s).1).hits bad answer (p.run answer s).2) := by
  induction p generalizing s with
  | ret a => rfl
  | ask q k ih =>
    show (bad q s || Prog.hits bad answer (k _ >>= f) _) = _
    rw [ih, ← Bool.or_assoc]
    rfl

end Prog

/-- The answers come in a fixed order, whatever is asked; the state is the questions so far. -/
def inOrder {Q A : Type} (answers : Nat → A) (q : Q) (asked : List Q) : A × List Q :=
  (answers asked.length, asked ++ [q])

/-- An answerer that keeps the questions it is asked. -/
def recorded {Q A σ : Type} (answer : Q → σ → A × σ) (q : Q) (s : σ × List Q) :
    A × σ × List Q :=
  ((answer q s.1).1, (answer q s.1).2, s.2 ++ [q])

end Interact
