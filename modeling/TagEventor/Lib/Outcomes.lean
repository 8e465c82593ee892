import TagEventor.Lib.Protocol

/-!
# Outcomes of runs

`Returns answer post p s`: the run of a stoppable program against an answerer returns with `post`,
if it does not stop; `Gives answer post p s` says that it does return, and `Calmly bad answer post p
s` that it does if none of its questions is a bad one. The rules of all three go through the program
one question at a time (`ask_bind`), or one part at a time (`bind`).
-/

namespace Interact.Stoppable
variable {Q A α β σ : Type} {answer : Q → σ → A × σ} {post : α → σ → Prop} {post' : β → σ → Prop}
  {s : σ}

/-- If the program returns, then with `post`. -/
def Returns (answer : Q → σ → A × σ) (post : α → σ → Prop) (p : Stoppable Q A α) (s : σ) : Prop :=
  ∀ a, (p.run.run answer s).1 = some a → post a (p.run.run answer s).2

/-- A program that returns at once. -/
@[simp] lemma returns_pure {a : α} : Returns answer post (pure a) s ↔ post a s := by
  constructor
  · intro h
    exact h a rfl
  · intro h b e
    cases e
    exact h

/-- A program that stops need not satisfy anything. -/
@[simp] lemma returns_failure : Returns answer post failure s := nofun

/-- One question, what is known of its answer, and the rest of the program. -/
lemma Returns.ask_bind {q : Q} {f : A → Stoppable Q A β} (R : A → σ → Prop)
    (answered : R (answer q s).1 (answer q s).2)
    (rest : ∀ a s, R a s → Returns answer post' (f a) s) :
    Returns answer post' (ask q >>= f) s := rest _ _ answered

/-- The run of a sequence: the second program goes on where the first one returns. -/
lemma run_bind {p : Stoppable Q A α} {f : α → Stoppable Q A β} :
    (p >>= f).run.run answer s =
      match p.run.run answer s with
      | (some a, s) => (f a).run.run answer s
      | (none, s) => (none, s) := by
  refine Prog.run_bind.trans ?_
  match p.run.run answer s with
  | (some a, s) => rfl
  | (none, s) => rfl

/-- The second program goes on where the run of the first one ends. -/
lemma Returns.bind_run {p : Stoppable Q A α} {f : α → Stoppable Q A β}
    (hf : ∀ a s', p.run.run answer s = (some a, s') → Returns answer post' (f a) s') :
    Returns answer post' (p >>= f) s := by
  intro b e
  rw [run_bind] at e ⊢
  match h : p.run.run answer s with
  | (some a, s') =>
    rw [h] at e
    exact hf a s' h b e
  | (none, s') =>
    rw [h] at e
    cases e

/-- The second program goes on where the first one returns. -/
lemma Returns.bind {p : Stoppable Q A α} {f : α → Stoppable Q A β}
    (hp : Returns answer post p s) (hf : ∀ a s, post a s → Returns answer post' (f a) s) :
    Returns answer post' (p >>= f) s := by
  refine Returns.bind_run fun a s' ran => ?_
  have first := hp a (by rw [ran])
  rw [ran] at first
  exact hf a s' first

/-- A weaker postcondition. -/
lemma Returns.mono {p : Stoppable Q A α} {post₂ : α → σ → Prop} (h : Returns answer post p s)
    (imp : ∀ a s, post a s → post₂ a s) : Returns answer post₂ p s :=
  fun a e => imp a _ (h a e)

/-- Two things that hold if the program returns. -/
lemma Returns.and {p : Stoppable Q A α} {post₂ : α → σ → Prop} (h : Returns answer post p s)
    (h' : Returns answer post₂ p s) : Returns answer (fun a s => post a s ∧ post₂ a s) p s :=
  fun a e => ⟨h a e, h' a e⟩

/-- Both branches of a test. -/
lemma Returns.ite {c : Prop} [Decidable c] {p p' : Stoppable Q A α}
    (pos : c → Returns answer post p s) (neg : ¬ c → Returns answer post p' s) :
    Returns answer post (if c then p else p') s := by
  split
  next h => exact pos h
  next h => exact neg h

/-- The program returns with `post`. -/
def Gives (answer : Q → σ → A × σ) (post : α → σ → Prop) (p : Stoppable Q A α) (s : σ) : Prop :=
  ∃ a, (p.run.run answer s).1 = some a ∧ post a (p.run.run answer s).2

/-- A program that returns at once. -/
lemma gives_pure {a : α} (h : post a s) : Gives answer post (pure a) s := ⟨a, rfl, h⟩

/-- One question, what is known of its answer, and the rest of the program. -/
lemma Gives.ask_bind {q : Q} {f : A → Stoppable Q A β} (R : A → σ → Prop)
    (answered : R (answer q s).1 (answer q s).2)
    (rest : ∀ a s, R a s → Gives answer post' (f a) s) :
    Gives answer post' (ask q >>= f) s := rest _ _ answered

/-- The second program goes on with what the first one gives. -/
lemma Gives.bind {p : Stoppable Q A α} {f : α → Stoppable Q A β} (hp : Gives answer post p s)
    (hf : ∀ a s, post a s → Gives answer post' (f a) s) : Gives answer post' (p >>= f) s := by
  obtain ⟨a, e, h⟩ := hp
  unfold Gives
  rw [run_bind]
  match first : p.run.run answer s with
  | (none, s') =>
    rw [first] at e
    cases e
  | (some a', s') =>
    rw [first] at e h
    cases e
    exact hf a s' h

/-- What holds if the program returns, holds of what it returns. -/
lemma Gives.and {post₂ : α → σ → Prop} {p : Stoppable Q A α} (h : Gives answer post p s)
    (h' : Returns answer post₂ p s) : Gives answer (fun a s => post a s ∧ post₂ a s) p s := by
  obtain ⟨a, e, ha⟩ := h
  exact ⟨a, e, ha, h' a e⟩

/-- What a program returns with, it returns with if it returns. -/
lemma Gives.returns {p : Stoppable Q A α} (h : Gives answer post p s) :
    Returns answer post p s := by
  intro a e
  obtain ⟨b, e', h⟩ := h
  cases e.symm.trans e'
  exact h

/-- If no question is a bad one, the program returns with `post`. -/
def Calmly (bad : Q → σ → Bool) (answer : Q → σ → A × σ) (post : α → σ → Prop)
    (p : Stoppable Q A α) (s : σ) : Prop :=
  p.run.hits bad answer s = false → Gives answer post p s

variable {bad : Q → σ → Bool}

/-- A bad question of the first part is one of the sequence. -/
lemma hits_of_bind {p : Stoppable Q A α} {f : α → Stoppable Q A β}
    (h : p.run.hits bad answer s = true) : (p >>= f).run.hits bad answer s = true :=
  Prog.hits_bind.trans (Bool.or_eq_true_iff.2 (.inl h))

/-- What holds if the program returns, holds of what it returns. -/
lemma Calmly.and {post₂ : α → σ → Prop} {p : Stoppable Q A α} (h : Calmly bad answer post p s)
    (h' : Returns answer post₂ p s) : Calmly bad answer (fun a s => post a s ∧ post₂ a s) p s :=
  fun calm => (h calm).and h'

/-- If a program returns, then as after no bad question, or there was one. -/
lemma Calmly.returns {p : Stoppable Q A α} (h : Calmly bad answer post p s) :
    Returns answer (fun a s' => post a s' ∨ p.run.hits bad answer s = true) p s := by
  cases calm : p.run.hits bad answer s with
  | false => exact (h calm).returns.mono fun _ _ => .inl
  | true => exact fun _ _ => .inr rfl

/-- A program that returns at once. -/
lemma calmly_pure {a : α} (h : post a s) : Calmly bad answer post (pure a) s :=
  fun _ => gives_pure h

/-- One question, what is known of its answer if it is not bad, and the rest of the program. -/
lemma Calmly.ask_bind {q : Q} {f : A → Stoppable Q A β} (R : A → σ → Prop)
    (answered : bad q s = false → R (answer q s).1 (answer q s).2)
    (rest : ∀ a s, R a s → Calmly bad answer post' (f a) s) :
    Calmly bad answer post' (ask q >>= f) s := by
  intro calm
  obtain ⟨first, calm⟩ := Bool.or_eq_false_iff.1 calm
  exact rest _ _ (answered first) calm

/-- The second program goes on where the first one returns. -/
lemma Calmly.bind {p : Stoppable Q A α} {f : α → Stoppable Q A β}
    (hp : Calmly bad answer post p s)
    (hf : ∀ a s, post a s → Calmly bad answer post' (f a) s) :
    Calmly bad answer post' (p >>= f) s := by
  intro calm
  obtain ⟨first, calm⟩ := Bool.or_eq_false_iff.1 (Prog.hits_bind.symm.trans calm)
  obtain ⟨a, e, h⟩ := hp first
  match ran : p.run.run answer s with
  | (none, s') =>
    rw [ran] at e
    cases e
  | (some a', s') =>
    rw [ran] at e h
    rw [show Prog.run answer p s = (some a', s') from ran] at calm
    cases e
    have after := hf a s' h calm
    unfold Gives
    rw [run_bind, ran]
    exact after

end Interact.Stoppable
