import TagEventor.Lib.Interact

/-!
# Protocols of interactive programs

A `Protocol` watches a program through a mode: it says which questions may be asked in a mode, and
in which mode the answer leaves the program. `Prog.Obeys` says that a program keeps to a protocol
whatever the answers are. A program that may stop early is a `Stoppable` one; the rules at the end
read a protocol off its sequencing, one question at a time.
-/

namespace Interact
variable {Q A α β μ : Type}

/-- What may be asked in which mode. -/
structure Protocol (μ Q A : Type) where
  allowed : μ → Q → Prop
  next : μ → Q → A → μ

/-- The question is always allowed and leaves the mode as it is. -/
def Protocol.Silent (P : Protocol μ Q A) (q : Q) : Prop :=
  ∀ m, P.allowed m q ∧ ∀ a, P.next m q a = m

namespace Prog
variable {P : Protocol μ Q A}

/-- From mode `m` the program asks only what is allowed, and ends with `post`. -/
def Obeys (P : Protocol μ Q A) (post : μ → α → Prop) : Prog Q A α → μ → Prop
  | ret a, m => post m a
  | ask q k, m => P.allowed m q ∧ ∀ a, Obeys P post (k a) (P.next m q a)

/-- A sequence keeps to the protocol if the second program goes on where the first one ends. -/
lemma Obeys.bind {post : μ → α → Prop} {post' : μ → β → Prop} {p : Prog Q A α}
    {f : α → Prog Q A β} {m} (hp : p.Obeys P post m)
    (hf : ∀ m a, post m a → (f a).Obeys P post' m) : (p >>= f).Obeys P post' m := by
  induction p generalizing m with
  | ret a =>
    exact hf m a hp
  | ask q k ih =>
    exact ⟨hp.1, fun a => ih a (hp.2 a)⟩

end Prog

/-- A program that may stop before it returns. -/
abbrev Stoppable (Q A : Type) := OptionT (Prog Q A)

namespace Stoppable
variable {P : Protocol μ Q A} {post : μ → α → Prop} {post' : μ → β → Prop}

/-- Ask a question. -/
def ask (q : Q) : Stoppable Q A A := OptionT.lift (.ask q .ret)

/-- The program keeps to the protocol, and if it returns, then with `post`. -/
def Obeys (P : Protocol μ Q A) (post : μ → α → Prop) (p : Stoppable Q A α) (m : μ) : Prop :=
  p.run.Obeys P (fun m r => ∀ a, r = some a → post m a) m

/-- A program that returns at once has to be in the stage it promises. -/
@[simp] lemma obeys_pure {a : α} {m} : Obeys P post (pure a) m ↔ post m a := by
  constructor
  · intro h
    exact h a rfl
  · intro h b e
    cases e
    exact h

/-- A program that has stopped breaks no rule. -/
@[simp] lemma obeys_failure {m} : Obeys P post failure m := nofun

/-- One question, and the rest of the program. -/
lemma Obeys.ask_bind {q : Q} {f : A → Stoppable Q A β} {m} (allowed : P.allowed m q)
    (rest : ∀ a, Obeys P post' (f a) (P.next m q a)) : Obeys P post' (ask q >>= f) m :=
  ⟨allowed, rest⟩

/-- A question that the protocol has nothing to say about. -/
lemma Obeys.silent_bind {q : Q} {f : A → Stoppable Q A β} {m} (silent : P.Silent q)
    (rest : ∀ a, Obeys P post' (f a) m) : Obeys P post' (ask q >>= f) m := by
  constructor
  · exact (silent m).1
  · intro a
    rw [(silent m).2 a]
    exact rest a

/-- A sequence keeps to the protocol if the second program goes on where the first one returns. -/
lemma Obeys.bind {p : Stoppable Q A α} {f : α → Stoppable Q A β} {m} (hp : Obeys P post p m)
    (hf : ∀ m a, post m a → Obeys P post' (f a) m) : Obeys P post' (p >>= f) m := by
  refine Prog.Obeys.bind hp fun m r hr => ?_
  cases r with
  | none =>
    exact nofun
  | some a =>
    exact hf m a (hr a rfl)

end Stoppable
end Interact
