import Mathlib.Tactic.Basic

/-!
# Loops with early return

`scan body is s` is the loop `for (i in is) body`, where `body` may return from the enclosing
function (`some r`) or fall through to the next round (`none`). Its rules: the loop over a
concatenation (`scan_append`), a preorder that every round respects (`scan_path`), an invariant
(`scan_inv`), an assertion that counts the rounds (`scan_range`) and the lockstep simulation of two
loops (`scan_sim`). `foldl_path`, `foldl_inv` and `foldl_range` are the corresponding rules for
loops that never return early, which are plain `List.foldl`s.
-/

namespace Loop
variable {ι ρ σ τ : Type}

/-- `for (i in is) body`, where a round that yields `some r` returns `r` from the function. -/
def scan (body : ι → σ → Option ρ × σ) : List ι → σ → Option ρ × σ
  | [], s => (none, s)
  | i :: is, s =>
    match body i s with
    | (some r, s) => (some r, s)
    | (none, s) => scan body is s

/-- A round that returns ends the loop. -/
lemma scan_cons_some {body : ι → σ → Option ρ × σ} {i is s r t} (h : body i s = (some r, t)) :
    scan body (i :: is) s = (some r, t) := by
  simp only [scan, h]

/-- After a round that does not return the loop goes on. -/
lemma scan_cons_none {body : ι → σ → Option ρ × σ} {i is s t} (h : body i s = (none, t)) :
    scan body (i :: is) s = scan body is t := by
  simp only [scan, h]

/-- The loop over a concatenation is the second loop after the first, unless that returned. -/
lemma scan_append {body : ι → σ → Option ρ × σ} {is js s} :
    scan body (is ++ js) s =
      match scan body is s with
      | (some r, t) => (some r, t)
      | (none, t) => scan body js t := by
  induction is generalizing s with
  | nil => rfl
  | cons i is ih =>
    rw [List.cons_append]
    match h : body i s with
    | (some r, t) => rw [scan_cons_some h, scan_cons_some h]
    | (none, t) => rw [scan_cons_none h, scan_cons_none h, ih]

/-- A preorder respected by every round is respected by the loop. -/
lemma scan_path {R : σ → σ → Prop} {body : ι → σ → Option ρ × σ}
    (refl : ∀ s, R s s) (trans : ∀ {s t u}, R s t → R t u → R s u)
    {is : List ι} (step : ∀ i ∈ is, ∀ s, R s (body i s).2) (s : σ) : R s (scan body is s).2 := by
  induction is generalizing s with
  | nil => exact refl s
  | cons i is ih =>
    have hi := step i List.mem_cons_self s
    match h : body i s with
    | (some r, t) =>
      rw [scan_cons_some h]
      rw [h] at hi
      exact hi
    | (none, t) =>
      rw [scan_cons_none h]
      rw [h] at hi
      exact trans hi (ih (fun j hj => step j (List.mem_cons_of_mem _ hj)) t)

/-- What every round preserves, the loop preserves. -/
lemma scan_inv {I : σ → Prop} {body : ι → σ → Option ρ × σ} {is : List ι} {s : σ}
    (step : ∀ i ∈ is, ∀ s, I s → I (body i s).2) (h : I s) : I (scan body is s).2 :=
  scan_path (R := fun s t => I s → I t) (fun _ h => h) (fun h h' hs => h' (h hs)) step s h

/-- Two loops whose rounds return alike in related states return alike and stay related. -/
lemma scan_sim {R : σ → τ → Prop} {body : ι → σ → Option ρ × σ} {body' : ι → τ → Option ρ × τ}
    {is : List ι}
    (step : ∀ i ∈ is, ∀ s t, R s t → (body i s).1 = (body' i t).1 ∧ R (body i s).2 (body' i t).2)
    {s : σ} {t : τ} (h : R s t) :
    (scan body is s).1 = (scan body' is t).1 ∧ R (scan body is s).2 (scan body' is t).2 := by
  induction is generalizing s t with
  | nil => exact ⟨rfl, h⟩
  | cons i is ih =>
    obtain ⟨e, h'⟩ := step i List.mem_cons_self s t h
    have ih := @ih fun j hj => step j (List.mem_cons_of_mem _ hj)
    match h1 : body i s, h2 : body' i t with
    | (some r, s1), (some r', t1) =>
      rw [h1, h2] at e h'
      rw [scan_cons_some h1, scan_cons_some h2]
      exact ⟨e, h'⟩
    | (none, s1), (none, t1) =>
      rw [h1, h2] at h'
      rw [scan_cons_none h1, scan_cons_none h2]
      exact ih h'
    | (some r, s1), (none, t1) => rw [h1, h2] at e; cases e
    | (none, s1), (some r', t1) => rw [h1, h2] at e; cases e

/-- A loop over the first numbers returns in some round, which an assertion about the number of
rounds made before holds at, or makes all rounds, and the assertion holds then. -/
lemma scan_range {I : Nat → σ → Prop} {body : Nat → σ → Option ρ × σ} {n : Nat} {s : σ} (h : I 0 s)
    (step : ∀ i < n, ∀ s t, I i s → body i s = (none, t) → I (i + 1) t) :
    (∃ t, scan body (List.range n) s = (none, t) ∧ I n t) ∨
      ∃ i < n, ∃ u r t, I i u ∧ body i u = (some r, t) ∧
        scan body (List.range n) s = (some r, t) := by
  induction n with
  | zero => exact .inl ⟨s, rfl, h⟩
  | succ n ih =>
    rw [List.range_succ, scan_append]
    rcases ih fun i hi => step i (Nat.lt_succ_of_lt hi) with
      ⟨t, e, ht⟩ | ⟨i, hi, u, r, t, hu, he, e⟩
    · rw [e]
      match hb : body n t with
      | (some r, t') =>
        exact .inr ⟨n, Nat.lt_succ_self n, t, r, t', ht, hb, scan_cons_some hb⟩
      | (none, t') =>
        refine .inl ⟨t', ?_, step n (Nat.lt_succ_self n) t t' ht hb⟩
        exact scan_cons_none hb
    · rw [e]
      exact .inr ⟨i, Nat.lt_succ_of_lt hi, u, r, t, hu, he, rfl⟩

/-- A preorder that every round respects is respected by the fold. -/
lemma foldl_path {R : σ → σ → Prop} {body : σ → ι → σ}
    (refl : ∀ s, R s s) (trans : ∀ {s t u}, R s t → R t u → R s u)
    {is : List ι} (step : ∀ i ∈ is, ∀ s, R s (body s i)) (s : σ) : R s (is.foldl body s) := by
  induction is generalizing s with
  | nil => exact refl s
  | cons i is ih =>
    exact trans (step i List.mem_cons_self s)
      (ih (fun j hj => step j (List.mem_cons_of_mem _ hj)) _)

/-- What every round preserves, the fold preserves. -/
lemma foldl_inv {I : σ → Prop} {body : σ → ι → σ} {is : List ι} {s : σ}
    (step : ∀ i ∈ is, ∀ s, I s → I (body s i)) (h : I s) : I (is.foldl body s) :=
  foldl_path (R := fun s t => I s → I t) (fun _ h => h) (fun h h' hs => h' (h hs)) step s h

/-- An assertion about the number of rounds that every round advances holds after all of them. -/
lemma foldl_range {I : Nat → σ → Prop} {body : σ → Nat → σ} {n : Nat} {s : σ} (h : I 0 s)
    (step : ∀ i < n, ∀ s, I i s → I (i + 1) (body s i)) : I n ((List.range n).foldl body s) := by
  induction n with
  | zero => exact h
  | succ n ih =>
    rw [List.range_succ, List.foldl_append]
    exact step n (Nat.lt_succ_self n) _ (ih fun i hi => step i (Nat.lt_succ_of_lt hi))

end Loop
