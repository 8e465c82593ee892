import Mathlib.Data.List.Basic
import TagEventor.Lib.Machine

/-!
# Presence of a key in a changing collection

A collection that may hold a key several times is compared with its successor, and the key is
announced once for each of its occurrences when it appears (`true`) or disappears (`false`). `c n`
is the number of occurrences after `n` steps. The announcements alternate exactly when the key never
appears or disappears several times at once (`alternates_announcements_iff`).
-/

namespace Presence

/-- What is announced when the number of occurrences changes from `a` to `b`. -/
def announce (a b : Nat) : List Bool :=
  if a = 0 then .replicate b true else if b = 0 then .replicate a false else []

/-- The announcements alternate and begin with an appearance; the state is what comes next. -/
def Alternates (l : List Bool) : Prop := Machine.Meets (fun _ x => !x) (fun b x => x = b) true l

instance (l : List Bool) : Decidable (Alternates l) :=
  inferInstanceAs (Decidable (Machine.Meets _ _ _ l))

/-- The announcements of the first `n` steps. -/
def announcements (c : Nat → Nat) (n : Nat) : List Bool :=
  (List.range n).flatMap fun m => announce (c m) (c (m + 1))

/-- The key appears or disappears several times at once. -/
def Jumps (a b : Nat) : Prop := a = 0 ∧ 2 ≤ b ∨ 2 ≤ a ∧ b = 0

instance (a b : Nat) : Decidable (Jumps a b) := inferInstanceAs (Decidable (_ ∨ _))

/-- One more step announces at most one change. -/
@[simp] lemma announcements_succ {c n} :
    announcements c (n + 1) = announcements c n ++ announce (c n) (c (n + 1)) := by
  simp [announcements, List.range_succ]

/-- Equal elements leave the last one, negated. -/
lemma foldl_replicate {b x : Bool} {n} :
    (List.replicate n x).foldl (fun _ y => !y) b = if n = 0 then b else !x := by
  induction n generalizing b with
  | zero => rfl
  | succ n ih => rw [List.replicate_succ, List.foldl_cons, ih]; simp

/-- The same announcement is expected once only. -/
lemma meets_replicate {x : Bool} {n} :
    Machine.Meets (fun _ y => !y) (fun b y => y = b) x (.replicate n x) ↔ n ≤ 1 := by
  match n with
  | 0 => simp
  | 1 => simp [List.replicate]
  | n + 2 => simp [List.replicate_succ]

/-- A step ends where the key is expected to appear iff it does not occur then. -/
lemma foldl_announce {a b} :
    (announce a b).foldl (fun _ y => !y) (decide (a = 0)) = decide (b = 0) := by
  unfold announce
  split_ifs with ha hb <;> simp [foldl_replicate, *]

/-- The announcements of a step fit iff it is not a jump. -/
lemma meets_announce {a b} :
    Machine.Meets (fun _ y => !y) (fun b y => y = b) (decide (a = 0)) (announce a b) ↔
      ¬ Jumps a b := by
  unfold announce Jumps
  split_ifs with ha hb
  · rw [decide_eq_true ha, meets_replicate]; omega
  · rw [decide_eq_false ha, meets_replicate]; omega
  · simp [ha, hb]

/-- The announcements tell whether something is there. -/
lemma foldl_announcements {c : Nat → Nat} (h0 : c 0 = 0) {n} :
    (announcements c n).foldl (fun _ y => !y) true = decide (c n = 0) := by
  induction n with
  | zero => simp [announcements, h0]
  | succ n ih => rw [announcements_succ, List.foldl_append, ih, foldl_announce]

/-- The announcements alternate iff the key never jumps. -/
theorem alternates_announcements_iff {c : Nat → Nat} (h0 : c 0 = 0) {n} :
    Alternates (announcements c n) ↔ ∀ m < n, ¬ Jumps (c m) (c (m + 1)) := by
  induction n with
  | zero => simp [announcements, Alternates]
  | succ n ih =>
    rw [Alternates, announcements_succ, Machine.meets_append, foldl_announcements h0,
      meets_announce, ← Alternates, ih]
    constructor
    · rintro ⟨h, hn⟩ m hm
      rcases Nat.lt_succ_iff_lt_or_eq.1 hm with hm | rfl
      · exact h m hm
      · exact hn
    · exact fun h => ⟨fun m hm => h m (Nat.lt_succ_of_lt hm), h n (Nat.lt_succ_self n)⟩

end Presence
