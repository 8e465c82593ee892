import Mathlib.Data.List.Induction
import TagEventor.Lib.Machine

/-!
# Flags of a machine

Some inputs set a flag of a machine and others clear it. If every step `Tracks` the flag, as long as
an invariant holds, then at the end of a run it is set exactly if it is `Standing`: an input has set
it, and none has cleared it since (`Tracks.flag_iff`).
-/

namespace Flag
open Machine
variable {σ α : Type} {next : σ → α → σ} {I flag : σ → Prop} {sets clears : σ → α → Prop}

/-- What a step does to the flag while `I` holds. -/
structure Tracks (next : σ → α → σ) (I flag : σ → Prop) (sets clears : σ → α → Prop) : Prop where
  inv : ∀ {s a}, I s → I (next s a)
  set : ∀ {s a}, I s → sets s a → flag (next s a)
  clear : ∀ {s a}, I s → clears s a → ¬ flag (next s a)
  keep : ∀ {s a}, I s → ¬ sets s a → ¬ clears s a → (flag (next s a) ↔ flag s)

/-- An input of the log sets the flag, and no later one clears it. -/
def Standing (next : σ → α → σ) (sets clears : σ → α → Prop) (s : σ) (l : List α) : Prop :=
  ∃ before a after, l = before ++ a :: after ∧ sets (before.foldl next s) a ∧
    Meets next (fun s b => ¬ clears s b) ((before ++ [a]).foldl next s) after

/-- Nothing is standing at first. -/
lemma not_standing_nil {s} : ¬ Standing next sets clears s [] := by
  rintro ⟨before, a, after, e, _⟩
  cases before with
  | nil => cases e
  | cons b before => cases e

/-- The last input sets the flag, or leaves one standing that was set before. -/
lemma standing_concat {s l a} :
    Standing next sets clears s (l ++ [a]) ↔
      sets (l.foldl next s) a ∨
        Standing next sets clears s l ∧ ¬ clears (l.foldl next s) a := by
  constructor
  · rintro ⟨before, b, after, e, set, rest⟩
    induction after using List.reverseRecOn with
    | nil =>
      obtain ⟨rfl, last⟩ := List.append_inj' e rfl
      cases last
      exact .inl set
    | append_singleton after c =>
      rw [← List.cons_append, ← List.append_assoc] at e
      obtain ⟨rfl, input⟩ := List.append_inj' e rfl
      cases input
      obtain ⟨rest, last⟩ := meets_append.1 rest
      refine .inr ⟨⟨before, b, after, rfl, set, rest⟩, ?_⟩
      rw [List.append_cons, List.foldl_append]
      exact last.1
  · rintro (set | ⟨⟨before, b, after, rfl, set, rest⟩, kept⟩)
    · exact ⟨l, a, [], rfl, set, trivial⟩
    · refine ⟨before, b, after ++ [a], by simp, set, meets_append.2 ⟨rest, ?_, trivial⟩⟩
      rw [List.append_cons, List.foldl_append] at kept
      exact kept

/-- The invariant holds after every log. -/
lemma Tracks.foldl (tracks : Tracks next I flag sets clears) {s} {l : List α} (hs : I s) :
    I (l.foldl next s) := by
  induction l generalizing s with
  | nil => exact hs
  | cons a l ih => exact ih (tracks.inv hs)

/-- A flag that is not set at the start is set at the end exactly if it is standing. -/
theorem Tracks.flag_iff (tracks : Tracks next I flag sets clears) {s l} (hs : I s)
    (start : ¬ flag s) : flag (l.foldl next s) ↔ Standing next sets clears s l := by
  induction l using List.reverseRecOn with
  | nil => exact iff_of_false start not_standing_nil
  | append_singleton l a ih =>
    rw [standing_concat, ← ih, List.foldl_append]
    show flag (next (l.foldl next s) a) ↔ _
    have here := tracks.foldl hs (l := l)
    by_cases set : sets (l.foldl next s) a
    · exact iff_of_true (tracks.set here set) (.inl set)
    by_cases clear : clears (l.foldl next s) a
    · exact iff_of_false (tracks.clear here clear) (not_or_intro set fun h => h.2 clear)
    · rw [tracks.keep here set clear]
      exact ⟨fun h => .inr ⟨h, clear⟩, fun h => h.elim (absurd · set) And.left⟩

end Flag
