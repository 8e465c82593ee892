import Mathlib.Data.List.Perm.Subperm
import TagEventor.Lib.Machine

/-!
# Ledgers of acquired and released resources

A ledger is the list of the acquisitions and releases of some kind of resource (a heap block, a
handle), oldest first. `outstanding` is what has been acquired and not released since, and a ledger
is `Sound` when nothing is released that is not outstanding: no release of something that was never
acquired, none that is made twice.

Where a resource is numbered by the length of the ledger when it is acquired, as blocks of a heap
are, `Owns` says who holds what: the outstanding resources are those of the owners, each once. It is
kept up by its three rules (`Owns.acquire`, `Owns.release`, `Owns.perm`).
-/

namespace Ledger
variable {ι : Type} [DecidableEq ι]

/-- One acquisition or release. -/
inductive Entry (ι : Type) where
  | acquire (a : ι)
  | release (a : ι)
deriving DecidableEq

/-- The effect of an entry on the resources that are held. -/
def tally (held : List ι) : Entry ι → List ι
  | .acquire a => a :: held
  | .release a => held.erase a

/-- The resources that were acquired and not released since. -/
def outstanding (l : List (Entry ι)) : List ι := l.foldl tally []

/-- A release is fair when its resource is held. -/
def Fair (held : List ι) : Entry ι → Prop
  | .acquire _ => True
  | .release a => a ∈ held

instance (held : List ι) (e : Entry ι) : Decidable (Fair held e) := by
  cases e <;> unfold Fair <;> infer_instance

/-- Every release is of an outstanding resource. -/
def Sound (l : List (Entry ι)) : Prop := Machine.Meets tally Fair [] l

instance (l : List (Entry ι)) : Decidable (Sound l) :=
  inferInstanceAs (Decidable (Machine.Meets _ _ _ l))

/-- At first nothing is outstanding. -/
@[simp] lemma outstanding_nil : outstanding ([] : List (Entry ι)) = [] := rfl

/-- What is acquired last is outstanding. -/
@[simp] lemma outstanding_acquire {l : List (Entry ι)} {a} :
    outstanding (l ++ [.acquire a]) = a :: outstanding l := by
  simp [outstanding, tally]

/-- What is released is outstanding once less. -/
@[simp] lemma outstanding_release {l : List (Entry ι)} {a} :
    outstanding (l ++ [.release a]) = (outstanding l).erase a := by
  simp [outstanding, tally]

/-- The empty ledger is sound. -/
@[simp] lemma sound_nil : Sound ([] : List (Entry ι)) := trivial

/-- It is always sound to acquire something. -/
@[simp] lemma sound_acquire {l : List (Entry ι)} {a} : Sound (l ++ [.acquire a]) ↔ Sound l := by
  simp [Sound, Machine.meets_append, Fair]

/-- Only what is outstanding may be released. -/
@[simp] lemma sound_release {l : List (Entry ι)} {a} :
    Sound (l ++ [.release a]) ↔ Sound l ∧ a ∈ outstanding l := by
  simp [Sound, Machine.meets_append, Fair, outstanding]

/-- Of several resources the first is held, and the others are when it has been released. -/
lemma cons_subperm_iff {a : ι} {l held : List ι} :
    (a :: l).Subperm held ↔ a ∈ held ∧ l.Subperm (held.erase a) := by
  constructor
  · intro h
    have rest := h.erase a
    rw [List.erase_cons_head] at rest
    exact ⟨h.subset List.mem_cons_self, rest⟩
  · rintro ⟨mem, rest⟩
    exact ((List.subperm_cons a).2 rest).trans (List.perm_cons_erase mem).symm.subperm

/-- The owners hold all that is outstanding, each resource once. -/
structure Owns (l : List (Entry Nat)) (owners : List Nat) : Prop where
  sound : Sound l
  perm : (outstanding l).Perm owners
  nodup : owners.Nodup
  numbered : ∀ a ∈ owners, a < l.length

namespace Owns
variable {l : List (Entry Nat)} {owners owners' : List Nat}

/-- At first there is no owner. -/
lemma nil : Owns [] [] := ⟨trivial, .nil, .nil, nofun⟩

/-- What is outstanding has an owner. -/
lemma mem_iff (h : Owns l owners) {a} : a ∈ outstanding l ↔ a ∈ owners := h.perm.mem_iff

/-- The order of the owners does not matter. -/
lemma rearrange (h : Owns l owners) (p : owners.Perm owners') : Owns l owners' where
  sound := h.sound
  perm := h.perm.trans p
  nodup := p.nodup_iff.1 h.nodup
  numbered := fun a ha => h.numbered a (p.mem_iff.2 ha)

/-- What is acquired is new. -/
lemma acquire (h : Owns l owners) : Owns (l ++ [.acquire l.length]) (l.length :: owners) where
  sound := sound_acquire.2 h.sound
  perm := by
    rw [outstanding_acquire]
    exact h.perm.cons l.length
  nodup := List.nodup_cons.2 ⟨fun ha => Nat.lt_irrefl _ (h.numbered _ ha), h.nodup⟩
  numbered := fun a ha => by
    rw [List.length_append, List.length_singleton]
    rcases List.mem_cons.1 ha with rfl | ha
    · exact Nat.lt_succ_self _
    · exact Nat.lt_succ_of_lt (h.numbered a ha)

/-- An owner releases what it holds. -/
lemma release {a} (h : Owns l (a :: owners)) : Owns (l ++ [.release a]) owners where
  sound := sound_release.2 ⟨h.sound, h.mem_iff.2 List.mem_cons_self⟩
  perm := by
    rw [outstanding_release]
    have p := h.perm.erase a
    rwa [List.erase_cons_head] at p
  nodup := (List.nodup_cons.1 h.nodup).2
  numbered := fun b hb => by
    rw [List.length_append, List.length_singleton]
    exact Nat.lt_succ_of_lt (h.numbered b (List.mem_cons_of_mem a hb))

/-- Owners are told apart by what they hold. -/
lemma disjoint_left (h : Owns l (owners ++ owners')) (same : ∀ a, a ∈ outstanding l → a ∈ owners') :
    owners = [] := by
  refine List.eq_nil_iff_forall_not_mem.2 fun a ha => ?_
  have disjoint := (List.nodup_append.1 h.nodup).2.2
  exact disjoint a ha a (same a (h.mem_iff.2 (List.mem_append_left _ ha))) rfl

end Owns
end Ledger
