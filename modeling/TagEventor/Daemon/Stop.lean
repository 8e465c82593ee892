import TagEventor.Daemon.Decimal

/-!
# Whom `stopDaemon` signals

`stopDaemon` reads the lock file into a local buffer and has `sscanf` read a number from there,
whatever the number of bytes it got. Bytes that the buffer held before can be taken for the number,
or for more of its digits (`stops_recorded_iff`).
-/

namespace TagEventor
open Interact

/-- What `getLockOrDie` writes for its pid. -/
def pidText (pid : Nat) : CString := sprintfInt pid ++ ['\n']

/-- A host on which the lock file has these contents and can be opened and read. -/
def stopping (contents : CString) (fd : Nat) (ret : Sys → Int) : Sys → Unit → Ans × Unit
  | .openRdonly, _ => (⟨fd, []⟩, ())
  | .read count, _ => (⟨(contents.take count).length, contents.take count⟩, ())
  | q, _ => (⟨ret q, []⟩, ())

/-- The processes that are signalled. -/
def kills (t : List (Sys × Ans)) : List Int :=
  t.filterMap fun e =>
    match e.1 with
    | .kill pid => some pid
    | _ => none

/-- Only the process is signalled that the contents of the lock file name. -/
structure StopsRecorded (contents : CString) (signalled : List Int) : Prop where
  denoted : ∀ pid ∈ signalled, sscanfInt contents = some pid
  exact : ∀ pid : Nat, 0 < pid → contents = pidText pid → signalled = [(pid : Int)]
  silent : sscanfInt contents = none → signalled = []

/-- What the buffer held before does not begin with a number, if the file is empty, and does not go
on with a digit where the file was written in part. -/
def StaleHarmless (contents pidString : CString) : Prop :=
  if contents = [] then sscanfInt pidString = none
  else contents.getLast? = some '\n' ∨
    ∀ c, (pidString.drop contents.length).head? = some c → c.isDigit = false

section
variable {contents pidString : CString} {fd : Nat} {ret : Sys → Int}

/-- One process is signalled, if a number is found in the buffer. -/
lemma stopDaemon_kills :
    kills ((stopDaemon pidString).run.transcript (stopping contents fd ret) ()) =
      (sscanfInt (contents.take 19 ++ pidString.drop (contents.take 19).length)).toList := by
  have opened : (fd : Int) ≠ -1 := by omega
  have read : ((contents.take 19).length : Int) ≠ -1 := by omega
  unfold stopDaemon
  show kills (_ :: _ :: Prog.transcript _ (OptionT.run (if (fd : Int) = -1 then _ else _)) _) = _
  rw [if_neg opened]
  show kills (_ :: _ :: _ :: Prog.transcript _ (OptionT.run
    (if ((contents.take 19).length : Int) = -1 then _ else _)) _) = _
  rw [if_neg read]
  show kills (_ :: _ :: _ :: _ :: Prog.transcript _ (OptionT.run _) _) = _
  dsimp only [stopping]
  cases sscanfInt (contents.take 19 ++ pidString.drop (contents.take 19).length) with
  | none => rfl
  | some pid => rfl

/-- A process id is printed in digits. -/
lemma pidText_digits {pid : Nat} : Digits (Nat.toDigits 10 pid) :=
  ⟨Nat.toDigits_ne_nil, fun _ hc => Nat.isDigit_of_mem_toDigits (by decide) (by decide) hc⟩

/-- A process id is printed in one digit at least. -/
lemma pidText_ne_nil {pid : Nat} : pidText pid ≠ [] :=
  List.append_ne_nil_of_right_ne_nil _ (List.cons_ne_nil _ _)

/-- A lock file is empty, holds the first digits of a pid, or all that is written for it. -/
lemma contents_cases {pid : Nat} (written : contents <+: pidText pid) :
    contents = [] ∨ (Digits contents ∧ contents <+: Nat.toDigits 10 pid) ∨
      contents = pidText pid := by
  rcases List.prefix_concat_iff.1 written with whole | part
  · exact .inr (.inr whole)
  · cases contents with
    | nil => exact .inl rfl
    | cons c contents =>
      refine .inr (.inl ⟨⟨List.cons_ne_nil c contents, fun d hd => ?_⟩, part⟩)
      exact pidText_digits.2 d (part.subset hd)

/-- All of a lock file is read. -/
lemma take_contents {pid : Nat} (int : pid < 2 ^ 31) (written : contents <+: pidText pid) :
    contents.take 19 = contents := by
  apply List.take_of_length_le
  have digits : (Nat.toDigits 10 pid).length ≤ 10 :=
    (Nat.length_toDigits_le_iff (by decide) (by decide)).2 (Nat.lt_trans int (by decide))
  have length := written.length_le
  have all : (pidText pid).length = (Nat.toDigits 10 pid).length + 1 := List.length_append
  omega

/-- The number in a complete lock file. -/
lemma sscanfInt_pidText {pid : Nat} {rest : CString} :
    sscanfInt (pidText pid ++ rest) = some (pid : Int) := by
  have e : pidText pid ++ rest = Nat.toDigits 10 pid ++ '\n' :: rest := by
    show Nat.toDigits 10 pid ++ ['\n'] ++ rest = _
    rw [List.append_assoc]
    rfl
  have stop : ('\n' :: rest).takeWhile Char.isDigit = [] := rfl
  rw [e, sscanfInt_digits pidText_digits, stop, List.append_nil]
  exact congrArg (fun n : Nat => some (n : Int)) Nat.ofDigitChars_ten_toDigits

/-- What is read besides the first digits of a pid does not change the number exactly if it does not
begin with a digit. -/
lemma sscanfInt_part {pid : Nat} (pos : 0 < pid) (digits : Digits contents)
    (part : contents <+: Nat.toDigits 10 pid) {rest : CString} :
    sscanfInt (contents ++ rest) = some (value contents : Int) ↔
      ∀ c, rest.head? = some c → c.isDigit = false := by
  rw [sscanfInt_digits digits]
  cases rest with
  | nil =>
    rw [List.takeWhile_nil, List.append_nil]
    exact iff_of_true rfl nofun
  | cons c rest =>
    by_cases digit : c.isDigit = true
    · obtain ⟨others, e⟩ := part
      have greater := value_append_lt (value_pos pos digits.1 e)
        (List.cons_ne_nil c (rest.takeWhile Char.isDigit))
      rw [List.takeWhile_cons_of_pos digit]
      refine iff_of_false (fun same => ?_) fun none => ?_
      · exact Nat.ne_of_gt greater (Int.ofNat_inj.1 (Option.some.inj same))
      · exact Bool.false_ne_true ((none c rfl).symm.trans digit)
    · rw [List.takeWhile_cons_of_neg digit, List.append_nil]
      refine iff_of_true rfl fun d e => ?_
      cases e
      exact Bool.not_eq_true _ ▸ digit

/-- The number that the file denotes by itself. -/
lemma sscanfInt_whole {pid : Nat} : sscanfInt (pidText pid) = some (pid : Int) := by
  have h := @sscanfInt_pidText pid []
  rwa [List.append_nil] at h

/-- An empty file: the number is that of the buffer. -/
lemma stops_empty : StopsRecorded [] (sscanfInt pidString).toList ↔
    StaleHarmless [] pidString := by
  unfold StaleHarmless
  rw [if_pos rfl]
  constructor
  · intro h
    exact Option.toList_eq_nil_iff.1 (h.silent rfl)
  · intro none
    rw [none]
    refine ⟨nofun, fun pid _ e => ?_, fun _ => rfl⟩
    exact absurd e.symm pidText_ne_nil

/-- A file with the first digits: they are a number, which the buffer may continue. -/
lemma stops_part {pid : Nat} (pos : 0 < pid) (digits : Digits contents)
    (part : contents <+: Nat.toDigits 10 pid) :
    StopsRecorded contents (sscanfInt (contents ++ pidString.drop contents.length)).toList ↔
      StaleHarmless contents pidString := by
  have alone : sscanfInt contents = some (value contents : Int) := by
    have h := (@sscanfInt_part contents _ pos digits part []).2 nofun
    rwa [List.append_nil] at h
  have unfinished : contents.getLast? ≠ some '\n' := by
    intro last
    have newline := digits.2 _ (List.mem_of_getLast? last)
    cases newline
  have partly : ∀ pid : Nat, contents ≠ pidText pid := by
    rintro pid rfl
    exact unfinished List.getLast?_concat
  unfold StaleHarmless
  rw [if_neg digits.1, or_iff_right unfinished, ← sscanfInt_part pos digits part]
  constructor
  · intro h
    rw [sscanfInt_digits digits] at h ⊢
    rw [← h.denoted _ (List.mem_singleton_self _), alone]
  · intro e
    rw [e]
    refine ⟨fun pid mem => ?_, fun pid _ e => absurd e (partly pid), fun e => ?_⟩
    · cases mem with
      | head => exact alone
      | tail _ mem => cases mem
    · cases alone.symm.trans e

/-- A complete file: the newline ends the number. -/
lemma stops_whole {pid : Nat} {rest : CString} :
    StopsRecorded (pidText pid) (sscanfInt (pidText pid ++ rest)).toList := by
  rw [sscanfInt_pidText]
  refine ⟨fun pid' mem => ?_, fun pid' _ e => ?_, fun none => ?_⟩
  · cases mem with
    | head => exact sscanfInt_whole
    | tail _ mem => cases mem
  · have same := congrArg sscanfInt e
    rw [sscanfInt_whole, sscanfInt_whole] at same
    rw [same]
    rfl
  · cases sscanfInt_whole.symm.trans none

/-- Whatever the lock file holds on the way to the text for a pid, only the recorded process is
signalled exactly if nothing in the buffer continues what was read. -/
theorem stops_recorded_iff {pid : Nat} (pos : 0 < pid) (int : pid < 2 ^ 31)
    (written : contents <+: pidText pid) :
    StopsRecorded contents
        (kills ((stopDaemon pidString).run.transcript (stopping contents fd ret) ())) ↔
      StaleHarmless contents pidString := by
  rw [stopDaemon_kills, take_contents int written]
  rcases contents_cases written with rfl | ⟨digits, part⟩ | rfl
  · exact stops_empty
  · exact stops_part pos digits part
  · have harmless : StaleHarmless (pidText pid) pidString := by
      unfold StaleHarmless
      rw [if_neg pidText_ne_nil]
      exact .inl List.getLast?_concat
    exact iff_of_true stops_whole harmless

end

/-- What an earlier call has left in the memory of the buffer. -/
def stalePid : CString := "4242\n\x00".toList

/-- The daemon has created the lock file and not written it yet: a stranger is signalled. -/
theorem stranger_stopped_stalePid :
    kills ((stopDaemon stalePid).run.transcript (stopping [] 3 fun _ => 0) ()) = [4242] ∧
      ¬ StopsRecorded [] (kills
        ((stopDaemon stalePid).run.transcript (stopping [] 3 fun _ => 0) ())) := by
  have signalled :
      kills ((stopDaemon stalePid).run.transcript (stopping [] 3 fun _ => 0) ()) = [4242] := by
    decide +kernel
  refine ⟨signalled, fun h => ?_⟩
  have none := h.silent rfl
  rw [signalled] at none
  cases none

/-- The lock file of process 4711. -/
theorem stops_recorded_iff_written :
    StopsRecorded (pidText 4711) (kills
        ((stopDaemon stalePid).run.transcript (stopping (pidText 4711) 3 fun _ => 0) ())) ↔
      StaleHarmless (pidText 4711) stalePid :=
  @stops_recorded_iff _ stalePid 3 _ 4711 (by decide) (by decide) (List.prefix_refl _)

end TagEventor
