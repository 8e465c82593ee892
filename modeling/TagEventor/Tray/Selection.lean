import TagEventor.Poll.Wanted
import TagEventor.Tray.Settings

/-!
# The readers chosen in a session

Which readers are asked for is said on the command line, and then by the toggles of the settings
dialog each time `Apply` is pressed (`chosenAfter`). In every session every poll keeps to the choice
that was made last: it uses no reader that is not chosen, asks the drivers of all that are chosen
and connected, and holds the tags of these only (`polls_keep_to_choice`).
-/

namespace TagEventor
open Session

/-- What the toggles ask for; there is no toggle for the numbers from `MAX_NUM_READERS` on, and for
them the command line holds. -/
def asksFor (first : tReaderManager) (toggles : Nat → Toggle) (num : Nat) : Bool :=
  (toggles 0).active ||
    if num < MAX_NUM_READERS then (toggles (num + 1)).active
    else first.readersSettingBitmapNumberTest num ≠ 0#32

/-- The readers that are asked for after some inputs: each `Apply` makes a new choice. -/
def chosenAfter (d : Desktop) (first : tReaderManager) :
    Session → (Nat → Bool) → List Input → Nat → Bool
  | _, chosen, [] => chosen
  | s, chosen, input :: inputs =>
    chosenAfter d first (s.step d input)
      (if s.Delivers input ∧ input = .settings .apply then asksFor first s.settings.toggles
        else chosen)
      inputs

/-- The readers that are asked for in a session. -/
def chosen (d : Desktop) (c : CommandLine) (t : RulesTable) (inputs : List Input) : Nat → Bool :=
  chosenAfter d c.readerManager (start c t) c.readerManager.wanted inputs

/-- The test for a number tests its bit. -/
lemma numberTest_bit {m : tReaderManager} {num} :
    decide (m.readersSettingBitmapNumberTest num ≠ 0#32) = m.readerSetting.getLsbD (num + 1) := by
  by_cases small : num + 1 < 32
  · exact bitTest_active small
  · have none : (1#32 <<< (num + 1)) = 0#32 := BitVec.shiftLeft_eq_zero (Nat.le_of_not_lt small)
    unfold tReaderManager.readersSettingBitmapNumberTest
    rw [none, BitVec.getLsbD_of_ge _ _ (Nat.le_of_not_lt small)]
    simp

/-- A reader is asked for by the bit for AUTO or by its own. -/
lemma wanted_bits {m : tReaderManager} {num} :
    m.wanted num = (m.readerSetting.getLsbD 0 || m.readerSetting.getLsbD (num + 1)) := by
  have auto : m.automatic = m.readerSetting.getLsbD 0 := @bitTest_active m 0 (by decide)
  unfold tReaderManager.wanted
  rw [auto, numberTest_bit]

/-- The setting in force is the choice that was made last; no choice changes the bits that have no
toggle. -/
structure Chooses (first : tReaderManager) (chosen : Nat → Bool) (s : Session) : Prop where
  wanted : ∀ num, s.world.readerManager.wanted num = chosen num
  others : ∀ i, MAX_NUM_READERS < i →
    s.world.readerManager.readerSetting.getLsbD i = first.readerSetting.getLsbD i

section
variable {d : Desktop} {first : tReaderManager} {choice : Nat → Bool} {s : Session}

/-- The choice depends on the setting only. -/
lemma Chooses.congr {s' : Session} (h : Chooses first choice s)
    (same : s'.world.readerManager.readerSetting = s.world.readerManager.readerSetting) :
    Chooses first choice s' where
  wanted num := by
    rw [wanted_congr same]
    exact h.wanted num
  others i hi := by
    rw [same]
    exact h.others i hi

/-- `Apply` sets the bits of all toggles. -/
lemma Chooses.applied (h : Chooses first choice s) :
    Chooses first (asksFor first s.settings.toggles) s.applySettings := by
  have bit (i : Nat) : s.applySettings.world.readerManager.readerSetting.getLsbD i =
      if i < MAX_NUM_READERS + 1 then (s.settings.toggles i).active
      else s.world.readerManager.readerSetting.getLsbD i := applyToggles_bit
  refine ⟨fun num => ?_, fun i hi => ?_⟩
  · rw [wanted_bits, bit, bit, if_pos (Nat.succ_pos _)]
    unfold asksFor
    by_cases small : num < MAX_NUM_READERS
    · rw [if_pos (Nat.succ_lt_succ small), if_pos small]
    · rw [if_neg fun e => small (Nat.lt_of_succ_lt_succ e), if_neg small, numberTest_bit,
        h.others (num + 1) (Nat.lt_succ_of_le (Nat.le_of_not_lt small))]
  · rw [bit, if_neg (Nat.not_lt_of_le hi)]
    exact h.others i hi

/-- Nothing but `Apply` changes the setting. -/
lemma handle_setting {input} (other : input ≠ .settings .apply) :
    (s.handle d input).world.readerManager.readerSetting =
      s.world.readerManager.readerSetting := by
  cases input with
  | timeout id =>
    show (s.poll d).world.readerManager.readerSetting = _
    rw [poll_polls.world, tagListCheck_readerSetting]
  | settings signal =>
    cases signal with
    | apply => exact absurd rfl other
    | activate =>
      show s.settingsDialogActivate.world.readerManager.readerSetting = _
      unfold settingsDialogActivate
      split
      · rfl
      · rfl
    | toggled i => rfl
    | pollDelayMoved value => rfl
    | verbosityMoved value => rfl
    | close => rfl
    | cancel => rfl
    | delete => rfl
  | editor signal =>
    exact congrArg (fun w => w.readerManager.readerSetting) (@handleEditor_edits d s signal).world
  | quit =>
    obtain ⟨ended, e⟩ := @iconQuit_eq s
    show s.iconQuit.world.readerManager.readerSetting = _
    rw [e]
  | system signal => exact (@handleSignal_interrupts d s signal).world.readerSetting

/-- The choice is followed through every session. -/
lemma Chooses.run {inputs} (h : Chooses first choice s) :
    Chooses first (chosenAfter d first s choice inputs) (s.run d inputs) := by
  induction inputs generalizing s choice with
  | nil => exact h
  | cons input inputs ih =>
    refine ih ?_
    by_cases delivers : s.Delivers input
    swap
    · rw [if_neg fun e => delivers e.1, Session.step_not delivers]
      exact h
    rw [Session.step_eq delivers]
    by_cases apply : input = .settings .apply
    · rw [if_pos ⟨delivers, apply⟩]
      subst apply
      exact h.applied
    · rw [if_neg fun e => apply e.2]
      exact h.congr (handle_setting apply)

end

/-- In every session every call that a poll makes for a reader is made for one that is chosen, by
the command line or by the toggles at the last `Apply`. A poll that gets past the connection phase
asks exactly the drivers of the readers that are connected and chosen, and after a poll that is
connected every tag that is held was returned in it by the driver of a chosen reader. -/
theorem polls_keep_to_choice {d : Desktop} {c : CommandLine} {t : RulesTable}
    {inputs : List Input} :
    let s := (start c t).run d inputs
    let calls := pollCalls d.env true s.world
    let phase := connectIfAutomatic d.env (s.world.shifted d.env true)
    (∀ call ∈ calls, ∀ i, call.slot = some i → chosen d c t inputs i = true) ∧
      (connected d.env true s.world = true → phase.1 = SCARD_S_SUCCESS →
        (driverAnswers calls).map Prod.fst =
          (List.range phase.2.readerManager.nbReaders).filter fun i =>
            (phase.2.reader i).hCard ≠ none ∧ (phase.2.reader i).pDriver ≠ none ∧
              chosen d c t inputs i = true) ∧
      (connected d.env true s.world = true →
        ∀ uid ∈ (s.poll d).world.readerManager.tagList.uids,
          ∃ i tags, chosen d c t inputs i = true ∧
            Call.getTagList i SCARD_S_SUCCESS tags ∈ calls ∧ uid ∈ uidsOf tags) := by
  intro s calls phase
  have chooses : Chooses c.readerManager (chosen d c t inputs) s :=
    Chooses.run ⟨fun num => rfl, fun i _ => rfl⟩
  have used : ∀ call ∈ calls, ∀ i, call.slot = some i → chosen d c t inputs i = true :=
    fun call mem i slot => (chooses.wanted i).symm.trans (pollCalls_wanted mem slot)
  refine ⟨used, fun connected success => ?_, fun connected uid mem => ?_⟩
  · rw [pollAnswers_readers connected success]
    refine List.filter_congr fun i _ => ?_
    rw [chooses.wanted i]
  · rw [poll_polls.world] at mem
    obtain ⟨i, tags, call, uid_mem⟩ := pollAnswers_uids connected mem
    exact ⟨i, tags, used _ call i rfl, call, uid_mem⟩

/-- AUTO is switched off, and no number is chosen instead. -/
example : chosen desk plainLine .init [.timeout 1, .settings .activate, .settings (.toggled 0),
    .settings .apply] 0 = false := by decide +kernel

end TagEventor
