import TagEventor.Lib.Flag
import TagEventor.Lib.Machine
import TagEventor.Poll.Status
import TagEventor.Tray.Frames

/-!
# The status that a session shows

The icon and the tool tip are set by the callback of a poll, which is called for a failure and for
a change of the UIDs only. So the icon shows a connection exactly if a change was found after the
last poll that failed (`icon_iff`). The text of the tool tip is written into a buffer of its own,
and fits exactly if the tags are few enough in every poll that finds a change (`toolTips_fit_iff`).
-/

namespace TagEventor
open Flag Machine Session

section
variable {d : Desktop} {s : Session}

/-- What is shown after some callbacks. -/
lemma foldl_status {callbacks : List Callback} :
    (callbacks.foldl systemTraySetStatus s).shownStatus =
      (callbacks.foldl (fun _ c => c.connected) s.tray.connectedIcon,
        s.tray.toolTips ++ callbacks.map fun c => toolTipText c.generalMessage c.tagsMessage) := by
  induction callbacks generalizing s with
  | nil =>
    show _ = (_, s.tray.toolTips ++ [])
    rw [List.append_nil]
    rfl
  | cons c callbacks ih =>
    rw [List.foldl_cons, ih, List.map_cons, List.append_cons]
    rfl

/-- What a poll tells the callback. -/
def report (d : Desktop) (w : World) : List Callback :=
  if reaches d.env true w = false then [failure (problem d.env w)]
  else if finds d.env w then [change d.env w] else []

/-- What is shown after a poll. -/
lemma poll_shownStatus : (s.poll d).shownStatus =
    ((report d s.world).foldl (fun _ c => c.connected) s.tray.connectedIcon,
      s.tray.toolTips ++
        (report d s.world).map fun c => toolTipText c.generalMessage c.tagsMessage) := by
  have callbacks := @tagListCheck_callbacks d.env s.world
  unfold Session.poll
  generalize tagListCheck d.env true s.world = w at callbacks ⊢
  dsimp only
  have dispatch := @dispatchEvents_reacts d s w
  rw [callbacks, List.drop_left, foldl_status]
  injection dispatch.shownStatus with icon toolTips
  rw [icon, toolTips]
  rfl

/-- Only polls change what is shown. -/
lemma handle_shownStatus {input} :
    (s.handle d input).shownStatus = s.shownStatus ∨
      (∃ id, input = .timeout id) ∧ s.handle d input = s.poll d := by
  cases input with
  | timeout id => exact .inr ⟨⟨id, rfl⟩, rfl⟩
  | settings signal => exact .inl handleSettings_sets.shownStatus
  | editor signal =>
    left
    show (s.handleEditor d signal).shownStatus = _
    unfold Session.shownStatus
    rw [handleEditor_edits.tray]
  | quit =>
    obtain ⟨ended, e⟩ := @iconQuit_eq s
    left
    show s.iconQuit.shownStatus = _
    rw [e]
    rfl
  | system signal =>
    obtain ⟨world, ended, l, about, e⟩ := (@handleSignal_interrupts d s signal).same
    left
    show (s.handleSignal d signal).shownStatus = _
    rw [e]
    rfl

/-- The main loop polls, and the poll finds other UIDs than the one before. -/
def FindsChange (d : Desktop) (s : Session) (input : Input) : Prop :=
  s.Delivers input ∧ (∃ id, input = .timeout id) ∧ finds d.env s.world

/-- The main loop polls, and the poll fails. -/
def FailsPoll (d : Desktop) (s : Session) (input : Input) : Prop :=
  s.Delivers input ∧ (∃ id, input = .timeout id) ∧ reaches d.env true s.world = false

/-- A poll that finds a change reports it. -/
lemma report_finds {w : World} (h : finds d.env w) : report d w = [change d.env w] := by
  unfold report
  rw [if_neg (by rw [h.1]; exact Bool.noConfusion), if_pos h]

/-- A poll that fails reports its failure. -/
lemma report_fails {w : World} (h : reaches d.env true w = false) :
    report d w = [failure (problem d.env w)] := if_pos h

/-- A poll that finds no change reports nothing. -/
lemma report_nothing {w : World} (reach : reaches d.env true w ≠ false) (h : ¬ finds d.env w) :
    report d w = [] := by
  unfold report
  rw [if_neg reach, if_neg h]

/-- The icon after a poll. -/
lemma poll_icon : (s.poll d).tray.connectedIcon =
    (report d s.world).foldl (fun _ c => c.connected) s.tray.connectedIcon :=
  congrArg Prod.fst poll_shownStatus

/-- The icon is a flag that a change sets and a failure clears. -/
lemma icon_tracks : Flag.Tracks (step d) (fun _ => True) (fun s => s.tray.connectedIcon = true)
    (FindsChange d) (FailsPoll d) where
  inv _ := trivial
  set {s input} _ set := by
    obtain ⟨delivers, ⟨id, rfl⟩, found⟩ := set
    rw [Session.step_eq delivers]
    show (s.poll d).tray.connectedIcon = true
    rw [poll_icon, report_finds found]
    rfl
  clear {s input} _ clear := by
    obtain ⟨delivers, ⟨id, rfl⟩, failed⟩ := clear
    rw [Session.step_eq delivers]
    show ¬ (s.poll d).tray.connectedIcon = true
    rw [poll_icon, report_fails failed]
    exact Bool.false_ne_true
  keep {s input} _ set clear := by
    by_cases delivers : s.Delivers input
    swap
    · rw [Session.step_not delivers]
    rw [Session.step_eq delivers]
    rcases @handle_shownStatus d s input with same | ⟨timeout, e⟩
    · rw [show (s.handle d input).tray.connectedIcon = _ from congrArg Prod.fst same]
      exact .rfl
    · have reach : reaches d.env true s.world ≠ false := fun failed =>
        clear ⟨delivers, timeout, failed⟩
      have found : ¬ finds d.env s.world := fun found => set ⟨delivers, timeout, found⟩
      rw [e, poll_icon, report_nothing reach found]
      exact .rfl

/-- In every session the icon shows a connection exactly if a poll has found other UIDs than the one
before it, and no poll has failed since. So after a failure the icon stays as it is while the polls
that succeed again find the UIDs that are held. -/
theorem icon_iff {c : CommandLine} {t : RulesTable} {inputs : List Input} :
    ((start c t).run d inputs).tray.connectedIcon = true ↔
      Standing (step d) (FindsChange d) (FailsPoll d) (start c t) inputs :=
  icon_tracks.flag_iff trivial Bool.false_ne_true

/-- The number of decimal digits. -/
def digits (n : Nat) : Nat := (Nat.toDigits 10 n).length

/-- What a poll reports fits into the tool tip. -/
structure ReportFits (env : Env) (w : World) : Prop where
  failure : reaches env true w = false → connected env true w = true →
    digits (pollTagLists env true w).2.readerManager.nbReaders < 129
  change : finds env w →
    let m := (tagListCheck env true w).readerManager
    digits m.nbReaders + digits m.tagList.numTags +
      (m.tagList.uids.map fun uid => uid.length + 11).sum < 160

/-- Every report of a poll fits. -/
def PollFits (d : Desktop) (s : Session) (input : Input) : Prop :=
  s.Delivers input → (∃ id, input = .timeout id) → ReportFits d.env s.world

/-- The text of the tool tip fits into its buffer. -/
def ToolTipFits (text : CString) : Prop := text.length < SYSTEM_TRAY_TOOL_TIP_TEXT_MAX

/-- The length of a tool tip. -/
lemma toolTip_length {general tags : CString} :
    (toolTipText general tags).length = 65 + general.length + tags.length := by
  have first : (PROGRAM_NAME ++ ":\n".toList ++ TOOL_TIP_TEXT).length = 63 := by decide
  unfold toolTipText
  rw [List.append_assoc, List.cons_append, List.length_append, first, List.length_cons,
    List.length_append, List.length_cons]
  omega

/-- The length of the message for a change. -/
lemma connectedReader_length {nbReaders numTags : Nat} :
    (TAGEVENTOR_STRING_CONNECTED_READER nbReaders numTags).length =
      35 + digits nbReaders + digits numTags := by
  have texts : ("Connected to pcscd, ".toList).length = 20 ∧ (" readers, ".toList).length = 10 ∧
      (" tags".toList).length = 5 := by decide
  unfold TAGEVENTOR_STRING_CONNECTED_READER
  rw [List.length_append, List.length_append, List.length_append, List.length_append, texts.1,
    texts.2.1, texts.2.2]
  unfold digits
  omega

/-- The length of the message for readers that could not be read. -/
lemma readerNot_length {nbReaders : Nat} :
    (TAGEVENTOR_STRING_PCSCD_OK_READER_NOT nbReaders).length = 66 + digits nbReaders := by
  have texts : ("Connected to pcscd, ".toList).length = 20 ∧
      (" readers found.\nCould not connect to reader(s)".toList).length = 46 := by decide
  unfold TAGEVENTOR_STRING_PCSCD_OK_READER_NOT
  rw [List.length_append, List.length_append, texts.1, texts.2]
  unfold digits
  omega

/-- The length of the lines for the tags. -/
lemma tagLines_length {uids : List CString} :
    (uids.flatMap TAGEVENTOR_STRING_TAG_LINE).length =
      (uids.map fun uid => uid.length + 11).sum := by
  have texts : ("Tag UID: ".toList).length = 9 ∧ ("  ".toList).length = 2 := by decide
  rw [List.length_flatMap]
  congr 2
  funext uid
  unfold TAGEVENTOR_STRING_TAG_LINE
  rw [List.length_append, List.length_append, texts.1, texts.2]
  omega

/-- The reports of a poll fit exactly under the bounds. -/
lemma report_fits {w : World} : ReportFits d.env w ↔
    ∀ c ∈ report d w, ToolTipFits (toolTipText c.generalMessage c.tagsMessage) := by
  unfold ToolTipFits SYSTEM_TRAY_TOOL_TIP_TEXT_MAX
  by_cases failed : reaches d.env true w = false
  · rw [report_fails failed, List.forall_mem_singleton, toolTip_length]
    have none : ¬ finds d.env w := fun found => by
      rw [found.1] at failed
      cases failed
    show _ ↔ 65 + (problem d.env w).length + 0 < 260
    unfold problem
    by_cases connected : connected d.env true w = true
    · rw [if_pos connected, readerNot_length]
      constructor
      · intro fits
        have := fits.failure failed connected
        omega
      · intro fits
        exact ⟨fun _ _ => by omega, fun found => absurd found none⟩
    · rw [if_neg connected]
      have short : TAGEVENTOR_STRING_PCSCD_PROBLEM.length < 100 := by decide
      exact iff_of_true ⟨fun _ e => absurd e connected, fun found => absurd found none⟩ (by omega)
  · by_cases found : finds d.env w
    · rw [report_finds found, List.forall_mem_singleton, toolTip_length]
      unfold change changedCallback
      dsimp only
      rw [connectedReader_length, tagLines_length]
      constructor
      · intro fits
        have := fits.change found
        dsimp only at this
        omega
      · intro fits
        exact ⟨fun e => absurd e failed, fun _ => by dsimp only; omega⟩
    · rw [report_nothing failed found]
      exact iff_of_true ⟨fun e => absurd e failed, fun e => absurd e found⟩ nofun

/-- The tool tips after a poll. -/
lemma poll_toolTips : (s.poll d).tray.toolTips = s.tray.toolTips ++
    (report d s.world).map fun c => toolTipText c.generalMessage c.tagsMessage :=
  congrArg Prod.snd poll_shownStatus

/-- The texts after an input fit exactly if those before do and what it reports does. -/
lemma step_toolTips {input} :
    (∀ text ∈ (s.step d input).tray.toolTips, ToolTipFits text) ↔
      (∀ text ∈ s.tray.toolTips, ToolTipFits text) ∧ PollFits d s input := by
  by_cases delivers : s.Delivers input
  swap
  · rw [Session.step_not delivers]
    exact (and_iff_left fun e => absurd e delivers).symm
  rw [Session.step_eq delivers]
  cases input with
  | timeout id =>
    show (∀ text ∈ (s.poll d).tray.toolTips, _) ↔ _
    rw [poll_toolTips, List.forall_mem_append, List.forall_mem_map, ← report_fits]
    exact and_congr_right fun _ => ⟨fun fits _ _ => fits, fun fits => fits delivers ⟨id, rfl⟩⟩
  | settings signal =>
    have same : (s.handleSettings signal).tray.toolTips = _ :=
      congrArg Prod.snd handleSettings_sets.shownStatus
    show (∀ text ∈ (s.handleSettings signal).tray.toolTips, _) ↔ _
    rw [same]
    exact (and_iff_left fun _ ⟨_, e⟩ => Input.noConfusion e).symm
  | editor signal =>
    show (∀ text ∈ (s.handleEditor d signal).tray.toolTips, _) ↔ _
    rw [handleEditor_edits.tray]
    exact (and_iff_left fun _ ⟨_, e⟩ => Input.noConfusion e).symm
  | quit =>
    obtain ⟨ended, e⟩ := @iconQuit_eq s
    show (∀ text ∈ s.iconQuit.tray.toolTips, _) ↔ _
    rw [e]
    exact (and_iff_left fun _ ⟨_, e⟩ => Input.noConfusion e).symm
  | system signal =>
    obtain ⟨world, ended, l, about, e⟩ := (@handleSignal_interrupts d s signal).same
    show (∀ text ∈ (s.handleSignal d signal).tray.toolTips, _) ↔ _
    rw [e]
    exact (and_iff_left fun _ ⟨_, e⟩ => Input.noConfusion e).symm

/-- Every text of a session fits into the buffer of the tool tip exactly if each poll that finds a
change finds few enough tags: with one-digit numbers of readers and of tags, the UIDs and eleven
characters for each may take up to 157 characters. -/
theorem toolTips_fit_iff {c : CommandLine} {t : RulesTable} {inputs : List Input} :
    (∀ text ∈ ((start c t).run d inputs).tray.toolTips, ToolTipFits text) ↔
      Meets (step d) (PollFits d) (start c t) inputs := by
  induction inputs using List.reverseRecOn with
  | nil =>
    refine iff_of_true (fun text mem => ?_) trivial
    have mem : text ∈ [TOOL_TIP_TEXT] := mem
    rw [List.mem_singleton.1 mem]
    unfold ToolTipFits
    decide
  | append_singleton inputs input ih =>
    rw [meets_append, ← ih, Session.run, List.foldl_append]
    show (∀ text ∈ (step d _ input).tray.toolTips, _) ↔ _
    rw [step_toolTips]
    exact and_congr_right fun _ => (and_iff_left trivial).symm

end

end TagEventor
