import Mathlib.Data.List.Perm.Basic
import TagEventor.Daemon.Decimal
import TagEventor.Reader.Manager

/-!
# The command line

`parseCommandLine` of `tagEventor.c`, on the options that `getopt` delivers. What `strcmp` returns
for different strings is left open except for its sign, so it is a parameter; the code compares it
with `strlen( "AUTO" )`. Therefore the word `AUTO` is read as a number, and what is read as a number
need not be one. The options select what was asked for exactly if no argument is misread that way
(`selects_asked_iff`).
-/

namespace TagEventor

/-- No reader is asked for. -/
def READER_BIT_NONE : BitVec 32 := 0#32
/-- What is asked for without an option. -/
def READER_BIT_DEFAULT : BitVec 32 := READER_BIT_AUTO

/-- The shortest poll delay. -/
def POLL_DELAY_MILLI_SECONDS_MIN : Int := 500
/-- The poll delay without an option. -/
def POLL_DELAY_MILLI_SECONDS_DEFAULT : Int := 1000
/-- The longest poll delay. -/
def POLL_DELAY_MILLI_SECONDS_MAX : Int := 5000

/-- The lowest verbosity level. -/
def VERBOSITY_MIN : Int := 0
/-- The verbosity level without an option. -/
def VERBOSITY_DEFAULT : Int := 0
/-- The highest verbosity level. -/
def VERBOSITY_MAX : Int := 3

/-- The version of the program. -/
def VERSION_STRING : CString := "0.1.0".toList

/-- Which reader numbers there are. -/
def TAGEVENTOR_STRING_COMMAND_LINE_READER_NUM_ERROR_1 (max : Nat) : CString :=
  "Reader number must be AUTO or a valid number between 0 and ".toList ++ sprintfInt max ++ ['\n']

/-- An argument is not used. -/
def TAGEVENTOR_STRING_COMMAND_LINE_READER_NUM_ERROR_2 (arg : CString) : CString :=
  "Reader number argument '".toList ++ arg ++ "' ignored\n".toList

/-- The options of the program, with the numbers as they are in the source. -/
def TAGEVENTOR_STRING_USAGE (argv0 : CString) (min default max : Int) (version : CString) :
    CString :=
  "Usage: ".toList ++ argv0 ++
    " <options>\n\t-n <reader number> : default = AUTO, min = 0, max = 4".toList ++
    "\n\t-v <verbosity level> : default = 0 (silent), max = 3 ".toList ++
    "\n\t-d start | stop (daemon options)".toList ++
    "\n\t-p <msecs> : tag polling delay, min = ".toList ++ sprintfInt min ++
    ", default = ".toList ++ sprintfInt default ++ ", max = ".toList ++ sprintfInt max ++
    "\n\t-h : print this message\nVersion Number: ".toList ++ version ++ ['\n']

/-- The argument of `-n` for the readers that are found. -/
def AUTO : CString := "AUTO".toList

namespace tReaderManager

/-- The bits that are set. -/
def readersSettingBitmapGet (m : tReaderManager) : BitVec 32 := m.readerSetting

/-- All bits are replaced. -/
def readersSettingBitmapSet (m : tReaderManager) (bitmap : BitVec 32) : tReaderManager :=
  { m with readerSetting := bitmap }

/-- More bits are set. -/
def readersSettingBitmapBitSet (m : tReaderManager) (bitmap : BitVec 32) : tReaderManager :=
  { m with readerSetting := m.readerSetting ||| bitmap }

/-- `readersSettingBitmapNumberSet`; bit 0 is reserved for AUTO. -/
def readersSettingBitmapNumberSet (m : tReaderManager) (number : Nat) : tReaderManager :=
  { m with readerSetting := m.readerSetting ||| 1#32 <<< (number + 1) }

end tReaderManager

/-- The range of a `long`. -/
def LONG_MIN : Int := -2 ^ 63
/-- The greatest `long`, where it has 64 bits. -/
def LONG_MAX : Int := 2 ^ 63 - 1

/-- `strtol` to the base 10; a text that begins with no number is zero. -/
def strtol (text : CString) : Int := max LONG_MIN (min LONG_MAX ((sscanfInt text).getD 0))

/-- `atoi`, which is `(int) strtol`. -/
def atoi (text : CString) : Int := (strtol text).bmod (2 ^ 32)

/-- What `getopt` delivers: an option with its argument, or `?`. -/
inductive CommandOption where
  | n (optarg : CString)
  | v (optarg : CString)
  | d (optarg : CString)
  | p (optarg : CString)
  | h
  | other
deriving DecidableEq

/-- The variables that `parseCommandLine` sets, and what it has printed. -/
structure CommandLine where
  parseError : Bool
  readerManager : tReaderManager
  appVerbosityLevel : Int
  appPollDelayms : Int
  runOptions : tRunOptions
  stderr : List CString

namespace CommandLine

/-- The default values. -/
def default (readerManager : tReaderManager) : CommandLine where
  parseError := false
  readerManager := readerManager
  appVerbosityLevel := VERBOSITY_DEFAULT
  appPollDelayms := POLL_DELAY_MILLI_SECONDS_DEFAULT
  runOptions := .FOREGROUND
  stderr := []

/-- Some texts are printed to `stderr`. -/
def fprintf (s : CommandLine) (texts : List CString) : CommandLine :=
  { s with stderr := s.stderr ++ texts }

/-- The poll delay is set, or the closest one that is allowed. -/
def appPollDelaySet (s : CommandLine) (newPollDelay : Int) : CommandLine :=
  let newPollDelay :=
    if newPollDelay > POLL_DELAY_MILLI_SECONDS_MAX then POLL_DELAY_MILLI_SECONDS_MAX
    else newPollDelay
  let newPollDelay :=
    if newPollDelay < POLL_DELAY_MILLI_SECONDS_MIN then POLL_DELAY_MILLI_SECONDS_MIN
    else newPollDelay
  { s with appPollDelayms := newPollDelay }

/-- The verbosity level is set, or the closest one that is allowed. -/
def appVerbosityLevelSet (s : CommandLine) (newLevel : Int) : CommandLine :=
  let newLevel := if newLevel > VERBOSITY_MAX then VERBOSITY_MAX else newLevel
  let newLevel := if newLevel < VERBOSITY_MIN then VERBOSITY_MIN else newLevel
  { s with appVerbosityLevel := newLevel }

end CommandLine

/-- A call of `exit`: its status, and all that was printed. -/
structure Exited where
  status : Int
  stderr : List CString
deriving DecidableEq

section
variable (strcmp : CString → CString → Int) (argv0 : CString)

/-- The text for a wrong command line. -/
def usage : CString :=
  TAGEVENTOR_STRING_USAGE argv0 POLL_DELAY_MILLI_SECONDS_MIN POLL_DELAY_MILLI_SECONDS_DEFAULT
    POLL_DELAY_MILLI_SECONDS_MAX VERSION_STRING

/-- The `switch` on an option. -/
def CommandLine.option (s : CommandLine) : CommandOption → Except Exited CommandLine
  | .n optarg =>
    if strcmp optarg AUTO = strlen AUTO then
      .ok { s with readerManager := s.readerManager.readersSettingBitmapBitSet READER_BIT_AUTO }
    else
      let number := atoi optarg
      if number < 0 ∨ number ≥ MAX_NUM_READERS then
        .ok (s.fprintf [TAGEVENTOR_STRING_COMMAND_LINE_READER_NUM_ERROR_1 MAX_NUM_READERS,
          TAGEVENTOR_STRING_COMMAND_LINE_READER_NUM_ERROR_2 optarg])
      else
        .ok { s with
          readerManager := s.readerManager.readersSettingBitmapNumberSet number.toNat }
  | .v optarg =>
    let newVerbosity := atoi optarg
    let s := s.appVerbosityLevelSet newVerbosity
    if s.appVerbosityLevel ≠ newVerbosity then
      .ok (s.fprintf ["Verbosity level must be greater or equal to 0\n".toList,
        "Verbosity level has been forced to ".toList ++ sprintfInt s.appVerbosityLevel ++ ['\n']])
    else .ok s
  | .d optarg =>
    if strcmp optarg "start".toList = 0 then .ok { s with runOptions := .START_DAEMON }
    else if strcmp optarg "stop".toList = 0 then .ok { s with runOptions := .STOP_DAEMON }
    else
      .ok ({ s with parseError := true }.fprintf
        ["Invalid parameter for '-d' daemon option\n".toList])
  | .p optarg =>
    let newDelay := atoi optarg
    let s := s.appPollDelaySet newDelay
    if s.appPollDelayms ≠ newDelay then
      .ok (s.fprintf ["Poll delay must be greater or equal to 0\n".toList,
        "Poll delay has been forced to ".toList ++ sprintfInt s.appPollDelayms ++ ['\n']])
    else .ok s
  | .h => .error ⟨0, s.stderr ++ [usage argv0]⟩
  | .other => .ok { s with parseError := true }

/-- The loop over the options; it ends at the first error. -/
def CommandLine.options : List CommandOption → CommandLine → Except Exited CommandLine
  | [], s => .ok s
  | o :: opts, s => if s.parseError then .ok s else (s.option strcmp argv0 o).bind (options opts)

/-- All options, and the setting for none. -/
def parseCommandLine (opts : List CommandOption) (readerManager : tReaderManager) :
    Except Exited CommandLine := do
  let s ← CommandLine.options strcmp argv0 opts (.default readerManager)
  if s.parseError then .error ⟨EXIT_FAILURE, s.stderr ++ [usage argv0]⟩
  else if s.readerManager.readersSettingBitmapGet = READER_BIT_NONE then
    .ok { s with readerManager := s.readerManager.readersSettingBitmapSet READER_BIT_DEFAULT }
  else .ok s

end

/-- The documented behaviour of `strcmp`. -/
structure Strcmp (strcmp : CString → CString → Int) : Prop where
  eq_zero : ∀ {s t}, strcmp s t = 0 ↔ s = t
  neg : ∀ {s t}, strcmp s t < 0 ↔ s < t

namespace CommandOption

/-- The arguments of all options `-n`. -/
def nArgs (opts : List CommandOption) : List CString :=
  opts.filterMap fun
    | n optarg => some optarg
    | _ => none

/-- The arguments of all options `-v`. -/
def vArgs (opts : List CommandOption) : List CString :=
  opts.filterMap fun
    | v optarg => some optarg
    | _ => none

/-- The arguments of all options `-d`. -/
def dArgs (opts : List CommandOption) : List CString :=
  opts.filterMap fun
    | d optarg => some optarg
    | _ => none

/-- The arguments of all options `-p`. -/
def pArgs (opts : List CommandOption) : List CString :=
  opts.filterMap fun
    | p optarg => some optarg
    | _ => none

end CommandOption

open CommandOption

/-- The argument is the decimal number of a reader. -/
def IsReader (arg : CString) (k : Nat) : Prop := k < MAX_NUM_READERS ∧ Digits arg ∧ value arg = k

/-- The argument of an `-n` is a proper one. -/
def Valid (arg : CString) : Prop := arg = AUTO ∨ ∃ k, IsReader arg k

/-- The value in a range that is closest to a number. -/
def clamp (low high n : Int) : Int := max low (min high n)

/-- What a value of the last option of a kind makes of the default. -/
def lastOr {α : Type} (default : α) (f : CString → α) (args : List CString) : α :=
  (args.getLast?.map f).getD default

/-- The settings without what was printed. -/
def CommandLine.settings (s : CommandLine) :
    Bool × tReaderManager × Int × Int × tRunOptions :=
  (s.parseError, s.readerManager, s.appVerbosityLevel, s.appPollDelayms, s.runOptions)

section
variable (strcmp : CString → CString → Int) (argv0 : CString)

/-- The settings after some of the options. -/
def settingsAfter (opts : List CommandOption) (m : tReaderManager) : Except Exited
    (Bool × tReaderManager × Int × Int × tRunOptions) :=
  (CommandLine.options strcmp argv0 opts (.default m)).map CommandLine.settings

/-- The settings are what the options ask for. -/
structure SelectsAsked (opts : List CommandOption) (m : tReaderManager) (s : CommandLine) :
    Prop where
  auto : s.readerManager.readerSetting.getLsbD 0 = true ↔
    AUTO ∈ nArgs opts ∨ ∀ arg ∈ nArgs opts, ¬ Valid arg
  numbers : ∀ k < MAX_NUM_READERS, s.readerManager.readerSetting.getLsbD (k + 1) = true ↔
    ∃ arg ∈ nArgs opts, IsReader arg k
  others : ∀ i > MAX_NUM_READERS, s.readerManager.readerSetting.getLsbD i = false
  /-- an argument of `-n` that is not valid changes nothing -/
  ignored : ∀ before arg after, opts = before ++ .n arg :: after → ¬ Valid arg →
    settingsAfter strcmp argv0 (before ++ [.n arg]) m = settingsAfter strcmp argv0 before m
  verbosity : s.appVerbosityLevel =
    lastOr VERBOSITY_DEFAULT (fun arg => clamp VERBOSITY_MIN VERBOSITY_MAX (atoi arg)) (vArgs opts)
  delay : s.appPollDelayms = lastOr POLL_DELAY_MILLI_SECONDS_DEFAULT
    (fun arg => clamp POLL_DELAY_MILLI_SECONDS_MIN POLL_DELAY_MILLI_SECONDS_MAX (atoi arg))
    (pArgs opts)
  mode : s.runOptions = lastOr .FOREGROUND
    (fun arg => if arg = "start".toList then .START_DAEMON else .STOP_DAEMON) (dArgs opts)
  /-- the order of the `-n` does not matter -/
  order : ∀ opts' s', (nArgs opts').Perm (nArgs opts) → vArgs opts' = vArgs opts →
    dArgs opts' = dArgs opts → pArgs opts' = pArgs opts →
    parseCommandLine strcmp argv0 opts' m = .ok s' → s'.settings = s.settings

/-- No argument of `-n` is `AUTO`, or is taken for it, and one that is read as the number of a
reader is that number, or comes after an argument that is. -/
def PlainArgs (args : List CString) : Prop :=
  ∀ before arg after, args = before ++ arg :: after →
    arg ≠ AUTO ∧ strcmp arg AUTO ≠ 4 ∧
      ∀ k < MAX_NUM_READERS, atoi arg = k → ∃ arg' ∈ before ++ [arg], IsReader arg' k

end

/-- The bits that an argument of `-n` sets. -/
def reading (strcmp : CString → CString → Int) (arg : CString) : BitVec 32 :=
  if strcmp arg AUTO = 4 then READER_BIT_AUTO
  else if atoi arg < 0 ∨ atoi arg ≥ MAX_NUM_READERS then 0#32
  else 1#32 <<< ((atoi arg).toNat + 1)

section
variable {strcmp : CString → CString → Int} {argv0 : CString} {m : tReaderManager}

/-- An argument of `-n` adds its bits. -/
lemma option_n {s : CommandLine} {arg} :
    ∃ texts, s.option strcmp argv0 (.n arg) = .ok { s with
      readerManager := s.readerManager.readersSettingBitmapBitSet (reading strcmp arg)
      stderr := s.stderr ++ texts } := by
  have four : ((strlen AUTO : Nat) : Int) = 4 := rfl
  unfold CommandLine.option reading
  dsimp only
  rw [four]
  by_cases auto : strcmp arg AUTO = 4
  · rw [if_pos auto, if_pos auto]
    exact ⟨[], by rw [List.append_nil]⟩
  · rw [if_neg auto, if_neg auto]
    by_cases range : atoi arg < 0 ∨ atoi arg ≥ MAX_NUM_READERS
    · rw [if_pos range, if_pos range]
      refine ⟨[TAGEVENTOR_STRING_COMMAND_LINE_READER_NUM_ERROR_1 MAX_NUM_READERS,
        TAGEVENTOR_STRING_COMMAND_LINE_READER_NUM_ERROR_2 arg], ?_⟩
      unfold tReaderManager.readersSettingBitmapBitSet
      rw [BitVec.or_zero]
      rfl
    · rw [if_neg range, if_neg range]
      exact ⟨[], by rw [List.append_nil]; rfl⟩

/-- The two comparisons make the level a possible one. -/
lemma appVerbosityLevelSet_clamp {s : CommandLine} {n} : s.appVerbosityLevelSet n =
    { s with appVerbosityLevel := clamp VERBOSITY_MIN VERBOSITY_MAX n } := by
  have e : (s.appVerbosityLevelSet n).appVerbosityLevel = clamp VERBOSITY_MIN VERBOSITY_MAX n := by
    simp only [CommandLine.appVerbosityLevelSet, clamp, VERBOSITY_MIN, VERBOSITY_MAX]
    omega
  rw [← e]
  rfl

/-- The two comparisons make the delay a possible one. -/
lemma appPollDelaySet_clamp {s : CommandLine} {n} : s.appPollDelaySet n =
    { s with appPollDelayms :=
        clamp POLL_DELAY_MILLI_SECONDS_MIN POLL_DELAY_MILLI_SECONDS_MAX n } := by
  have e : (s.appPollDelaySet n).appPollDelayms =
      clamp POLL_DELAY_MILLI_SECONDS_MIN POLL_DELAY_MILLI_SECONDS_MAX n := by
    simp only [CommandLine.appPollDelaySet, clamp, POLL_DELAY_MILLI_SECONDS_MIN,
      POLL_DELAY_MILLI_SECONDS_MAX]
    omega
  rw [← e]
  rfl

/-- The verbosity is set to the closest one that is possible. -/
lemma option_v {s : CommandLine} {arg} :
    ∃ texts, s.option strcmp argv0 (.v arg) = .ok { s with
      appVerbosityLevel := clamp VERBOSITY_MIN VERBOSITY_MAX (atoi arg)
      stderr := s.stderr ++ texts } := by
  dsimp only [CommandLine.option]
  rw [appVerbosityLevelSet_clamp]
  split
  · exact ⟨_, rfl⟩
  · exact ⟨[], by rw [List.append_nil]⟩

/-- The poll delay is set to the closest one that is possible. -/
lemma option_p {s : CommandLine} {arg} :
    ∃ texts, s.option strcmp argv0 (.p arg) = .ok { s with
      appPollDelayms := clamp POLL_DELAY_MILLI_SECONDS_MIN POLL_DELAY_MILLI_SECONDS_MAX (atoi arg)
      stderr := s.stderr ++ texts } := by
  dsimp only [CommandLine.option]
  rw [appPollDelaySet_clamp]
  split
  · exact ⟨_, rfl⟩
  · exact ⟨[], by rw [List.append_nil]⟩

/-- An argument of `-d` that is accepted is `start` or `stop`. -/
lemma option_d (documented : Strcmp strcmp) {s s' : CommandLine} {arg}
    (step : s.option strcmp argv0 (.d arg) = .ok s') (clean : s'.parseError = false) :
    s' = { s with
      runOptions := if arg = "start".toList then .START_DAEMON else .STOP_DAEMON } := by
  dsimp only [CommandLine.option] at step
  simp only [documented.eq_zero] at step
  split at step
  next start =>
    rw [if_pos start]
    cases step
    rfl
  next other =>
    rw [if_neg other]
    split at step
    · cases step
      rfl
    · cases step
      cases clean

/-- The state that the options lead to, as long as there is no error. -/
inductive Parsed (strcmp : CString → CString → Int) (argv0 : CString) (m : tReaderManager) :
    List CommandOption → CommandLine → Prop where
  | nil :
    Parsed strcmp argv0 m [] (.default m)
  | snoc {opts s o s'} :
    Parsed strcmp argv0 m opts s →
    s.option strcmp argv0 o = .ok s' →
    s'.parseError = false →
    Parsed strcmp argv0 m (opts ++ [o]) s'

/-- What was parsed had no error. -/
lemma Parsed.parseError {opts s} (h : Parsed strcmp argv0 m opts s) : s.parseError = false := by
  cases h with
  | nil => rfl
  | snoc _ _ clean => exact clean

/-- After an error no option is looked at. -/
lemma options_error {opts} {s : CommandLine} (error : s.parseError = true) :
    CommandLine.options strcmp argv0 opts s = .ok s := by
  cases opts with
  | nil => rfl
  | cons o opts => exact if_pos error

/-- Without an error the first option comes before the others. -/
lemma options_cons {o opts} {s : CommandLine} (clean : s.parseError = false) :
    CommandLine.options strcmp argv0 (o :: opts) s =
      (s.option strcmp argv0 o).bind (CommandLine.options strcmp argv0 opts) :=
  if_neg (Bool.eq_false_iff.1 clean)

/-- The loop leads on from where it has come to. -/
lemma Parsed.options {before opts s s'} (h : Parsed strcmp argv0 m before s)
    (run : CommandLine.options strcmp argv0 opts s = .ok s') (clean : s'.parseError = false) :
    Parsed strcmp argv0 m (before ++ opts) s' := by
  induction opts generalizing before s with
  | nil =>
    cases run
    rw [List.append_nil]
    exact h
  | cons o opts ih =>
    rw [options_cons h.parseError] at run
    cases step : s.option strcmp argv0 o with
    | error e =>
      rw [step] at run
      cases run
    | ok s1 =>
      rw [step] at run
      have run : CommandLine.options strcmp argv0 opts s1 = .ok s' := run
      have clean1 : s1.parseError = false := by
        rw [← Bool.not_eq_true]
        intro error
        rw [options_error error] at run
        cases run
        rw [clean] at error
        cases error
      have next := ih (h.snoc step clean1) run
      rwa [List.append_assoc] at next

/-- The loop comes to the states that its options lead to. -/
lemma Parsed.run {opts s} (h : Parsed strcmp argv0 m opts s) {rest} :
    CommandLine.options strcmp argv0 (opts ++ rest) (.default m) =
      CommandLine.options strcmp argv0 rest s := by
  induction h generalizing rest with
  | nil => rfl
  | snoc h step _ ih =>
    rw [List.append_assoc, ih]
    show CommandLine.options strcmp argv0 (_ :: rest) _ = _
    rw [options_cons h.parseError, step]
    rfl

/-- The options before any point of a list that is accepted are accepted. -/
lemma Parsed.before {before after s} (h : Parsed strcmp argv0 m (before ++ after) s) :
    ∃ s', Parsed strcmp argv0 m before s' := by
  generalize e : before ++ after = opts at h
  induction h generalizing after with
  | nil =>
    obtain ⟨rfl, _⟩ := List.append_eq_nil_iff.1 e
    exact ⟨_, .nil⟩
  | @snoc opts s o s' h step clean ih =>
    rcases List.eq_nil_or_concat after with rfl | ⟨after, o', rfl⟩
    · rw [List.append_nil] at e
      subst e
      exact ⟨_, h.snoc step clean⟩
    · rw [List.concat_eq_append, ← List.append_assoc] at e
      exact ih (List.append_inj_left' e rfl)

/-- What the options make of the settings. -/
structure Tracks (strcmp : CString → CString → Int) (m : tReaderManager)
    (opts : List CommandOption) (s : CommandLine) : Prop where
  readerManager : s.readerManager = { m with
    readerSetting := (nArgs opts).foldl (fun b arg => b ||| reading strcmp arg) m.readerSetting }
  verbosity : s.appVerbosityLevel =
    lastOr VERBOSITY_DEFAULT (fun arg => clamp VERBOSITY_MIN VERBOSITY_MAX (atoi arg)) (vArgs opts)
  delay : s.appPollDelayms = lastOr POLL_DELAY_MILLI_SECONDS_DEFAULT
    (fun arg => clamp POLL_DELAY_MILLI_SECONDS_MIN POLL_DELAY_MILLI_SECONDS_MAX (atoi arg))
    (pArgs opts)
  mode : s.runOptions = lastOr .FOREGROUND
    (fun arg => if arg = "start".toList then .START_DAEMON else .STOP_DAEMON) (dArgs opts)

section
variable {α : Type} {default : α} {f : CString → α} {g : CommandOption → Option CString}
  {opts : List CommandOption} {o : CommandOption}

/-- An option of another kind adds no argument. -/
lemma args_other (other : g o = none) : (opts ++ [o]).filterMap g = opts.filterMap g := by
  rw [List.filterMap_append, List.filterMap_cons_none other]
  exact List.append_nil _

/-- Another option does not change which argument is the last one. -/
lemma lastOr_other (other : g o = none) :
    lastOr default f (opts.filterMap g) = lastOr default f ((opts ++ [o]).filterMap g) := by
  rw [args_other other]

/-- An option of this kind is now the last one. -/
lemma lastOr_own {arg a} (own : g o = some arg) (last : a = f arg) :
    a = lastOr default f ((opts ++ [o]).filterMap g) := by
  rw [last, List.filterMap_append, List.filterMap_cons_some own, List.filterMap_nil, lastOr,
    List.getLast?_concat]
  rfl

end

/-- The options are tracked one by one. -/
lemma Parsed.tracks (documented : Strcmp strcmp) {opts s} (h : Parsed strcmp argv0 m opts s) :
    Tracks strcmp m opts s := by
  induction h with
  | nil => exact ⟨rfl, rfl, rfl, rfl⟩
  | @snoc opts s o s' h step clean ih =>
    obtain ⟨manager, verbosity, delay, mode⟩ := ih
    cases o with
    | n arg =>
      obtain ⟨texts, e⟩ := @option_n strcmp argv0 s arg
      rw [e] at step
      cases step
      refine ⟨?_, verbosity.trans (lastOr_other rfl), delay.trans (lastOr_other rfl),
        mode.trans (lastOr_other rfl)⟩
      have added : nArgs (opts ++ [.n arg]) = nArgs opts ++ [arg] := List.filterMap_append
      rw [added, List.foldl_append]
      show s.readerManager.readersSettingBitmapBitSet _ = _
      rw [manager]
      rfl
    | v arg =>
      have kept : nArgs (opts ++ [.v arg]) = nArgs opts := args_other rfl
      obtain ⟨texts, e⟩ := @option_v strcmp argv0 s arg
      rw [e] at step
      cases step
      exact ⟨by rw [kept]; exact manager, lastOr_own rfl rfl, delay.trans (lastOr_other rfl),
        mode.trans (lastOr_other rfl)⟩
    | d arg =>
      have kept : nArgs (opts ++ [.d arg]) = nArgs opts := args_other rfl
      rw [option_d documented step clean]
      exact ⟨by rw [kept]; exact manager, verbosity.trans (lastOr_other rfl),
        delay.trans (lastOr_other rfl), lastOr_own rfl rfl⟩
    | p arg =>
      have kept : nArgs (opts ++ [.p arg]) = nArgs opts := args_other rfl
      obtain ⟨texts, e⟩ := @option_p strcmp argv0 s arg
      rw [e] at step
      cases step
      exact ⟨by rw [kept]; exact manager, verbosity.trans (lastOr_other rfl),
        lastOr_own rfl rfl, mode.trans (lastOr_other rfl)⟩
    | h => cases step
    | other =>
      cases step
      cases clean

/-- Where options that are accepted lead to. -/
lemma parse_ok {opts s} (run : parseCommandLine strcmp argv0 opts m = .ok s) :
    ∃ s0, Parsed strcmp argv0 m opts s0 ∧
      s = if s0.readerManager.readerSetting = READER_BIT_NONE then
        { s0 with readerManager := s0.readerManager.readersSettingBitmapSet READER_BIT_DEFAULT }
      else s0 := by
  unfold parseCommandLine at run
  cases loop : CommandLine.options strcmp argv0 opts (.default m) with
  | error e =>
    rw [loop] at run
    cases run
  | ok s0 =>
    rw [loop] at run
    have run : (if s0.parseError then .error ⟨EXIT_FAILURE, s0.stderr ++ [usage argv0]⟩
      else if s0.readerManager.readersSettingBitmapGet = READER_BIT_NONE then
        .ok { s0 with readerManager := s0.readerManager.readersSettingBitmapSet READER_BIT_DEFAULT }
      else .ok s0 : Except Exited CommandLine) = .ok s := run
    split at run
    · cases run
    next clean =>
      rw [Bool.not_eq_true] at clean
      refine ⟨s0, Parsed.nil.options loop clean, ?_⟩
      split at run
      next none =>
        cases run
        exact (if_pos none).symm
      next some =>
        cases run
        exact (if_neg some).symm

/-- What is selected by the arguments of `-n`. -/
def selected (strcmp : CString → CString → Int) (args : List CString) : BitVec 32 :=
  let bitmap := args.foldl (fun b arg => b ||| reading strcmp arg) READER_BIT_NONE
  if bitmap = READER_BIT_NONE then READER_BIT_DEFAULT else bitmap

/-- The settings that accepted options lead to. -/
lemma accepted_settings (documented : Strcmp strcmp) {opts s}
    (run : parseCommandLine strcmp argv0 opts (readersInit READER_BIT_NONE) = .ok s) :
    s.settings = (false, readersInit (selected strcmp (nArgs opts)),
      lastOr VERBOSITY_DEFAULT (fun arg => clamp VERBOSITY_MIN VERBOSITY_MAX (atoi arg))
        (vArgs opts),
      lastOr POLL_DELAY_MILLI_SECONDS_DEFAULT
        (fun arg => clamp POLL_DELAY_MILLI_SECONDS_MIN POLL_DELAY_MILLI_SECONDS_MAX (atoi arg))
        (pArgs opts),
      lastOr .FOREGROUND
        (fun arg => if arg = "start".toList then .START_DAEMON else .STOP_DAEMON)
        (dArgs opts)) := by
  obtain ⟨s0, parsed, rfl⟩ := parse_ok run
  obtain ⟨manager, verbosity, delay, mode⟩ := parsed.tracks documented
  rw [← verbosity, ← delay, ← mode, ← parsed.parseError, selected]
  have e : (nArgs opts).foldl (fun b arg => b ||| reading strcmp arg) READER_BIT_NONE =
      s0.readerManager.readerSetting := by
    rw [manager]
    rfl
  rw [e]
  split
  next none =>
    show (s0.parseError, s0.readerManager.readersSettingBitmapSet READER_BIT_DEFAULT, _) = _
    rw [manager]
    rfl
  next some =>
    show (s0.parseError, s0.readerManager, _) = _
    congr 2
    rw [manager]
    rfl

/-- A bit is set if it was, or if an argument sets it. -/
lemma fold_bit {args : List CString} {b : BitVec 32} {i} :
    (args.foldl (fun b arg => b ||| reading strcmp arg) b).getLsbD i = true ↔
      b.getLsbD i = true ∨ ∃ arg ∈ args, (reading strcmp arg).getLsbD i = true := by
  induction args generalizing b with
  | nil => simp
  | cons arg args ih =>
    rw [List.foldl_cons, ih, BitVec.getLsbD_or, Bool.or_eq_true, List.exists_mem_cons_iff, or_assoc]

/-- The bits that an argument sets: that for `AUTO`, or that of the reader it is read as. -/
lemma reading_bit {arg i} : (reading strcmp arg).getLsbD i = true ↔
    (strcmp arg AUTO = 4 ∧ i = 0) ∨
      (strcmp arg AUTO ≠ 4 ∧ ∃ k < MAX_NUM_READERS, atoi arg = k ∧ i = k + 1) := by
  unfold reading
  by_cases auto : strcmp arg AUTO = 4
  · rw [if_pos auto]
    simp [auto, READER_BIT_AUTO, BitVec.getLsbD_one]
  · rw [if_neg auto]
    by_cases range : atoi arg < 0 ∨ atoi arg ≥ MAX_NUM_READERS
    · rw [if_pos range]
      simp only [BitVec.getLsbD_zero, Bool.false_eq_true, false_iff]
      rintro (⟨four, _⟩ | ⟨_, k, low, e, _⟩)
      · exact auto four
      · omega
    · rw [if_neg range]
      obtain ⟨n, number⟩ : ∃ n : Nat, atoi arg = n := ⟨(atoi arg).toNat, by omega⟩
      have low : n < 6 := by
        unfold MAX_NUM_READERS at range
        omega
      rw [number, Int.toNat_natCast]
      have bit : (1#32 <<< (n + 1)).getLsbD i = true ↔ i = n + 1 := by
        simp only [BitVec.getLsbD_shiftLeft, BitVec.getLsbD_one]
        simp
        omega
      rw [bit]
      constructor
      · rintro rfl
        exact .inr ⟨auto, n, low, rfl, rfl⟩
      · rintro (⟨four, _⟩ | ⟨_, k, _, e, rfl⟩)
        · exact absurd four auto
        · omega

/-- Which bits the arguments select; without any of them it is the one for AUTO. -/
lemma selected_bit {args i} : (selected strcmp args).getLsbD i = true ↔
    (∃ arg ∈ args, (reading strcmp arg).getLsbD i = true) ∨
      (i = 0 ∧ ∀ arg ∈ args, ∀ j, (reading strcmp arg).getLsbD j = false) := by
  have fold : ∀ j, (args.foldl (fun b arg => b ||| reading strcmp arg)
      READER_BIT_NONE).getLsbD j = true ↔
      ∃ arg ∈ args, (reading strcmp arg).getLsbD j = true := by
    intro j
    rw [fold_bit]
    simp [READER_BIT_NONE]
  have none : args.foldl (fun b arg => b ||| reading strcmp arg) READER_BIT_NONE =
      READER_BIT_NONE ↔ ∀ arg ∈ args, ∀ j, (reading strcmp arg).getLsbD j = false := by
    constructor
    · intro e arg mem j
      rw [← Bool.not_eq_true]
      intro bit
      have set := (fold j).2 ⟨arg, mem, bit⟩
      rw [e] at set
      simp [READER_BIT_NONE] at set
    · intro unset
      apply BitVec.eq_of_getLsbD_eq
      intro j _
      rw [READER_BIT_NONE, BitVec.getLsbD_zero, ← Bool.not_eq_true]
      intro bit
      obtain ⟨arg, mem, bit⟩ := (fold j).1 bit
      rw [unset arg mem j] at bit
      cases bit
  unfold selected
  dsimp only
  rw [← none]
  split
  next e =>
    rw [← fold, e]
    simp [READER_BIT_NONE, READER_BIT_DEFAULT, READER_BIT_AUTO, BitVec.getLsbD_one]
  next e =>
    rw [fold]
    simp [e]

/-- The number of a reader is read as that number. -/
lemma IsReader.atoi {arg k} (h : IsReader arg k) : atoi arg = k := by
  obtain ⟨low, digits, e⟩ := h
  have scan := @sscanfInt_digits arg [] digits
  rw [List.append_nil, List.takeWhile_nil, List.append_nil, e] at scan
  unfold TagEventor.atoi strtol
  rw [scan]
  unfold MAX_NUM_READERS at low
  simp only [Option.getD_some, LONG_MIN, LONG_MAX]
  rw [Int.bmod_eq_of_le] <;> omega

/-- Digits come before letters. -/
lemma IsReader.strcmp_ne (documented : Strcmp strcmp) {arg k} (h : IsReader arg k) :
    strcmp arg AUTO ≠ 4 := by
  obtain ⟨_, ⟨ne, all⟩, _⟩ := h
  cases arg with
  | nil => exact absurd rfl ne
  | cons c arg =>
    have digit := isDigit_toNat (all c List.mem_cons_self)
    have less : c :: arg < AUTO := by
      apply List.Lex.rel
      show c.toNat < 65
      omega
    have := documented.neg.2 less
    omega

/-- AUTO is equal to itself. -/
lemma auto_strcmp (documented : Strcmp strcmp) : strcmp AUTO AUTO ≠ 4 := by
  rw [documented.eq_zero.2 rfl]
  decide

/-- AUTO is no number. -/
lemma auto_atoi : atoi AUTO = 0 := by decide

/-- A valid argument is no text that `strcmp` takes for the difference of four. -/
lemma Valid.strcmp_ne (documented : Strcmp strcmp) {arg} (h : Valid arg) :
    strcmp arg AUTO ≠ 4 := by
  rcases h with rfl | ⟨k, reader⟩
  · exact auto_strcmp documented
  · exact reader.strcmp_ne documented

/-- The bit of a reader is set by its number. -/
lemma IsReader.bit (documented : Strcmp strcmp) {arg k} (h : IsReader arg k) :
    (reading strcmp arg).getLsbD (k + 1) = true :=
  reading_bit.2 (.inr ⟨h.strcmp_ne documented, k, h.1, h.atoi, rfl⟩)

/-- An argument comes with the options before it. -/
lemma nArgs_split {opts before arg after} (e : nArgs opts = before ++ arg :: after) :
    ∃ opts1 opts2, opts = opts1 ++ .n arg :: opts2 ∧ nArgs opts1 = before := by
  obtain ⟨opts1, rest, rfl, e1, e2⟩ := List.filterMap_eq_append_iff.1 e
  obtain ⟨skipped, o, opts2, rfl, none, some, _⟩ := List.filterMap_eq_cons_iff.1 e2
  refine ⟨opts1 ++ skipped, opts2, ?_, ?_⟩
  · cases o with
    | n arg' =>
      cases some
      exact (List.append_assoc _ _ _).symm
    | _ => cases some
  · have nothing : nArgs skipped = [] := List.filterMap_eq_nil_iff.2 none
    show nArgs (opts1 ++ skipped) = before
    rw [nArgs, List.filterMap_append]
    show nArgs opts1 ++ nArgs skipped = before
    rw [nothing, List.append_nil]
    exact e1

/-- The settings after options that have led somewhere. -/
lemma Parsed.settingsAfter {opts s} (h : Parsed strcmp argv0 m opts s) :
    settingsAfter strcmp argv0 opts m = .ok s.settings := by
  have run := @Parsed.run _ _ _ _ _ h []
  rw [List.append_nil] at run
  rw [TagEventor.settingsAfter, run]
  rfl

/-- The bits that are set are those of the arguments. -/
lemma Parsed.bits (documented : Strcmp strcmp) {opts s i}
    (h : Parsed strcmp argv0 (readersInit READER_BIT_NONE) opts s) :
    s.readerManager.readerSetting.getLsbD i = true ↔
      ∃ arg ∈ nArgs opts, (reading strcmp arg).getLsbD i = true := by
  rw [(h.tracks documented).readerManager]
  show (List.foldl _ READER_BIT_NONE _).getLsbD i = true ↔ _
  rw [fold_bit]
  simp [READER_BIT_NONE]

/-- Nothing changes if bits are set that are set already. -/
lemma or_eq_self {a b : BitVec 32} :
    a ||| b = a ↔ ∀ i, b.getLsbD i = true → a.getLsbD i = true := by
  constructor
  · intro e i bit
    rw [← e, BitVec.getLsbD_or, bit, Bool.or_true]
  · intro sub
    apply BitVec.eq_of_getLsbD_eq
    intro i _
    rw [BitVec.getLsbD_or, Bool.eq_iff_iff, Bool.or_eq_true]
    exact or_iff_left_of_imp (sub i)

/-- An argument, on the way to settings that are accepted, changes nothing exactly if its bits are
set by the arguments before it. -/
lemma settings_at (documented : Strcmp strcmp) {opts1 arg opts2 s}
    (h : Parsed strcmp argv0 (readersInit READER_BIT_NONE) (opts1 ++ .n arg :: opts2) s) :
    settingsAfter strcmp argv0 (opts1 ++ [.n arg]) (readersInit READER_BIT_NONE) =
        settingsAfter strcmp argv0 opts1 (readersInit READER_BIT_NONE) ↔
      ∀ i, (reading strcmp arg).getLsbD i = true →
        ∃ arg' ∈ nArgs opts1, (reading strcmp arg').getLsbD i = true := by
  obtain ⟨s1, parsed⟩ := h.before
  obtain ⟨texts, step⟩ := @option_n strcmp argv0 s1 arg
  have next := parsed.snoc step parsed.parseError
  rw [parsed.settingsAfter, next.settingsAfter]
  simp only [← parsed.bits documented]
  rw [← or_eq_self]
  constructor
  · intro e
    injection e with e
    injection e with _ e
    injection e with e
    exact congrArg tReaderManager.readerSetting e
  · intro e
    unfold CommandLine.settings tReaderManager.readersSettingBitmapBitSet
    dsimp only
    rw [e]

/-- If what is not valid is ignored, every bit is set by an argument that is valid. -/
lemma bit_valid {args : List CString}
    (ignored : ∀ before arg after, args = before ++ arg :: after → ¬ Valid arg →
      ∀ i, (reading strcmp arg).getLsbD i = true →
        ∃ arg' ∈ before, (reading strcmp arg').getLsbD i = true)
    {before arg after i} (e : args = before ++ arg :: after)
    (bit : (reading strcmp arg).getLsbD i = true) :
    ∃ arg' ∈ before ++ [arg], Valid arg' ∧ (reading strcmp arg').getLsbD i = true := by
  induction length : before.length using Nat.strong_induction_on generalizing before arg after with
  | _ n ih =>
    by_cases valid : Valid arg
    · exact ⟨arg, by simp, valid, bit⟩
    · obtain ⟨arg', mem, bit'⟩ := ignored before arg after e valid i bit
      obtain ⟨first, between, rfl⟩ := List.append_of_mem mem
      rw [List.append_assoc, List.cons_append] at e
      have shorter : first.length < n := by
        rw [← length, List.length_append, List.length_cons]
        omega
      obtain ⟨arg'', mem'', valid'', bit''⟩ := ih first.length shorter e bit' rfl
      refine ⟨arg'', ?_, valid'', bit''⟩
      rcases List.mem_append.1 mem'' with mem'' | mem''
      · simp [mem'']
      · simp [List.mem_singleton.1 mem'']

/-- If what is asked for is selected, every bit that an argument sets is set by a valid one. -/
lemma SelectsAsked.bit_valid (documented : Strcmp strcmp) {opts s s0}
    (parsed : Parsed strcmp argv0 (readersInit READER_BIT_NONE) opts s0)
    (asked : SelectsAsked strcmp argv0 opts (readersInit READER_BIT_NONE) s)
    {before arg after i} (e : nArgs opts = before ++ arg :: after)
    (bit : (reading strcmp arg).getLsbD i = true) :
    ∃ arg' ∈ before ++ [arg], Valid arg' ∧ (reading strcmp arg').getLsbD i = true := by
  refine TagEventor.bit_valid ?_ e bit
  intro before arg after e invalid
  obtain ⟨opts1, opts2, split, rfl⟩ := nArgs_split e
  exact (settings_at documented (split ▸ parsed)).1 (asked.ignored opts1 arg opts2 split invalid)

/-- The bit for `AUTO` is set by no argument, valid or not. -/
lemma SelectsAsked.noBit (documented : Strcmp strcmp) {opts s s0 arg}
    (parsed : Parsed strcmp argv0 (readersInit READER_BIT_NONE) opts s0)
    (asked : SelectsAsked strcmp argv0 opts (readersInit READER_BIT_NONE) s)
    (mem : arg ∈ nArgs opts) : strcmp arg AUTO ≠ 4 := by
  intro four
  obtain ⟨before, after, e⟩ := List.append_of_mem mem
  obtain ⟨arg', _, valid, bit⟩ :=
    asked.bit_valid documented parsed e (reading_bit.2 (.inl ⟨four, rfl⟩))
  rcases reading_bit.1 bit with ⟨four', _⟩ | ⟨_, k, _, _, zero⟩
  · exact valid.strcmp_ne documented four'
  · cases zero

/-- The word `AUTO` would select reader 0 instead. -/
lemma SelectsAsked.noAuto (documented : Strcmp strcmp) {opts s s0}
    (parsed : Parsed strcmp argv0 (readersInit READER_BIT_NONE) opts s0)
    (bits : s.readerManager.readerSetting = selected strcmp (nArgs opts))
    (asked : SelectsAsked strcmp argv0 opts (readersInit READER_BIT_NONE) s) :
    AUTO ∉ nArgs opts := by
  intro mem
  have set := asked.auto.2 (.inl mem)
  rw [bits] at set
  rcases selected_bit.1 set with ⟨arg, mem', bit⟩ | ⟨_, none⟩
  · rcases reading_bit.1 bit with ⟨four, _⟩ | ⟨_, k, _, _, zero⟩
    · exact asked.noBit documented parsed mem' four
    · cases zero
  · have bit : (reading strcmp AUTO).getLsbD 1 = true :=
      reading_bit.2 (.inr ⟨auto_strcmp documented, 0, by decide, auto_atoi, rfl⟩)
    rw [none AUTO mem 1] at bit
    cases bit

/-- If the options select what is asked for, the arguments are plain. -/
lemma SelectsAsked.plain (documented : Strcmp strcmp) {opts s s0}
    (parsed : Parsed strcmp argv0 (readersInit READER_BIT_NONE) opts s0)
    (bits : s.readerManager.readerSetting = selected strcmp (nArgs opts))
    (asked : SelectsAsked strcmp argv0 opts (readersInit READER_BIT_NONE) s) :
    PlainArgs strcmp (nArgs opts) := by
  have noAuto := asked.noAuto documented parsed bits
  intro before arg after e
  have mem : ∀ arg' ∈ before ++ [arg], arg' ∈ nArgs opts := by
    intro arg' mem
    rw [e, List.append_cons]
    exact List.mem_append_left _ mem
  have own := mem arg (List.mem_append_right _ List.mem_cons_self)
  have noBit := asked.noBit documented parsed own
  refine ⟨fun auto => noAuto (auto ▸ own), noBit, ?_⟩
  intro k low number
  obtain ⟨arg', mem', valid, bit⟩ := asked.bit_valid documented parsed e
    (reading_bit.2 (.inr ⟨noBit, k, low, number, rfl⟩))
  refine ⟨arg', mem', ?_⟩
  rcases valid with auto | ⟨k', reader⟩
  · exact absurd (auto ▸ mem arg' mem') noAuto
  · rcases reading_bit.1 bit with ⟨_, zero⟩ | ⟨_, j, _, number', next⟩
    · cases zero
    · have same := reader.atoi
      have e : k' = k := by omega
      exact e ▸ reader

/-- What is known of every plain argument. -/
lemma PlainArgs.mem {args arg} (plain : PlainArgs strcmp args) (mem : arg ∈ args) :
    arg ≠ AUTO ∧ strcmp arg AUTO ≠ 4 ∧
      ∀ k < MAX_NUM_READERS, atoi arg = k → ∃ arg' ∈ args, IsReader arg' k := by
  obtain ⟨before, after, e⟩ := List.append_of_mem mem
  obtain ⟨noAuto, noBit, reader⟩ := plain before arg after e
  refine ⟨noAuto, noBit, fun k low number => ?_⟩
  obtain ⟨arg', mem', reader⟩ := reader k low number
  refine ⟨arg', ?_, reader⟩
  rw [e, List.append_cons]
  exact List.mem_append_left _ mem'

/-- Plain arguments set the bits of the readers that they are the numbers of. -/
lemma PlainArgs.bit (documented : Strcmp strcmp) {args k} (plain : PlainArgs strcmp args) :
    (∃ arg ∈ args, (reading strcmp arg).getLsbD (k + 1) = true) ↔ ∃ arg ∈ args, IsReader arg k := by
  constructor
  · rintro ⟨arg, mem, bit⟩
    rcases reading_bit.1 bit with ⟨_, zero⟩ | ⟨_, j, low, number, next⟩
    · cases zero
    · cases next
      exact (plain.mem mem).2.2 k low number
  · rintro ⟨arg, mem, reader⟩
    exact ⟨arg, mem, reader.bit documented⟩

/-- If the arguments are plain, no bit is set exactly if none of them is valid. -/
lemma PlainArgs.auto (documented : Strcmp strcmp) {args} (plain : PlainArgs strcmp args) :
    (selected strcmp args).getLsbD 0 = true ↔ AUTO ∈ args ∨ ∀ arg ∈ args, ¬ Valid arg := by
  rw [selected_bit]
  constructor
  · rintro (⟨arg, mem, bit⟩ | ⟨_, none⟩)
    · rcases reading_bit.1 bit with ⟨four, _⟩ | ⟨_, k, _, _, zero⟩
      · exact absurd four (plain.mem mem).2.1
      · cases zero
    · right
      rintro arg mem (auto | ⟨k, reader⟩)
      · exact (plain.mem mem).1 auto
      · have bit := reader.bit documented
        rw [none arg mem] at bit
        cases bit
  · rintro (auto | none)
    · exact absurd rfl (plain.mem auto).1
    · refine .inr ⟨rfl, fun arg mem j => ?_⟩
      rw [← Bool.not_eq_true]
      intro bit
      rcases reading_bit.1 bit with ⟨four, _⟩ | ⟨_, k, low, number, _⟩
      · exact (plain.mem mem).2.1 four
      · obtain ⟨arg', mem', reader⟩ := (plain.mem mem).2.2 k low number
        exact none arg' mem' (.inr ⟨k, reader⟩)

/-- Only the bits of `AUTO` and of the readers are set. -/
lemma selected_others {args i} (high : MAX_NUM_READERS < i) :
    (selected strcmp args).getLsbD i = false := by
  rw [← Bool.not_eq_true, selected_bit]
  rintro (⟨arg, _, bit⟩ | ⟨zero, _⟩)
  · rcases reading_bit.1 bit with ⟨_, zero⟩ | ⟨_, k, low, _, next⟩
    · omega
    · omega
  · omega

/-- The order of the options does not matter. -/
lemma selected_perm {args args'} (perm : List.Perm args' args) :
    selected strcmp args' = selected strcmp args := by
  have comm : RightCommutative fun (b : BitVec 32) arg => b ||| reading strcmp arg :=
    ⟨fun b arg arg' => by rw [BitVec.or_assoc, BitVec.or_comm (reading strcmp arg),
      BitVec.or_assoc]⟩
  unfold selected
  rw [perm.foldl_eq (f := fun (b : BitVec 32) arg => b ||| reading strcmp arg)]

/-- Among plain arguments, one that is not valid sets no bit that is not set already. -/
lemma PlainArgs.ignores (documented : Strcmp strcmp) {args before arg after i}
    (plain : PlainArgs strcmp args) (e : args = before ++ arg :: after) (invalid : ¬ Valid arg)
    (bit : (reading strcmp arg).getLsbD i = true) :
    ∃ arg' ∈ before, (reading strcmp arg').getLsbD i = true := by
  obtain ⟨_, noBit, reader⟩ := plain before arg after e
  rcases reading_bit.1 bit with ⟨four, _⟩ | ⟨_, k, low, number, rfl⟩
  · exact absurd four noBit
  · obtain ⟨arg', mem, reader⟩ := reader k low number
    rcases List.mem_append.1 mem with mem | mem
    · exact ⟨arg', mem, reader.bit documented⟩
    · rw [List.mem_singleton.1 mem] at reader
      exact absurd (.inr ⟨k, reader⟩) invalid

/-- If the arguments are plain, the options select what is asked for. -/
lemma PlainArgs.asked (documented : Strcmp strcmp) {opts s}
    (run : parseCommandLine strcmp argv0 opts (readersInit READER_BIT_NONE) = .ok s)
    (plain : PlainArgs strcmp (nArgs opts)) :
    SelectsAsked strcmp argv0 opts (readersInit READER_BIT_NONE) s := by
  have settings := accepted_settings documented run
  have bits : s.readerManager.readerSetting = selected strcmp (nArgs opts) :=
    congrArg (fun t => t.2.1.readerSetting) settings
  obtain ⟨s0, parsed, _⟩ := parse_ok run
  refine ⟨?_, ?_, ?_, ?_, congrArg (fun t => t.2.2.1) settings,
    congrArg (fun t => t.2.2.2.1) settings, congrArg (fun t => t.2.2.2.2) settings, ?_⟩
  · rw [bits]
    exact plain.auto documented
  · intro k low
    rw [bits, selected_bit, ← plain.bit documented]
    simp
  · intro i high
    rw [bits]
    exact selected_others high
  · intro before arg after e invalid
    have split : nArgs opts = nArgs before ++ arg :: nArgs after := by
      rw [e, nArgs, List.filterMap_append]
      rfl
    exact (settings_at documented (e ▸ parsed)).2 fun i => plain.ignores documented split invalid
  · intro opts' s' perm sameV sameD sameP run'
    rw [accepted_settings documented run', settings, sameV, sameD, sameP, selected_perm perm]

/-- The readers asked for are selected exactly if the arguments are plain. -/
theorem selects_asked_iff (documented : Strcmp strcmp) {opts s}
    (run : parseCommandLine strcmp argv0 opts (readersInit READER_BIT_NONE) = .ok s) :
    SelectsAsked strcmp argv0 opts (readersInit READER_BIT_NONE) s ↔
      PlainArgs strcmp (nArgs opts) := by
  constructor
  · intro asked
    obtain ⟨s0, parsed, _⟩ := parse_ok run
    exact asked.plain documented parsed
      (congrArg (fun t => t.2.1.readerSetting) (accepted_settings documented run))
  · exact PlainArgs.asked documented run

end

/-- A `strcmp` that returns the difference of the first bytes that differ. -/
def strcmpBytes : CString → CString → Int
  | [], [] => 0
  | [], b :: _ => -(max 1 b.toNat)
  | a :: _, [] => max 1 a.toNat
  | a :: s, b :: t => if a = b then strcmpBytes s t else a.toNat - b.toNat

/-- Different characters have different codes. -/
lemma toNat_ne {a b : Char} (ne : a ≠ b) : a.toNat ≠ b.toNat := fun e => ne (Char.toNat_inj.1 e)

/-- The comparison byte by byte is as documented. -/
theorem strcmpBytes_documented : Strcmp strcmpBytes := by
  constructor
  · intro s t
    fun_induction strcmpBytes s t with
    | case1 => exact iff_of_true rfl rfl
    | case2 b t => exact iff_of_false (by omega) nofun
    | case3 a s => exact iff_of_false (by omega) nofun
    | case4 s a t ih => rw [ih, List.cons_inj_right]
    | case5 a s b t ne =>
      have := toNat_ne ne
      exact iff_of_false (by omega) fun e => ne (List.cons.inj e).1
  · intro s t
    fun_induction strcmpBytes s t with
    | case1 => exact iff_of_false (by omega) (List.not_lt_nil _)
    | case2 b t => exact iff_of_true (by omega) (List.nil_lt_cons b t)
    | case3 a s => exact iff_of_false (by omega) (List.not_lt_nil _)
    | case4 s a t ih =>
      rw [ih, List.cons_lt_cons_iff]
      exact ⟨fun lt => .inr ⟨rfl, lt⟩, fun h => h.elim (absurd · (Char.lt_irrefl a)) And.right⟩
    | case5 a s b t ne =>
      rw [List.cons_lt_cons_iff]
      have lt : a < b ↔ a.toNat < b.toNat := Iff.rfl
      simp only [ne, lt, false_and, or_false]
      omega

/-- The word `AUTO` selects the reader 0. -/
theorem auto_selects_zero : ∃ s,
    parseCommandLine strcmpBytes "tagEventor".toList [.n AUTO] (readersInit READER_BIT_NONE) =
      .ok s ∧ s.readerManager.readerSetting = 1#32 <<< 1 ∧
    ¬ SelectsAsked strcmpBytes "tagEventor".toList [.n AUTO] (readersInit READER_BIT_NONE) s := by
  refine ⟨_, rfl, rfl, fun asked => ?_⟩
  have set := asked.auto.2 (.inl (List.mem_singleton.2 rfl))
  exact absurd set (by decide)

/-- The reader 4 is asked for. -/
theorem selects_asked_iff_four : ∃ s,
    parseCommandLine strcmpBytes "tagEventor".toList [.n ['4'], .v ['9']]
      (readersInit READER_BIT_NONE) = .ok s ∧
    (SelectsAsked strcmpBytes "tagEventor".toList [.n ['4'], .v ['9']]
      (readersInit READER_BIT_NONE) s ↔ PlainArgs strcmpBytes [['4']]) :=
  ⟨_, rfl, selects_asked_iff strcmpBytes_documented rfl⟩

end TagEventor
