import SIUnits.Command.Run
import SIUnits.Proofs.Settings.Environment

/-! Logging is not shown. The settings of an environment always name a level that logging can be set
up with (`Log.Channel.exists_ofLevel`), and what a run shows is worked out from the rest of the
settings and of the command line (`Command.shown_eq`). So neither the level nor a request for
verbosity changes the exit code or the output (`Command.shown_of_logging`). -/
namespace SIUnits

/-- A level that settings may name is one of the log. -/
theorem Log.Channel.isSome_severity :
    ∀ name ∈ Settings.levelNames, (severities.lookup name).isSome = true := by
  decide

/-- Logging is set up with any level that settings may have. -/
theorem Log.Channel.exists_ofLevel {name : String} (h : Settings.isLevel name = true)
    (names : Names) (verbose : Bool) : ∃ channel, ofLevel names verbose name = .ok channel := by
  rw [Settings.isLevel, Bool.or_eq_true, decide_eq_true_eq, List.contains_iff_mem] at h
  unfold ofLevel
  cases verbose with
  | true => exact ⟨.configured 10, rfl⟩
  | false =>
    by_cases hempty : name = ""
    · exact ⟨.unconfigured, by simp [hempty]⟩
    · have hsome := isSome_severity name (h.resolve_left hempty)
      obtain ⟨severity, hseverity⟩ := Option.isSome_iff_exists.mp hsome
      exact ⟨.configured severity, by simp [hempty, hseverity]⟩

namespace Session

/-- A session does not look at the level. -/
theorem answerAll_withLevel (console : Console) (settings : Settings) (level prompt : String)
    (lines : List String) :
    answerAll console { settings with logLevel := level } prompt lines =
      answerAll console settings prompt lines := by
  induction lines with
  | nil => rfl
  | cons line rest ih =>
    have hturn : turn console { settings with logLevel := level } line =
        turn console settings line := rfl
    simp only [answerAll, hturn, ih]

theorem run_withLevel (console : Console) (settings : Settings) (level : String)
    (lines : List String) :
    run console { settings with logLevel := level } lines = run console settings lines := by
  have hopening : opening console { settings with logLevel := level } =
      opening console settings := rfl
  simp only [run, answerAll_withLevel, hopening]

end Session

namespace Command

/-- The exit code and the output: all of a report but the log. -/
def Report.shown (r : Report) : Nat × String := (r.exit, r.output)

def Effect.shown (e : Effect) : Nat × String := (e.exit, e.output)

/-- What is shown of a run, unless it ends before it has a report. -/
def shown (s : Surroundings) (args : List String) : Except Breakdown (Nat × String) :=
  (run s args).map Report.shown

/-- What an invocation shows once logging is set up. -/
def shownOf (settings : Settings) (s : Surroundings) (i : Invocation) :
    Except Breakdown (Nat × String) :=
  (effect? settings s i).map fun e => (e.map Effect.shown).getD Report.usage.shown

/-- The surroundings of a program that was just started. -/
def atStart (console : Console) (names : Log.Names) (env : Environment) (input : String)
    (now : Timestamp) (logTime : String) : Surroundings :=
  ⟨console, names, none, env, input, now, logTime⟩

section Run

variable {settings : Settings} {s : Surroundings} {args : List String} {i : Invocation}

theorem shown_of_usage (h : Invocation.ofArguments? args = none) :
    shown s args = .ok Report.usage.shown := by
  rw [shown, run, h]
  rfl

theorem shown_of_invocation (hargs : Invocation.ofArguments? args = some i)
    (hsettings : (settingsOf s).1 = settings) {channel : Log.Channel}
    (hlevel : Log.Channel.ofLevel s.logNames i.options.verbose settings.logLevel = .ok channel) :
    shown s args = shownOf settings s i := by
  have hchannel := channelFor_of_level hlevel
  unfold shown run shownOf
  simp only [hargs, hsettings, hchannel]
  cases effect? settings s i with
  | error breakdown => rfl
  | ok e => cases e <;> rfl

end Run

variable (console : Console) (names : Log.Names) (env : Environment) (input : String)
  (now : Timestamp) (logTime : String)

/-- What a run shows is worked out without its level and its log. -/
theorem shown_eq (args : List String) : shown (atStart console names env input now logTime) args =
    ((Invocation.ofArguments? args).map (shownOf (Settings.ofEnvironment env).1
      (atStart console names env input now logTime))).getD (.ok Report.usage.shown) := by
  cases hargs : Invocation.ofArguments? args with
  | none => exact shown_of_usage hargs
  | some i =>
    have hlevel := Settings.isLevel_readLevel (env Settings.levelVariable)
    rw [← Settings.logLevel_ofEnvironment] at hlevel
    obtain ⟨channel, hchannel⟩ := Log.Channel.exists_ofLevel hlevel names i.options.verbose
    exact shown_of_invocation hargs rfl hchannel

/-- Once logging is set up, it is not the level that ends a run. -/
theorem shownOf_ne_level (settings : Settings) (s : Surroundings) (i : Invocation)
    (fault : Log.LevelFault) : shownOf settings s i ≠ .error (.level fault) := by
  intro h
  unfold shownOf effect? at h
  split at h
  · cases h
  split at h
  · unfold sessionEffect at h
    cases hending : (Session.run s.console settings (Text.lines s.input)).ending <;>
      simp only [hending] at h <;> cases h
  · cases h

/-! ### The level -/

theorem shownOf_withLevel (settings : Settings) (level : String) (env' : Environment)
    (i : Invocation) :
    shownOf { settings with logLevel := level }
        (atStart console names env' input now logTime) i =
      shownOf settings (atStart console names env input now logTime) i := by
  have heffect : effect? { settings with logLevel := level }
      (atStart console names env' input now logTime) i =
        effect? settings (atStart console names env input now logTime) i := by
    simp only [effect?, sessionEffect, atStart, Session.run_withLevel]
  simp only [shownOf, heffect]

variable {env} in
theorem shown_of_agree {env' : Environment}
    (h : ∀ name ≠ Settings.levelVariable, env' name = env name) (args : List String) :
    shown (atStart console names env' input now logTime) args =
      shown (atStart console names env input now logTime) args := by
  have hof : shownOf (Settings.ofEnvironment env').1
      (atStart console names env' input now logTime) =
        shownOf (Settings.ofEnvironment env).1 (atStart console names env input now logTime) := by
    funext i
    rw [Settings.ofEnvironment_of_agree h]
    exact shownOf_withLevel console names env input now logTime _ _ env' i
  rw [shown_eq, shown_eq, hof]

/-! ### Verbosity -/

/-- The invocation with verbosity asked for. -/
def Invocation.verbosely (i : Invocation) : Invocation :=
  { i with options := { i.options with verbose := true } }

/-- One of the two options that ask for verbosity. -/
def IsVerbose (s : String) : Prop := s = "--verbose" ∨ s = "-v"

variable {option : String}

theorem takeOptions_of_isVerbose (h : IsVerbose option) (found : Options) (rest : List String) :
    takeOptions found (option :: rest) = takeOptions { found with verbose := true } rest := by
  have hgroup : isVerboseGroup "-v" = true := by decide
  have hdashes : isOption "--verbose" = true := by decide
  have hdash : isOption "-v" = true := by decide
  rcases h with rfl | rfl
  · simp [takeOptions, hdashes]
  · simp [takeOptions, hdash, hgroup]

theorem takeOptions_verbosely (found : Options) (args : List String) :
    takeOptions { found with verbose := true } args = (takeOptions found args).map fun taken =>
      ({ taken.1 with verbose := true }, taken.2) := by
  induction args generalizing found with
  | nil => rfl
  | cons s rest ih =>
    simp only [takeOptions]
    split
    · rfl
    split
    · rfl
    split
    · exact ih { found with showVersion := true }
    split
    · exact ih { found with verbose := true }
    · rfl

/-- It does not matter where among the options verbosity is asked for. -/
theorem takeOptions_insert (h : IsVerbose option) {before : List String}
    (hbefore : ∀ s ∈ before, isOption s = true ∧ s ≠ "--") (after : List String)
    (found : Options) : takeOptions found (before ++ option :: after) =
      (takeOptions found (before ++ after)).map fun taken =>
        ({ taken.1 with verbose := true }, taken.2) := by
  induction before generalizing found with
  | nil => exact (takeOptions_of_isVerbose h found after).trans (takeOptions_verbosely found after)
  | cons s before ih =>
    rw [List.forall_mem_cons] at hbefore
    obtain ⟨⟨hoption, hdashes⟩, hrest⟩ := hbefore
    simp only [List.cons_append, takeOptions, if_neg hdashes, hoption, Bool.not_true,
      Bool.false_eq_true, if_false]
    split
    · exact ih hrest _
    split
    · exact ih hrest _
    · rfl

theorem ofArguments?_insert (h : IsVerbose option) {before : List String}
    (hbefore : ∀ s ∈ before, isOption s = true ∧ s ≠ "--") (after : List String) :
    Invocation.ofArguments? (before ++ option :: after) =
      (Invocation.ofArguments? (before ++ after)).map Invocation.verbosely := by
  unfold Invocation.ofArguments?
  rw [takeOptions_insert h hbefore]
  match takeOptions ⟨false, false⟩ (before ++ after) with
  | none => rfl
  | some (options, []) => rfl
  | some (options, s :: rest) =>
    simp only [Option.map_some]
    cases Name.ofString? s <;> rfl

/-- Logging is for the log only. Whatever the command line, the input, the environment and the
console are, the exit code and the output stay the same, if there are any, when verbosity is asked
for before the command and when the level is set to any text or unset; and no level keeps a run from
starting. -/
theorem shown_of_logging (console : Console) (names : Log.Names) (env : Environment)
    (input : String) (now : Timestamp) (logTime : String) :
    (∀ option before after, IsVerbose option → (∀ s ∈ before, isOption s = true ∧ s ≠ "--") →
      shown (atStart console names env input now logTime) (before ++ option :: after) =
        shown (atStart console names env input now logTime) (before ++ after)) ∧
    (∀ level args,
      shown (atStart console names (env.set Settings.levelVariable level) input now logTime) args =
        shown (atStart console names env input now logTime) args) ∧
    (∀ args,
      shown (atStart console names (env.unset Settings.levelVariable) input now logTime) args =
        shown (atStart console names env input now logTime) args) ∧
    ∀ args fault,
      run (atStart console names env input now logTime) args ≠ .error (.level fault) := by
  refine ⟨?_, ?_, ?_, ?_⟩
  · intro option before after hoption hbefore
    rw [shown_eq, shown_eq, ofArguments?_insert hoption hbefore, Option.map_map]
    rfl
  · intro level args
    exact shown_of_agree console names input now logTime (fun name hname => if_neg hname) args
  · intro args
    exact shown_of_agree console names input now logTime (fun name hname => if_neg hname) args
  · intro args fault h
    have hshown : shown (atStart console names env input now logTime) args =
        .error (.level fault) := by
      rw [shown, h]
      rfl
    rw [shown_eq] at hshown
    cases hargs : Invocation.ofArguments? args with
    | none => simp [hargs] at hshown
    | some i =>
      simp only [hargs, Option.map_some, Option.getD_some] at hshown
      exact shownOf_ne_level _ _ i fault hshown

/-- Verbosity asked for twice, in both ways. -/
theorem shown_of_logging_twice : IsVerbose "-v" ∧
    (∀ s ∈ ["--verbose"], isOption s = true ∧ s ≠ "--") ∧
    shown (atStart .bare (fun _ => none) .empty "" ⟨2000, 1, 2, 3, 4, 5, 0⟩ "")
        ["--verbose", "-v", "convert", "1 kg = g"] =
      shown (atStart .bare (fun _ => none) .empty "" ⟨2000, 1, 2, 3, 4, 5, 0⟩ "")
        ["--verbose", "convert", "1 kg = g"] :=
  have hverbose : IsVerbose "-v" := .inr rfl
  have hbefore : ∀ s ∈ ["--verbose"], isOption s = true ∧ s ≠ "--" := by decide
  ⟨hverbose, hbefore, (shown_of_logging .bare (fun _ => none) .empty ""
    ⟨2000, 1, 2, 3, 4, 5, 0⟩ "").1 "-v" ["--verbose"] ["convert", "1 kg = g"] hverbose hbefore⟩

end Command

end SIUnits
