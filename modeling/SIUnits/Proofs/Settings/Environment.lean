import SIUnits.Proofs.Text.Lines
import SIUnits.Settings.Basic

/-! Settings read from an environment. Each variable has a say in its own setting only, and a value
that is refused leaves a warning and the default behind. So what is read is always usable, and
written back to an environment it is read as it is, without a warning
(`Settings.ofEnvironment_stable`). -/
namespace SIUnits

namespace Settings

/-! ### What is refused -/

/-- A quit token is refused if it is empty or has a space. -/
def IsRefusedToken (token : String) : Prop := token = "" ∨ ' ' ∈ token.toList

instance (token : String) : Decidable (IsRefusedToken token) := inferInstanceAs (Decidable (_ ∨ _))

/-- A level is refused if it is asked for and none of the five that there are. -/
def IsRefusedLevel (level : String) : Prop :=
  level ≠ "" ∧ level ∉ ["DEBUG", "INFO", "WARNING", "ERROR", "CRITICAL"]

instance (level : String) : Decidable (IsRefusedLevel level) := inferInstanceAs (Decidable (_ ∧ _))

theorem isQuitToken_iff {s : String} : isQuitToken s = true ↔ s ≠ "" ∧ ' ' ∉ s.toList := by
  simp [isQuitToken]

theorem isQuitToken_iff_not_refused {s : String} : isQuitToken s = true ↔ ¬ IsRefusedToken s := by
  rw [isQuitToken_iff, IsRefusedToken, not_or]

theorem isLevel_iff_not_refused {s : String} : isLevel s = true ↔ ¬ IsRefusedLevel s := by
  unfold isLevel IsRefusedLevel
  rw [Bool.or_eq_true, decide_eq_true_eq, List.contains_iff_mem, not_and_or, not_not, not_not]
  rfl

/-- Settings that a session can be run with. -/
structure Usable (s : Settings) : Prop where
  quitToken : ¬ IsRefusedToken s.quitToken
  stripped : Text.strip s.quitToken = s.quitToken
  logLevel : ¬ IsRefusedLevel s.logLevel

/-! ### Single values -/

/-- The default stands in for every token that is refused, so what is read is a quit token. -/
theorem readQuitToken_spec (raw : Option String) :
    isQuitToken (readQuitToken raw).1 = true ∧
      Text.strip (readQuitToken raw).1 = (readQuitToken raw).1 := by
  have hdefault : isQuitToken default.quitToken = true ∧
      Text.strip default.quitToken = default.quitToken := by decide
  unfold readQuitToken
  dsimp only
  split
  · next h => exact ⟨h, Text.strip_strip _⟩
  · exact hdefault

theorem isLevel_readLevel (raw : Option String) : isLevel (readLevel raw).1 = true := by
  have hdefault : isLevel default.logLevel = true := by decide
  unfold readLevel
  dsimp only
  split
  · next h => exact h
  · exact hdefault

/-- The warning about a quit token that is refused. -/
def tokenWarning (token : String) : Log.Record :=
  ⟨.warning, .settings, "Invalid quit token METRICCONV_QUIT_TOKEN=" ++ Text.quoted token ++
    ", using default 'q'"⟩

/-- The warning about a level that is refused. -/
def levelWarning (level : String) : Log.Record :=
  ⟨.warning, .settings, "Invalid log level METRICCONV_LOG_LEVEL=" ++ level ++
    ", logging left unconfigured"⟩

theorem readQuitToken_eq (raw : Option String) {token : String}
    (h : Text.strip (raw.getD "q") = token) : readQuitToken raw =
      if IsRefusedToken token then ("q", [tokenWarning token]) else (token, []) := by
  have hstart : "Invalid quit token " ++ quitVariable ++ "=" =
      "Invalid quit token METRICCONV_QUIT_TOKEN=" := by decide
  have hend : ", using default " ++ Text.quoted default.quitToken = ", using default 'q'" := by
    decide
  have hdefault : default.quitToken = "q" := rfl
  rw [← hdefault] at h
  unfold readQuitToken
  dsimp only
  rw [h, hstart, String.append_assoc, hend]
  by_cases hrefused : IsRefusedToken token
  · have htoken := mt isQuitToken_iff_not_refused.mp (not_not_intro hrefused)
    rw [if_neg htoken, if_pos hrefused]
    rfl
  · rw [if_pos (isQuitToken_iff_not_refused.mpr hrefused), if_neg hrefused]

theorem readLevel_eq (raw : Option String) {level : String}
    (h : Text.upper (raw.getD "") = level) : readLevel raw =
      if IsRefusedLevel level then ("", [levelWarning level]) else (level, []) := by
  have hstart : "Invalid log level " ++ levelVariable ++ "=" =
      "Invalid log level METRICCONV_LOG_LEVEL=" := by decide
  have hdefault : default.logLevel = "" := rfl
  rw [← hdefault] at h
  unfold readLevel
  dsimp only
  rw [h, hstart]
  by_cases hrefused : IsRefusedLevel level
  · have hlevel := mt isLevel_iff_not_refused.mp (not_not_intro hrefused)
    rw [if_neg hlevel, if_pos hrefused]
    rfl
  · rw [if_pos (isLevel_iff_not_refused.mpr hrefused), if_neg hrefused]

/-! ### All settings -/

theorem quitToken_ofEnvironment (env : Environment) :
    (ofEnvironment env).1.quitToken = (readQuitToken (env quitVariable)).1 := by
  simp only [ofEnvironment]

theorem logLevel_ofEnvironment (env : Environment) :
    (ofEnvironment env).1.logLevel = (readLevel (env levelVariable)).1 := by
  simp only [ofEnvironment]

theorem records_ofEnvironment (env : Environment) : (ofEnvironment env).2 =
    (readQuitToken (env quitVariable)).2 ++ (readLevel (env levelVariable)).2 ++
      [(ofEnvironment env).1.loaded] := by
  simp only [ofEnvironment]

theorem usable_ofEnvironment (env : Environment) : (ofEnvironment env).1.Usable := by
  have htoken := readQuitToken_spec (env quitVariable)
  have hlevel := isLevel_readLevel (env levelVariable)
  rw [← quitToken_ofEnvironment] at htoken
  rw [← logLevel_ofEnvironment] at hlevel
  exact ⟨isQuitToken_iff_not_refused.mp htoken.1, htoken.2, isLevel_iff_not_refused.mp hlevel⟩

/-- Another value of the level changes the level in the settings, and nothing else. -/
theorem ofEnvironment_of_agree {env env' : Environment}
    (h : ∀ name ≠ levelVariable, env' name = env name) : (ofEnvironment env').1 =
      { (ofEnvironment env).1 with logLevel := (ofEnvironment env').1.logLevel } := by
  have hquit := h quitVariable (by decide)
  have hprompt := h promptVariable (by decide)
  have hinstructions := h instructionsVariable (by decide)
  simp only [ofEnvironment, hquit, hprompt, hinstructions]

end Settings

/-! ### Writing settings back -/

/-- The environment with its variables set to the settings. -/
def Environment.withSettings (env : Environment) (s : Settings) : Environment :=
  (((env.set Settings.quitVariable s.quitToken).set Settings.promptVariable s.prompt).set
    Settings.instructionsVariable (if s.showInstructions then "true" else "false")).set
    Settings.levelVariable s.logLevel

theorem Environment.withSettings_apply (env : Environment) (s : Settings) :
    env.withSettings s Settings.quitVariable = some s.quitToken ∧
    env.withSettings s Settings.promptVariable = some s.prompt ∧
    env.withSettings s Settings.instructionsVariable =
      some (if s.showInstructions then "true" else "false") ∧
    env.withSettings s Settings.levelVariable = some s.logLevel := by
  have hquit : Settings.quitVariable ≠ Settings.promptVariable ∧
      Settings.quitVariable ≠ Settings.instructionsVariable ∧
      Settings.quitVariable ≠ Settings.levelVariable := by decide
  have hprompt : Settings.promptVariable ≠ Settings.instructionsVariable ∧
      Settings.promptVariable ≠ Settings.levelVariable := by decide
  have hinstructions : Settings.instructionsVariable ≠ Settings.levelVariable := by decide
  simp [withSettings, set, hquit, hprompt, hinstructions]

namespace Settings

/-- The names of the levels are in capitals already. -/
theorem upper_of_not_refused {level : String} (h : ¬ IsRefusedLevel level) :
    Text.upper level = level := by
  have hnames : ∀ name ∈ levelNames, Text.upper name = name := by decide
  rw [← isLevel_iff_not_refused, isLevel, Bool.or_eq_true, decide_eq_true_eq,
    List.contains_iff_mem] at h
  rcases h with rfl | hname
  · decide
  · exact hnames level hname

/-- Settings that can be used are read as they are written, whatever else is in the environment. -/
theorem Usable.ofEnvironment_withSettings {s : Settings} (h : s.Usable) (env : Environment) :
    ofEnvironment (env.withSettings s) = (s, [s.loaded]) := by
  obtain ⟨hquit, hprompt, hinstructions, hlevel⟩ := env.withSettings_apply s
  have hyes : isYes (if s.showInstructions then "true" else "false") = s.showInstructions := by
    cases s.showInstructions <;> decide
  have htoken : readQuitToken (some s.quitToken) = (s.quitToken, []) := by
    rw [readQuitToken_eq (some s.quitToken) h.stripped, if_neg h.quitToken]
  have hread : readLevel (some s.logLevel) = (s.logLevel, []) := by
    have hupper := upper_of_not_refused h.logLevel
    rw [readLevel_eq (some s.logLevel) hupper, if_neg h.logLevel]
  simp only [ofEnvironment, hquit, hprompt, hinstructions, hlevel, htoken, hread, Option.map_some,
    Option.getD_some, hyes, List.nil_append]

/-- The quit token that the environment asks for. -/
def tokenIn (env : Environment) : String := Text.strip ((env quitVariable).getD "q")

/-- The level that the environment asks for. -/
def levelIn (env : Environment) : String := Text.upper ((env levelVariable).getD "")

/-- Settings from an environment can be used. A quit token and a level that are refused are replaced
by the default, and each of them leaves one warning; nothing else is replaced or warned about, and
no variable has a say in another one's setting. Written back to any environment the settings are
read as they are, without a warning. -/
theorem ofEnvironment_stable (env : Environment) :
    (ofEnvironment env).1.Usable ∧
    ((ofEnvironment env).1.quitToken =
        (if IsRefusedToken (tokenIn env) then "q" else tokenIn env) ∧
      (ofEnvironment env).1.logLevel =
        (if IsRefusedLevel (levelIn env) then "" else levelIn env)) ∧
    ((ofEnvironment env).2 =
        (if IsRefusedToken (tokenIn env) then [tokenWarning (tokenIn env)] else []) ++
        (if IsRefusedLevel (levelIn env) then [levelWarning (levelIn env)] else []) ++
        [(ofEnvironment env).1.loaded] ∧
      (ofEnvironment env).1.loaded.level = .debug) ∧
    (∀ env' : Environment,
      (env' quitVariable = env quitVariable →
        (ofEnvironment env').1.quitToken = (ofEnvironment env).1.quitToken) ∧
      (env' promptVariable = env promptVariable →
        (ofEnvironment env').1.prompt = (ofEnvironment env).1.prompt) ∧
      (env' instructionsVariable = env instructionsVariable →
        (ofEnvironment env').1.showInstructions = (ofEnvironment env).1.showInstructions) ∧
      (env' levelVariable = env levelVariable →
        (ofEnvironment env').1.logLevel = (ofEnvironment env).1.logLevel)) ∧
    ∀ env' : Environment, ofEnvironment (env'.withSettings (ofEnvironment env).1) =
      ((ofEnvironment env).1, [(ofEnvironment env).1.loaded]) := by
  have htoken : readQuitToken (env quitVariable) =
      if IsRefusedToken (tokenIn env) then ("q", [tokenWarning (tokenIn env)])
      else (tokenIn env, []) := readQuitToken_eq _ rfl
  have hlevel : readLevel (env levelVariable) =
      if IsRefusedLevel (levelIn env) then ("", [levelWarning (levelIn env)])
      else (levelIn env, []) := readLevel_eq _ rfl
  refine ⟨usable_ofEnvironment env, ⟨?_, ?_⟩, ⟨?_, rfl⟩, ?_, ?_⟩
  · rw [quitToken_ofEnvironment, htoken]
    split <;> rfl
  · rw [logLevel_ofEnvironment, hlevel]
    split <;> rfl
  · rw [records_ofEnvironment, htoken, hlevel]
    split <;> split <;> rfl
  · intro env'
    simp only [ofEnvironment]
    exact ⟨fun h => by rw [h], fun h => by rw [h], fun h => by rw [h], fun h => by rw [h]⟩
  · intro env'
    exact (usable_ofEnvironment env).ofEnvironment_withSettings env'

end Settings

end SIUnits
